import Lookout.Container.Stats
import Lookout.Proofs.Json.Kind
import Lookout.Proofs.Json.Size

/-!
# What is made of a sample

The daemon leaves out of a sample what it does not know, and what it calls the page cache depends on
the kernel. A sample is decoded whatever is left out of it (`StatsSample.covers`), and what it says
can be told from the tree of its text alone (`SampleReading.of`): each counter is the word in its
place and zero if there is none, the page cache is the first of two entries that is a word, and the
counters of the processors are counted. A sample that is decoded says this and nothing else
(`StatsSample.reading_of_decoder`), record by record, since each field takes what stands in its
place (`Fields.takes_of_record`).

From there on it is arithmetic. The use of memory is a difference of natural numbers, cut at zero,
and there is always a processor. The number of processors is that of the counters only if it fits a
word, which it does since no array has more items than its text has bytes.

* `SampleReading.of` — what the text of a sample says;
* `StatsSample.kind`, `StatsSample.covers` — which samples are decoded;
* `StatsSample.reading_of_decoder` — what a sample that was decoded says;
* `StatsSample.toNat_memUsed`, `StatsSample.toNat_cpus` — what is made of it;
* `StatsSample.exact_read` — all of it, for every text.
-/

namespace Lookout

open Json (Node Decoder Document Field Fields Kind Place Value)

/-- **What the text of a sample says.** -/
structure SampleReading where
  /-- Processor time of the container and of the host. -/
  total : UInt64
  system : UInt64
  /-- The same at the previous sample. -/
  previousTotal : UInt64
  previousSystem : UInt64
  /-- How many processors are online, and how many have a counter. -/
  online : UInt64
  counters : Nat
  /-- Bytes in use, those of the page cache among them, and the most that may be in use. -/
  usage : UInt64
  cache : UInt64
  limit : UInt64

/-! ### The names of the fields -/

/-- Members of the processor times that are used. -/
def CpuUsage.names : List String := ["total_usage", "percpu_usage"]

/-- Members of the processor statistics that are used. -/
def CpuStats.names : List String := ["cpu_usage", "system_cpu_usage", "online_cpus"]

/-- Members of the memory statistics that are used. -/
def MemoryStats.names : List String := ["usage", "limit", "stats"]

/-- Members of a sample that are used. -/
def StatsSample.names : List String := ["cpu_stats", "precpu_stats", "memory_stats"]

namespace SampleReading

/-- The word in a place, or zero. -/
def word (found : Option Node) : UInt64 := (found.bind Node.word?).getD 0

/-- The words in the places of processor time: that of the container and that of the host. -/
def times (cpu : Option Node) : UInt64 × UInt64 :=
  let usage := cpu.bind (·.field? CpuStats.names "cpu_usage")
  (word (usage.bind (·.field? CpuUsage.names "total_usage")),
    word (cpu.bind (·.field? CpuStats.names "system_cpu_usage")))

/-- The items in the place of the counters. -/
def countersOf (cpu : Option Node) : Nat :=
  let usage := cpu.bind (·.field? CpuStats.names "cpu_usage")
  ((usage.bind (·.field? CpuUsage.names "percpu_usage")).map Node.count).getD 0

/-- The page cache: the entry `cache` if it is a word, else `inactive_file` if that is one, else
nothing. -/
def cacheOf (memory : Option Node) : UInt64 :=
  let entry := fun key =>
    ((memory.bind (·.field? MemoryStats.names "stats")).bind (·.latest? key)).bind Node.word?
  ((entry "cache").or (entry "inactive_file")).getD 0

/-- **The reading of a JSON tree.** It is written down without the decoder, from the member that
each number stands in, so that `exact_read` compares two accounts of a sample. -/
def of (root : Node) : SampleReading :=
  let cpu := root.field? StatsSample.names "cpu_stats"
  let previous := root.field? StatsSample.names "precpu_stats"
  let memory := root.field? StatsSample.names "memory_stats"
  { total := (times cpu).1
    system := (times cpu).2
    previousTotal := (times previous).1
    previousSystem := (times previous).2
    online := word (cpu.bind (·.field? CpuStats.names "online_cpus"))
    counters := countersOf cpu
    usage := word (memory.bind (·.field? MemoryStats.names "usage"))
    cache := cacheOf memory
    limit := word (memory.bind (·.field? MemoryStats.names "limit")) }

/-- The bytes in use without those of the page cache, of which no more count than are in use. -/
def used (r : SampleReading) : Nat :=
  r.usage.toNat - min r.usage.toNat r.cache.toNat

/-- How many processors the container may use: those that are online, else those with a counter,
else one. -/
def processors (r : SampleReading) : Nat :=
  if 0 < r.online then r.online.toNat else if 0 < r.counters then r.counters else 1

end SampleReading

/-! ### Which samples are decoded -/

/-- Processor times have a total, and may have a list of counters. -/
def CpuUsage.kind : Kind :=
  .record [("total_usage", .word), ("percpu_usage", .optional (.list .word))]

/-- Two levels of room are enough: one for the members, and one for the items of `percpu_usage`. -/
theorem CpuUsage.covers (room : Nat) : decoder.Covers ⟨.text, room + 2⟩ kind := by
  refine Decoder.Covers.map (Fields.Covers.record ?_ (by decide) _) _
  refine .cons rfl ?total (.cons rfl ?counters .nil)
  case total => exact Decoder.covers_word
  case counters => exact Decoder.covers_word.list.optional

/-- The statistics of processors may leave out all but the times. -/
def CpuStats.kind : Kind :=
  .record [("cpu_usage", CpuUsage.kind), ("system_cpu_usage", .optional .word),
    ("online_cpus", .optional .word)]

/-- Of the statistics of processors `cpu_usage` goes deepest (`CpuUsage.covers`), and it is one
level down. -/
theorem CpuStats.covers (room : Nat) : decoder.Covers ⟨.text, room + 3⟩ kind := by
  refine Decoder.Covers.map (Fields.Covers.record ?_ (by decide) _) _
  refine .cons rfl ?usage (.cons rfl ?system (.cons rfl ?online .nil))
  case usage => exact CpuUsage.covers room
  case system => exact Decoder.covers_word.optional
  case online => exact Decoder.covers_word.optional

/-- The details may be any values, as deep as there is room. -/
def MemoryStats.kind (room : Nat) : Kind :=
  .record [("usage", .optional .word), ("limit", .optional .word), ("stats", .optional (.map room))]

/-- Here the room is part of the kind, since `stats` is read as a value and not as a record. -/
theorem MemoryStats.covers (room : Nat) : decoder.Covers ⟨.text, room + 1⟩ (kind room) := by
  refine Decoder.Covers.map (Fields.Covers.record ?_ (by decide) _) _
  refine .cons rfl ?usage (.cons rfl ?limit (.cons rfl ?details .nil))
  case usage => exact Decoder.covers_word.optional
  case limit => exact Decoder.covers_word.optional
  case details => exact Decoder.covers_map.optional

/-- **A sample as the daemon writes it.** Whatever it does not know may be absent, and most of it
also null; there may be other members. -/
def StatsSample.kind : Kind :=
  .record [("cpu_stats", CpuStats.kind), ("precpu_stats", CpuStats.kind),
    ("memory_stats", MemoryStats.kind (Json.maxDepth - 2))]

/-- **Whatever the daemon leaves out, its sample is decoded.** A text may nest its values
`Json.maxDepth` levels deep. The outermost level is that of the record itself, so `CpuStats.covers`
and `MemoryStats.covers` are asked with what is left below it. -/
theorem StatsSample.covers : decoder.Covers ⟨.text, Json.maxDepth⟩ kind := by
  refine Decoder.Covers.map (Fields.Covers.record ?_ (by decide) _) _
  refine .cons rfl ?cpu (.cons rfl ?previous (.cons rfl ?memory .nil))
  case cpu => exact CpuStats.covers 123
  case previous => exact CpuStats.covers 123
  case memory => exact MemoryStats.covers 125

/-! ### What is decoded -/

variable {p : Place} {n : Node} {found : Option Node}

theorem SampleReading.word_of_takes {name : String} {a : Option UInt64}
    (h : Field.Takes ⟨name, Decoder.option Decoder.uint64, some none⟩ p found a) :
    SampleReading.word found = a.getD 0 := by
  rw [SampleReading.word, Field.word?_of_takes h]

/-- What a tree says of the use of processor. -/
structure CpuUsage.Says (found : Option Node) (u : CpuUsage) : Prop where
  total : SampleReading.word (found.bind (·.field? names "total_usage")) = u.total
  counters : ((found.bind (·.field? names "percpu_usage")).map Node.count).getD 0 =
    (u.perCpu.map List.length).getD 0

theorem CpuUsage.says_of_takes {name : String} {u : CpuUsage}
    (h : Field.Takes ⟨name, CpuUsage.decoder, some {}⟩ p found u) : u.Says found := by
  cases found with
  | none =>
    obtain rfl := Option.some.inj h
    exact ⟨rfl, rfl⟩
  | some n =>
    obtain ⟨⟨total, perCpu, ⟨⟩⟩, hrecord, rfl⟩ := Json.map_eq_ok h
    obtain ⟨inner, -, htotal, hcounters, -⟩ := Fields.takes_of_record (by decide) hrecord
    exact ⟨Field.getD_of_takes htotal, Field.count_of_takes hcounters⟩

/-- What a tree says of processor time. -/
structure CpuStats.Says (found : Option Node) (c : CpuStats) : Prop where
  usage : c.usage.Says (found.bind (·.field? names "cpu_usage"))
  system : SampleReading.word (found.bind (·.field? names "system_cpu_usage")) = c.system.getD 0
  online : SampleReading.word (found.bind (·.field? names "online_cpus")) = c.online.getD 0

/-- What was decoded is what the tree `Says`: the fields one by one, and none if there is no
object. -/
theorem CpuStats.says_of_takes {name : String} {c : CpuStats}
    (h : Field.Takes ⟨name, CpuStats.decoder, some {}⟩ p found c) : c.Says found := by
  cases found with
  | none =>
    obtain rfl := Option.some.inj h
    exact ⟨⟨rfl, rfl⟩, rfl, rfl⟩
  | some n =>
    obtain ⟨⟨usage, system, online, ⟨⟩⟩, hrecord, rfl⟩ := Json.map_eq_ok h
    obtain ⟨inner, -, husage, hsystem, honline, -⟩ := Fields.takes_of_record (by decide) hrecord
    exact ⟨CpuUsage.says_of_takes husage, SampleReading.word_of_takes hsystem,
      SampleReading.word_of_takes honline⟩

/-- What a tree says of memory. -/
structure MemoryStats.Says (found : Option Node) (m : MemoryStats) : Prop where
  usage : SampleReading.word (found.bind (·.field? names "usage")) = m.usage.getD 0
  limit : SampleReading.word (found.bind (·.field? names "limit")) = m.limit.getD 0
  details : ∀ key, ((found.bind (·.field? names "stats")).bind (·.latest? key)).bind Node.word? =
    (m.details.bind (·.get? key)).bind Value.word?

/-- What was decoded of the memory is what the tree says of it, field by field. -/
theorem MemoryStats.says_of_takes {name : String} {m : MemoryStats}
    (h : Field.Takes ⟨name, MemoryStats.decoder, some {}⟩ p found m) : m.Says found := by
  cases found with
  | none =>
    obtain rfl := Option.some.inj h
    exact ⟨rfl, rfl, fun _ => rfl⟩
  | some n =>
    obtain ⟨⟨usage, limit, details, ⟨⟩⟩, hrecord, rfl⟩ := Json.map_eq_ok h
    obtain ⟨inner, -, husage, hlimit, hdetails, -⟩ := Fields.takes_of_record (by decide) hrecord
    exact ⟨SampleReading.word_of_takes husage, SampleReading.word_of_takes hlimit,
      Field.get?_of_takes hdetails⟩

namespace StatsSample

variable {s : StatsSample}

/-- What a sample says once it is decoded. -/
def reading (s : StatsSample) : SampleReading :=
  { total := s.cpu.usage.total
    system := s.cpu.system.getD 0
    previousTotal := s.previous.usage.total
    previousSystem := s.previous.system.getD 0
    online := s.cpu.online.getD 0
    counters := (s.cpu.usage.perCpu.map List.length).getD 0
    usage := s.memory.usage.getD 0
    cache := s.pageCache
    limit := s.memory.limit.getD 0 }

/-- A detail is a number if it is written as one, whatever kinds of values there are. -/
theorem detail?_eq (s : StatsSample) (key : String) :
    s.detail? key = (s.memory.details.bind (·.get? key)).bind Value.word? := by
  rw [detail?]
  cases s.memory.details.bind (·.get? key) with
  | none => rfl
  | some v =>
    cases v with
    | number n => cases n <;> rfl
    | null | bool | string | array | object => rfl

/-- **A sample that is decoded says what its tree says:** its `reading` is `SampleReading.of` the
tree. The fields are taken one by one, by the lemmas above. -/
theorem reading_of_decoder (h : decoder p n = .ok s) : s.reading = .of n := by
  obtain ⟨⟨cpu, previous, memory, ⟨⟩⟩, hrecord, rfl⟩ := Json.map_eq_ok h
  obtain ⟨inner, -, hcpu, hprevious, hmemory, -⟩ := Fields.takes_of_record (by decide) hrecord
  have hcpu : cpu.Says (n.field? names "cpu_stats") := CpuStats.says_of_takes hcpu
  have hprevious : previous.Says (n.field? names "precpu_stats") :=
    CpuStats.says_of_takes hprevious
  have hmemory : memory.Says (n.field? names "memory_stats") := MemoryStats.says_of_takes hmemory
  -- The page cache is found by name, all else is a field.
  have hcache : SampleReading.cacheOf (n.field? names "memory_stats") =
      pageCache ⟨cpu, previous, memory⟩ := by
    rw [SampleReading.cacheOf, pageCache, detail?_eq, detail?_eq]
    dsimp only
    rw [hmemory.details, hmemory.details]
  rw [reading, SampleReading.of]
  dsimp only [SampleReading.times, SampleReading.countersOf]
  rw [hcpu.usage.total, hcpu.system, hprevious.usage.total, hprevious.system, hcpu.online,
    hcpu.usage.counters, hmemory.usage, hcache, hmemory.limit]

/-! ### What is made of it -/

/-- **What is used does not wrap:** the page cache is taken off `usage` only as far as there is
something to take it off. -/
theorem toNat_memUsed (s : StatsSample) : s.memUsed.toNat = s.reading.used := by
  rw [memUsed, SampleReading.used]
  dsimp only [reading]
  -- Either the cache is not more than what is used, or nothing is left.
  by_cases h : s.pageCache ≤ s.memory.usage.getD 0
  · rw [if_pos h, UInt64.toNat_sub_of_le _ _ h, Nat.min_eq_right (UInt64.le_iff_toNat_le.mp h)]
  · have hless := Nat.le_of_lt (UInt64.lt_iff_toNat_lt.mp (UInt64.not_le.mp h))
    rw [if_neg h, Nat.min_eq_left hless, Nat.sub_self]
    rfl

/-- The counters are counted in a word, which holds their number under the condition `fits`;
`SampleReading.counters_le` meets it. -/
theorem toNat_counters (s : StatsSample) (fits : s.reading.counters < 2 ^ 64) :
    (cpus.counters s).toNat = if 0 < s.reading.counters then s.reading.counters else 1 := by
  have hcount : (UInt64.ofNat s.reading.counters).toNat = s.reading.counters :=
    UInt64.toNat_ofNat_of_lt fits
  unfold cpus.counters
  split
  · next hzero =>
    -- A word that is zero may be a number that is not, but for `fits`.
    have hnone : s.reading.counters = 0 := by
      rw [← hcount]
      exact congrArg UInt64.toNat hzero
    rw [hnone]
    rfl
  · next hne =>
    have hsome : 0 < s.reading.counters := Nat.pos_of_ne_zero fun hzero => hne <| by
      change UInt64.ofNat s.reading.counters = 0
      rw [hzero]
      rfl
    rw [if_pos hsome]
    exact hcount

/-- There is at least one processor, as an empty list of counters counts for one. -/
theorem counters_pos (s : StatsSample) : 0 < cpus.counters s := by
  unfold cpus.counters
  split
  · decide
  · next hne => exact UInt64.pos_iff_ne_zero.mpr hne

/-- The processors are those that are online, and if none is told to be, the counters. -/
theorem cpus_eq (s : StatsSample) :
    s.cpus = if 0 < s.reading.online then s.reading.online else cpus.counters s := by
  obtain ⟨⟨usage, system, online⟩, previous, memory⟩ := s
  cases online <;> rfl

/-- The number of processors is the one that is read from the tree, which is a number that can be
counted. -/
theorem toNat_cpus (s : StatsSample) (fits : s.reading.counters < 2 ^ 64) :
    s.cpus.toNat = s.reading.processors := by
  rw [cpus_eq, SampleReading.processors, apply_ite UInt64.toNat, s.toNat_counters fits]

theorem cpus_pos (s : StatsSample) : 0 < s.cpus := by
  rw [cpus_eq]
  split
  · assumption
  · exact s.counters_pos

end StatsSample

/-! ### From a text -/

/-- A sample has no more counters than its text has bytes. -/
theorem SampleReading.counters_le (bytes : List UInt8) :
    (of (Document.read bytes).root).counters ≤ bytes.length := by
  -- A narrow tree is narrow wherever one goes from its root.
  have hroot := Document.narrow_read bytes
  change countersOf _ ≤ _
  rw [countersOf]
  cases hcpu : (Document.read bytes).root.field? StatsSample.names "cpu_stats" with
  | none => exact Nat.zero_le _
  | some cpu =>
    dsimp only [Option.bind_some]
    cases husage : cpu.field? CpuStats.names "cpu_usage" with
    | none => exact Nat.zero_le _
    | some usage =>
      dsimp only [Option.bind_some]
      cases hcounters : usage.field? CpuUsage.names "percpu_usage" with
      | none => exact Nat.zero_le _
      | some counters =>
        have hnarrow := ((hroot.of_field? hcpu).of_field? husage).of_field? hcounters
        exact hnarrow.count_le

namespace StatsSample

variable {bytes : List UInt8} {s : StatsSample}

/-- What was decoded says what the tree of the text says; `reading_of_decoder` for the text as a
whole. -/
theorem reading_of_ofBytes (h : ofBytes bytes = .ok s) :
    s.reading = .of (Document.read bytes).root := by
  obtain ⟨decoded, hdecoded, h⟩ := Json.bind_eq_ok h
  split at h
  · cases h
  · cases h
    exact reading_of_decoder hdecoded

/-- **A sample that is written as it should be is decoded,** since its decoder covers that kind
(`StatsSample.covers`). `whole` excludes anything behind the value. -/
theorem exists_ofBytes (written : kind (Document.read bytes).root = true)
    (whole : (Document.read bytes).trailing = false) : ∃ s, ofBytes bytes = .ok s := by
  obtain ⟨s, hs⟩ := covers _ written
  refine ⟨s, ?_⟩
  rw [ofBytes, Decoder.decodeDocument, hs, whole]
  rfl

/-- **Memory and processors are exact.** A sample is decoded whatever the daemon leaves out of it
(`exists_ofBytes`). What clients see of any sample that is decoded follows from what its text says
(`reading_of_ofBytes`): the bytes in use less those of the page cache, but never less than none, the
limit as it stands, and the use of as many processors as are online, or have a counter, or one. A
text is in memory, so its bytes are counted in a word. -/
theorem exact_read (bytes : List UInt8) (short : bytes.length < 2 ^ 64) :
    let d := Document.read bytes
    let r := SampleReading.of d.root
    (kind d.root = true → d.trailing = false → ∃ s, ofBytes bytes = .ok s) ∧
      ∀ s containerId, ofBytes bytes = .ok s →
        let stats := s.toStats containerId
        stats.memUsed.toNat = r.used ∧ stats.memLimit = r.limit ∧
          s.cpus.toNat = r.processors ∧ 0 < s.cpus ∧
          stats.cpuPercent = cpuPercent (r.total.toFloat - r.previousTotal.toFloat)
            (r.system.toFloat - r.previousSystem.toFloat) s.cpus.toFloat := by
  intro d r
  -- What was decoded is the reading of the tree, and each number of it is computed without a wrap.
  refine ⟨exists_ofBytes, fun s containerId decoded => ?_⟩
  have hreading : s.reading = r := reading_of_ofBytes decoded
  have fits : r.counters < 2 ^ 64 := Nat.lt_of_le_of_lt (SampleReading.counters_le bytes) short
  rw [← hreading] at fits ⊢
  exact ⟨s.toNat_memUsed, rfl, s.toNat_cpus fits, s.cpus_pos, rfl⟩

/-- A sample with as much memory in use as can be counted. No processor is said to be online, the
limit is none, and of the entries for the page cache two are no words and one comes twice. -/
def awkward : List UInt8 :=
  ("\x7b\"cpu_stats\":\x7b\"cpu_usage\":\x7b\"percpu_usage\":[1,2,3]\x7d,\"online_cpus\":0\x7d," ++
    "\"memory_stats\":\x7b\"usage\":18446744073709551615,\"limit\":null,\"stats\":" ++
    "\x7b\"cache\":-1,\"inactive_file\":1.5,\"inactive_file\":300,\"x\":\"y\"\x7d\x7d\x7d"
    ).toUTF8.toList

/-- More cache than is in use, no limit, and more processors counted than are said to be online. -/
theorem exact_read_awkward :
    awkward.length < 2 ^ 64 ∧ ∃ s, ofBytes awkward = .ok s ∧
      (s.toStats "db").memUsed = 18446744073709551315 ∧ (s.toStats "db").memLimit = 0 ∧
      s.cpus = 3 := by
  have hshort : awkward.length < 2 ^ 64 := by decide +kernel
  obtain ⟨hdecodes, hexact⟩ := exact_read awkward hshort
  obtain ⟨s, hs⟩ := hdecodes (by decide +kernel) (by decide +kernel)
  obtain ⟨hused, hlimit, hcpus, -⟩ := hexact s "db" hs
  have hsays : (SampleReading.of (Document.read awkward).root).used = 18446744073709551315 ∧
      (SampleReading.of (Document.read awkward).root).limit = 0 ∧
      (SampleReading.of (Document.read awkward).root).processors = 3 := by decide +kernel
  exact ⟨hshort, s, hs, UInt64.toNat_inj.mp (hused.trans hsays.1), hlimit.trans hsays.2.1,
    UInt64.toNat_inj.mp (hcpus.trans hsays.2.2)⟩

end StatsSample

end Lookout
