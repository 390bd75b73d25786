import Lookout.Proofs.Task.Chronicle

/-!
# Samples are fresh, and the last one is not lost

The chronicle of a feed fits to the feed at every moment, whatever the order in which the reader and
the sender go on (`Chronicle.sound_of`). What it says depends on the phase of the sender: how many
samples it has taken, queued, and how many ticks it has passed differ by one at most, and in which
way they differ is what the phase is about.

Two things follow. Each sample that is queued was the newest one when it was taken
(`Chronicle.Fresh`), and a sender that has come to its end without failing has queued the last
sample of all as its last one (`Chronicle.Sound.last`).

* `Chronicle.Sound` — how the chronicle fits to the feed, `Chronicle.At` — in each phase;
* `Chronicle.Next.sound` — it goes on to fit, whatever an incident does;
* `Chronicle.Fresh`, `Chronicle.Sound.fresh` — samples never go back;
* `Chronicle.Sound.last`, `Chronicle.Sound.closing` — the last sample is queued, and only once.
-/

namespace Lookout

/-- What stands somewhere in a list stands there when more follows; by
`List.getElem?_append_left`. -/
theorem getElem?_append_of_some {α : Type} {l more : List α} {k : Nat} {a : α}
    (h : l[k]? = some a) : (l ++ more)[k]? = some a := by
  obtain ⟨hlt, rfl⟩ := List.getElem?_eq_some_iff.mp h
  rw [List.getElem?_append_left hlt, List.getElem?_eq_getElem hlt]

namespace Chronicle

/-! ### How the chronicle fits to the feed -/

/-- How many samples there were when the sender took the last one. -/
def taken (r : Chronicle) : Nat := (r.takes.getLast?.map (·.count)).getD 0

/-- The cell says whether there is a sample that was not taken. -/
def Seen (r : Chronicle) : Prop := r.feed.cell.unseen = decide (r.taken < r.stored.length)

/-- The sender has not taken the last sample that it sends. -/
def Open (r : Chronicle) : Prop := ∀ take ∈ r.takes, take.closing = false

/-- **The sender has taken the last sample that it sends,** after the reader had stopped. It is one
that was not taken before. -/
def Closing (r : Chronicle) : Prop :=
  r.feed.reader = none ∧ ∃ before, r.takes = before ++ [⟨r.stored.length, true⟩] ∧
    ∀ take ∈ before, take.closing = false ∧ take.count < r.stored.length

/-- A sample was taken and is not queued yet. -/
structure Holds (r : Chronicle) (s : ContainerStats) : Prop where
  takes : r.takes.length = r.pushes.length + 1
  ticks : r.ticks = r.pushes.length
  last : ∃ take, r.takes.getLast? = some take ∧ r.stored[take.count - 1]? = some s

/-- What a phase of the sender says about the chronicle. -/
def At (r : Chronicle) : SenderPhase → Prop
  -- Before the first sample: nothing was taken, and what is unseen is what was stored.
  | .opening | .reporting _ =>
    r.feed.reader = none ∧ r.Seen ∧ r.stored = [] ∧ r.takes = [] ∧ r.pushes = [] ∧ r.ticks = 0
  | .awaiting => r.Seen ∧ r.takes = [] ∧ r.pushes = [] ∧ r.ticks = 0
  -- In `taking` the tick has passed, so that a sample is taken for each one; while one is held the
  -- push is one behind, which `Holds` says, and in `waiting` it has caught up.
  | .taking _ =>
    r.stored ≠ [] ∧ r.Open ∧ r.pushes.length = r.takes.length ∧ r.takes.length = r.ticks
  | .sending s _ => r.stored ≠ [] ∧ r.Seen ∧ r.Open ∧ r.Holds s
  | .waiting _ => r.stored ≠ [] ∧ r.Seen ∧ r.Open ∧ r.pushes.length = r.takes.length ∧
    r.takes.length = r.ticks + 1
  | .checking _ => r.stored ≠ [] ∧ r.Seen ∧ r.Open ∧ r.pushes.length = r.takes.length ∧
    r.takes.length = r.ticks
  | .sendingLast s => r.Closing ∧ r.Holds s
  -- In the end, unless a send failed, the last sample that was stored is the last one taken.
  | .finished => (r.Open ∨ r.Closing) ∧ (r.failed = false →
    r.feed.reader = none ∧ r.pushes.length = r.takes.length ∧ r.taken = r.stored.length)

/-- **How the chronicle fits to the feed.** -/
structure Sound (r : Chronicle) : Prop where
  latest : r.feed.cell.latest = r.stored.getLast?
  counts : (r.takes.map (·.count)).Pairwise (· ≤ ·)
  bounded : ∀ take ∈ r.takes, 1 ≤ take.count ∧ take.count ≤ r.stored.length
  /-- What was queued is what was taken. -/
  pushed : ∀ (k : Nat) (push : SamplePush), r.pushes[k]? = some push →
    push.ticks = k ∧ ∃ (take : Take) (s : ContainerStats), r.takes[k]? = some take ∧
      r.stored[take.count - 1]? = some s ∧ push.message = s.toMessage
  failed : r.failed = true → r.feed.phase = .finished
  phase : r.At r.feed.phase

variable {r r' : Chronicle}

/-- A feed that starts has stored nothing and sent nothing, and each field of `Sound` is about
nothing. -/
theorem Sound.start {feed : StatsFeed} (phase : feed.phase = .opening) (reader : feed.reader = none)
    (cell : feed.cell = {}) : ({ feed } : Chronicle).Sound where
  latest := by rw [cell]; rfl
  counts := .nil
  bounded := nofun
  pushed := nofun
  failed := nofun
  phase := by
    rw [phase]
    exact ⟨reader, by rw [Seen, cell]; rfl, rfl, rfl, rfl, rfl⟩

namespace Sound

theorem taken_le (h : r.Sound) : r.taken ≤ r.stored.length := by
  rw [taken]
  cases hlast : r.takes.getLast? with
  | none => exact Nat.zero_le _
  | some take => exact (h.bounded take (List.mem_of_getLast? hlast)).2

/-- The sender never goes back: the count of each take is at most `taken`, that of the last one. -/
theorem count_le_taken (h : r.Sound) {take : Take} (mem : take ∈ r.takes) :
    take.count ≤ r.taken := by
  have hcounts := h.counts
  rw [taken]
  -- The takes only go up, so that the last one is the greatest.
  rcases List.eq_nil_or_concat r.takes with hnil | ⟨before, last, hlast⟩
  · rw [hnil] at mem
    cases mem
  · rw [List.concat_eq_append] at hlast
    rw [hlast, List.getLast?_concat, Option.map_some, Option.getD_some]
    rw [hlast, List.map_append, List.pairwise_append] at hcounts
    rw [hlast, List.mem_append, List.mem_singleton] at mem
    rcases mem with hbefore | rfl
    · exact hcounts.2.2 _ (List.mem_map_of_mem hbefore) _ (List.mem_singleton_self _)
    · exact Nat.le_refl _

/-- What the cell does not hold as `unseen` was taken. -/
theorem taken_eq (h : r.Sound) (seen : r.Seen) (unseen : r.feed.cell.unseen = false) :
    r.taken = r.stored.length := by
  rw [Seen, unseen] at seen
  exact Nat.le_antisymm h.taken_le (Nat.not_lt.mp (of_decide_eq_false seen.symm))

/-- **What is unseen is a sample that was not taken,** as `Seen` says: the flag of the cell is read
as a number that is less than another. -/
theorem taken_lt (seen : r.Seen) (unseen : r.feed.cell.unseen = true) :
    r.taken < r.stored.length := by
  rw [Seen, unseen] at seen
  exact of_decide_eq_true seen.symm

/-- As long as the sender has not ended, nothing has failed, so whatever phase comes next may be
asked for. -/
theorem failed_of (h : r.Sound) (phase : r.feed.phase ≠ .finished) (phase' : SenderPhase) :
    r.failed = true → phase' = .finished :=
  fun failed => absurd (h.failed failed) phase

/-- The sender takes the last sample: the counts still go up, and each of them is that of a sample
that is stored. -/
theorem take (h : r.Sound) (stored : r.stored ≠ []) (closing : Bool) :
    ((r.takes ++ [(⟨r.stored.length, closing⟩ : Take)]).map (·.count)).Pairwise (· ≤ ·) ∧
    (∀ take ∈ r.takes ++ [(⟨r.stored.length, closing⟩ : Take)],
      1 ≤ take.count ∧ take.count ≤ r.stored.length) ∧
    ∀ (k : Nat) (push : SamplePush), r.pushes[k]? = some push →
      push.ticks = k ∧ ∃ (take : Take) (s : ContainerStats),
        (r.takes ++ [(⟨r.stored.length, closing⟩ : Take)])[k]? = some take ∧
          r.stored[take.count - 1]? = some s ∧ push.message = s.toMessage := by
  refine ⟨?_, fun take mem => ?_, fun k push hpush => ?_⟩
  -- The counts go on going up: none before is more than all that are stored.
  · rw [List.map_append, List.pairwise_append]
    refine ⟨h.counts, List.pairwise_singleton _ _, fun count hcount last hlast => ?_⟩
    obtain ⟨take, htake, rfl⟩ := List.mem_map.mp hcount
    rw [List.map_singleton, List.mem_singleton] at hlast
    rw [hlast]
    exact (h.bounded take htake).2
  -- Each of them is of a sample that was stored.
  · rcases List.mem_append.mp mem with hold | hnew
    · exact h.bounded take hold
    · rw [List.mem_singleton.mp hnew]
      exact ⟨List.length_pos_iff.mpr stored, Nat.le_refl _⟩
  -- The pushes before belong to the takes before, which stay where they were.
  · obtain ⟨hticks, take, s, htake, hs⟩ := h.pushed k push hpush
    exact ⟨hticks, take, s, getElem?_append_of_some htake, hs⟩

/-- What was taken is queued, at the tick whose number is that of the push. -/
theorem push (h : r.Sound) {s : ContainerStats} (holds : r.Holds s) :
    ∀ (k : Nat) (push : SamplePush),
      (r.pushes ++ [(⟨s.toMessage, r.ticks⟩ : SamplePush)])[k]? = some push →
      push.ticks = k ∧ ∃ (take : Take) (s : ContainerStats), r.takes[k]? = some take ∧
        r.stored[take.count - 1]? = some s ∧ push.message = s.toMessage := by
  intro k push hpush
  -- The pushes before; the one that is made, which is of the last take; and none after.
  rcases Nat.lt_trichotomy k r.pushes.length with hlt | rfl | hgt
  · rw [List.getElem?_append_left hlt] at hpush
    exact h.pushed k push hpush
  · rw [List.getElem?_concat_length] at hpush
    obtain rfl := Option.some.inj hpush
    obtain ⟨take, hlast, hs⟩ := holds.last
    rw [List.getLast?_eq_getElem?, holds.takes, Nat.add_sub_cancel] at hlast
    exact ⟨holds.ticks, take, s, hlast, hs, rfl⟩
  · have hnone : (r.pushes ++ [(⟨s.toMessage, r.ticks⟩ : SamplePush)])[k]? = none := by
      refine List.getElem?_eq_none ?_
      rw [List.length_append, List.length_singleton]
      exact hgt
    rw [hnone] at hpush
    cases hpush

end Sound

/-- The last sample was just taken, so the sender `Holds` it. -/
theorem Holds.of_take (h : r.Sound) {s : ContainerStats} (latest : r.feed.cell.latest = some s)
    (closing : Bool) (pushes : r.pushes.length = r.takes.length) (ticks : r.takes.length = r.ticks)
    (phase : SenderPhase) : Holds { r with
      feed := { r.feed with phase, cell := r.feed.cell.see }
      takes := r.takes ++ [⟨r.stored.length, closing⟩] } s where
  takes := by rw [List.length_append, List.length_singleton, pushes]
  ticks := by rw [← ticks, pushes]
  last := by
    rw [h.latest, List.getLast?_eq_getElem?] at latest
    exact ⟨_, List.getLast?_concat, latest⟩

/-- To take a sample is to have seen it: nothing that is stored is left untaken. -/
theorem seen_take (r : Chronicle) (phase : SenderPhase) (closing : Bool) : Seen { r with
    feed := { r.feed with phase, cell := r.feed.cell.see }
    takes := r.takes ++ [⟨r.stored.length, closing⟩] } := by
  rw [Seen, taken, List.getLast?_concat, Option.map_some, Option.getD_some, Cell.unseen_see]
  exact (decide_eq_false (Nat.lt_irrefl _)).symm

/-- What the reader does without storing anything does not count for what the sender is `At`. -/
theorem At.rests {reader : Option StatsReader} (stopped : r.feed.reader = none → reader = none) :
    ∀ {phase : SenderPhase}, r.At phase →
      At { r with feed := { r.feed with reader } } phase := by
  intro phase hat
  cases phase with
  -- Only the phases that say that the reader has stopped look at it.
  | opening | reporting =>
    obtain ⟨hreader, hrest⟩ := hat
    exact ⟨stopped hreader, hrest⟩
  | awaiting | taking | waiting | checking => exact hat
  | sending =>
    obtain ⟨hne, hseen, hopen, hholds⟩ := hat
    exact ⟨hne, hseen, hopen, hholds.takes, hholds.ticks, hholds.last⟩
  -- A last sample is held because the reader has stopped, and it stays so.
  | sendingLast =>
    obtain ⟨⟨hreader, hclosing⟩, hholds⟩ := hat
    exact ⟨⟨stopped hreader, hclosing⟩, hholds.takes, hholds.ticks, hholds.last⟩
  | finished =>
    obtain ⟨hopen, hended⟩ := hat
    refine ⟨hopen.imp_right fun h => ⟨stopped h.1, h.2⟩, fun hfailed => ?_⟩
    obtain ⟨hreader, hrest⟩ := hended hfailed
    exact ⟨stopped hreader, hrest⟩

/-- A sample is stored. It is new whatever the phase is, and the phases that say that the reader has
stopped cannot be: it is the reader that stores. -/
theorem At.stores (h : r.Sound) (reads : r.feed.reader.isSome = true) (s : ContainerStats)
    (reader : StatsReader) : ∀ {phase : SenderPhase}, r.At phase → At { r with
      feed := { r.feed with reader := some reader, cell := r.feed.cell.store s }
      stored := r.stored ++ [s] } phase := by
  have hne : r.stored ++ [s] ≠ [] := by simp
  have hreads : r.feed.reader ≠ none := Option.isSome_iff_ne_none.mp reads
  -- The sample that is stored was not taken.
  have hseen : Seen { r with
      feed := { r.feed with reader := some reader, cell := r.feed.cell.store s }
      stored := r.stored ++ [s] } := by
    rw [Seen, Cell.unseen_store, List.length_append, List.length_singleton]
    exact (decide_eq_true (Nat.lt_succ_of_le h.taken_le)).symm
  intro phase hat
  cases phase with
  | opening | reporting => exact absurd hat.1 hreads
  | awaiting => exact ⟨hseen, hat.2⟩
  | taking => exact ⟨hne, hat.2⟩
  -- The sample that the sender holds stays the one of its take, though there is a newer one now.
  | sending =>
    obtain ⟨-, -, hopen, hholds⟩ := hat
    obtain ⟨take, hlast, hs⟩ := hholds.last
    exact ⟨hne, hseen, hopen, hholds.takes, hholds.ticks, take, hlast, getElem?_append_of_some hs⟩
  | waiting | checking => exact ⟨hne, hseen, hat.2.2⟩
  | sendingLast => exact absurd hat.1.1 hreads
  | finished =>
    obtain ⟨hopen, hended⟩ := hat
    refine ⟨Or.inl (hopen.resolve_right fun h => hreads h.1), fun hfailed => ?_⟩
    exact absurd (hended hfailed).1 hreads

/-! ### What each incident keeps

There is one lemma for each constructor of `Chronicle.Next`. It takes the phase apart for what `At`
says of the chronicle there, and puts together what `At` has to say in the phase after. -/

namespace Sound

theorem at_phase (h : r.Sound) {phase : SenderPhase} (is : r.feed.phase = phase) : r.At phase :=
  is ▸ h.phase

/-- Where no sample is stored, taken or queued only the phase has something new to say. -/
theorem moves (h : r.Sound) {feed : StatsFeed} {ticks : Nat} {failed : Bool}
    (latest : feed.cell.latest = r.feed.cell.latest)
    (ended : failed = true → feed.phase = .finished)
    (hat : At { r with feed, ticks, failed } feed.phase) :
    ({ r with feed, ticks, failed } : Chronicle).Sound :=
  ⟨latest.trans h.latest, h.counts, h.bounded, h.pushed, ended, hat⟩

/-- Without takes there is none that closes, so the chronicle is `Open`. -/
theorem open_of_nil (takes : r.takes = []) : r.Open := by
  rw [Open, takes]
  nofun

theorem rests (h : r.Sound) {reader : Option StatsReader}
    (stopped : r.feed.reader = none → reader = none) :
    ({ r with feed := { r.feed with reader } } : Chronicle).Sound :=
  h.moves rfl h.failed (h.phase.rests stopped)

/-- A sample that is stored comes behind those that were taken, and leaves their places as they
are. -/
theorem stores (h : r.Sound) (s : ContainerStats) (reader : StatsReader)
    (reads : r.feed.reader.isSome = true) :
    ({ r with
      feed := { r.feed with reader := some reader, cell := r.feed.cell.store s }
      stored := r.stored ++ [s] } : Chronicle).Sound where
  latest := List.getLast?_concat.symm
  counts := h.counts
  bounded take mem := by
    rw [List.length_append]
    exact ⟨(h.bounded take mem).1, Nat.le_add_right_of_le (h.bounded take mem).2⟩
  -- A sample keeps its place when another one is stored behind it.
  pushed k push hpush := by
    obtain ⟨hticks, take, s, htake, hs, hmessage⟩ := h.pushed k push hpush
    exact ⟨hticks, take, s, htake, getElem?_append_of_some hs, hmessage⟩
  failed := h.failed
  phase := h.phase.stores h reads s reader

/-- The reader starts with nothing stored, and the sender waits for a first sample. -/
theorem opens (h : r.Sound) (phase : r.feed.phase = .opening) :
    ({ r with feed := { r.feed with phase := .awaiting, reader := some {} } } :
      Chronicle).Sound := by
  obtain ⟨-, hseen, -, hrest⟩ := h.at_phase phase
  exact h.moves rfl (h.failed_of (by rw [phase]; nofun) _) ⟨hseen, hrest⟩

/-- The byte stream could not be opened: nothing was stored and nothing will be. -/
theorem refused (h : r.Sound) (phase : r.feed.phase = .opening) (f : Failure) :
    ({ r with feed := { r.feed with phase := .reporting f } } : Chronicle).Sound :=
  h.moves rfl (h.failed_of (by rw [phase]; nofun) _) (h.at_phase phase)

/-- A sender that has reported its failure has stored nothing, so it has nothing left to send. -/
theorem reports (h : r.Sound) {f : Failure} (phase : r.feed.phase = .reporting f)
    (failed : Bool) :
    ({ r with
      feed := { r.feed with phase := .finished }
      failed := if failed then true else r.failed } : Chronicle).Sound := by
  obtain ⟨hreader, -, hstored, htakes, hpushes, -⟩ := h.at_phase phase
  refine h.moves rfl (fun _ => rfl) ⟨Or.inl (open_of_nil htakes), fun _ => ⟨hreader, ?_⟩⟩
  rw [taken, hpushes, htakes, hstored]
  exact ⟨rfl, rfl⟩

/-- The first sample is noticed by `Cell.see`, which does not take it: what follows is a turn. -/
theorem notices (h : r.Sound) (phase : r.feed.phase = .awaiting)
    (unseen : r.feed.cell.unseen = true) (t : Ticker) :
    ({ r with feed := { r.feed with phase := .taking t, cell := r.feed.cell.see } } :
      Chronicle).Sound := by
  obtain ⟨hseen, htakes, hpushes, hticks⟩ := h.at_phase phase
  have hne : r.stored ≠ [] :=
    List.length_pos_iff.mp (Nat.zero_lt_of_lt (taken_lt hseen unseen))
  refine h.moves rfl (h.failed_of (by rw [phase]; nofun) _) ⟨hne, open_of_nil htakes, ?_, ?_⟩
  · rw [hpushes, htakes]
    rfl
  · rw [htakes, hticks]
    rfl

/-- The stream ended before there was a first sample. None was taken, and as the cell holds nothing
unseen none was stored. -/
theorem leaves (h : r.Sound) (phase : r.feed.phase = .awaiting)
    (unseen : r.feed.cell.unseen = false) (stopped : r.feed.reader = none) :
    ({ r with feed := { r.feed with phase := .finished } } : Chronicle).Sound := by
  obtain ⟨hseen, htakes, hpushes, -⟩ := h.at_phase phase
  refine h.moves rfl (fun _ => rfl) ⟨Or.inl (open_of_nil htakes),
    fun _ => ⟨stopped, ?_, h.taken_eq hseen unseen⟩⟩
  rw [hpushes, htakes]
  rfl

/-- **The sender takes the newest sample.** The number of all that are `stored` is what it writes
down, and from then on it holds that one. -/
theorem takes (h : r.Sound) {t : Ticker} {s : ContainerStats} (phase : r.feed.phase = .taking t)
    (latest : r.feed.cell.latest = some s) :
    ({ r with
      feed := { r.feed with phase := .sending s t, cell := r.feed.cell.see }
      takes := r.takes ++ [⟨r.stored.length, false⟩] } : Chronicle).Sound := by
  obtain ⟨hne, hopen, hpushes, hticks⟩ := h.at_phase phase
  obtain ⟨hcounts, hbounded, hpushed⟩ := h.take hne false
  refine ⟨h.latest, hcounts, hbounded, hpushed, h.failed_of (by rw [phase]; nofun) _, hne,
    seen_take r _ false, fun take mem => ?_, .of_take h latest false hpushes hticks _⟩
  rcases List.mem_append.mp mem with hold | hnew
  · exact hopen take hold
  · rw [List.mem_singleton.mp hnew]

/-- A sender that takes finds something: there is a sample since the first one was noticed. -/
theorem latest_of_taking (h : r.Sound) {t : Ticker} (phase : r.feed.phase = .taking t) :
    r.feed.cell.latest ≠ none := by
  rw [h.latest, Ne, List.getLast?_eq_none_iff]
  exact (h.at_phase phase).1

/-- A sample that is queued is the last one that was taken (`Sound.push`). -/
theorem pushes (h : r.Sound) {t : Ticker} {s : ContainerStats}
    (phase : r.feed.phase = .sending s t) :
    ({ r with
      feed := { r.feed with phase := .waiting t }
      pushes := r.pushes ++ [⟨s.toMessage, r.ticks⟩] } : Chronicle).Sound := by
  obtain ⟨hne, hseen, hopen, hholds⟩ := h.at_phase phase
  refine ⟨h.latest, h.counts, h.bounded, h.push hholds, h.failed_of (by rw [phase]; nofun) _,
    hne, hseen, hopen, ?_, ?_⟩
  · rw [List.length_append, List.length_singleton, hholds.takes]
  · rw [hholds.takes, hholds.ticks]

/-- A tick makes up for the one that the sender was behind: there are as many ticks as pushes
again. -/
theorem ticks (h : r.Sound) {t t' : Ticker} (phase : r.feed.phase = .waiting t) :
    ({ r with feed := { r.feed with phase := .checking t' }, ticks := r.ticks + 1 } :
      Chronicle).Sound :=
  h.moves rfl (h.failed_of (by rw [phase]; nofun) _) (h.at_phase phase)

theorem goesOn (h : r.Sound) {t : Ticker} (phase : r.feed.phase = .checking t) :
    ({ r with feed := { r.feed with phase := .taking t } } : Chronicle).Sound := by
  obtain ⟨hne, -, hrest⟩ := h.at_phase phase
  exact h.moves rfl (h.failed_of (by rw [phase]; nofun) _) ⟨hne, hrest⟩

/-- The last take is the only one that closes, and what it takes was not taken before, since the
cell held it as new. -/
theorem takesLast (h : r.Sound) {t : Ticker} {s : ContainerStats}
    (phase : r.feed.phase = .checking t) (stopped : r.feed.reader = none)
    (unseen : r.feed.cell.unseen = true) (latest : r.feed.cell.latest = some s) :
    ({ r with
      feed := { r.feed with phase := .sendingLast s, cell := r.feed.cell.see }
      takes := r.takes ++ [⟨r.stored.length, true⟩] } : Chronicle).Sound := by
  obtain ⟨hne, hseen, hopen, hpushes, hticks⟩ := h.at_phase phase
  obtain ⟨hcounts, hbounded, hpushed⟩ := h.take hne true
  refine ⟨h.latest, hcounts, hbounded, hpushed, h.failed_of (by rw [phase]; nofun) _,
    ⟨stopped, r.takes, rfl, fun take mem => ⟨hopen take mem, ?_⟩⟩,
    .of_take h latest true hpushes hticks _⟩
  exact Nat.lt_of_le_of_lt (h.count_le_taken mem) (taken_lt hseen unseen)

/-- A sender may only end where there is nothing new. The cell is never empty by then, so `seen` is
about what it holds. -/
theorem ends (h : r.Sound) {t : Ticker} (phase : r.feed.phase = .checking t)
    (stopped : r.feed.reader = none)
    (seen : r.feed.cell.unseen = false ∨ r.feed.cell.latest = none) :
    ({ r with feed := { r.feed with phase := .finished, cell := r.feed.cell.see } } :
      Chronicle).Sound := by
  obtain ⟨hne, hseen, hopen, hpushes, -⟩ := h.at_phase phase
  have hunseen : r.feed.cell.unseen = false := by
    refine seen.resolve_right fun latest => hne ?_
    rwa [h.latest, List.getLast?_eq_none_iff] at latest
  exact h.moves rfl (fun _ => rfl)
    ⟨Or.inl hopen, fun _ => ⟨stopped, hpushes, h.taken_eq hseen hunseen⟩⟩

/-- **The last sample is sent.** It was taken after the reader had stopped, so that it is the last
one of all, and with its push there are as many pushes as takes. -/
theorem pushesLast (h : r.Sound) {s : ContainerStats} (phase : r.feed.phase = .sendingLast s) :
    ({ r with
      feed := { r.feed with phase := .finished }
      pushes := r.pushes ++ [⟨s.toMessage, r.ticks⟩] } : Chronicle).Sound := by
  obtain ⟨hclosing, hholds⟩ := h.at_phase phase
  refine ⟨h.latest, h.counts, h.bounded, h.push hholds, fun _ => rfl, Or.inr hclosing,
    fun _ => ⟨hclosing.1, ?_, ?_⟩⟩
  · rw [List.length_append, List.length_singleton, hholds.takes]
  · -- the last take was of all that were stored
    obtain ⟨-, before, htakes, -⟩ := hclosing
    rw [taken, htakes, List.getLast?_concat]
    rfl

/-- A sender fails with a sample in hand, be it the last one or not, and says so. -/
theorem fails (h : r.Sound) {s : ContainerStats} {closing : Bool}
    (phase : r.feed.phase.holds? = some (s, closing)) :
    ({ r with feed := { r.feed with phase := .finished }, failed := true } : Chronicle).Sound := by
  refine h.moves rfl (fun _ => rfl) ⟨?_, nofun⟩
  cases hphase : r.feed.phase with
  | sending => exact Or.inl (h.at_phase hphase).2.2.1
  | sendingLast => exact Or.inr (h.at_phase hphase).1
  | opening | reporting | awaiting | taking | waiting | checking | finished =>
    rw [hphase] at phase
    cases phase

end Sound

/-- **The chronicle goes on to fit,** whatever an incident does. One case for each constructor of
`Next`, by the lemma of the same name. -/
theorem Next.sound (next : r.Next r') (h : r.Sound) : r'.Sound := by
  cases next with
  | rests reader stopped => exact h.rests stopped
  | stores s reader reads => exact h.stores s reader reads
  | opens phase => exact h.opens phase
  | refused phase f => exact h.refused phase f
  | reports phase failed => exact h.reports phase failed
  | notices phase unseen t => exact h.notices phase unseen t
  | leaves phase unseen stopped => exact h.leaves phase unseen stopped
  | takes phase latest => exact h.takes phase latest
  -- There is a sample from the first one on, so that the cell is never empty here.
  | misses phase latest => exact absurd latest (h.latest_of_taking phase)
  | pushes phase => exact h.pushes phase
  | ticks phase => exact h.ticks phase
  | goesOn phase => exact h.goesOn phase
  | takesLast phase stopped unseen latest => exact h.takesLast phase stopped unseen latest
  | ends phase stopped seen => exact h.ends phase stopped seen
  | pushesLast phase => exact h.pushesLast phase
  | fails phase => exact h.fails phase

/-- The chronicle fits after any incidents, if the sender was about to open the byte stream before
them. -/
theorem sound_of {feed : StatsFeed} (phase : feed.phase = .opening) (reader : feed.reader = none)
    (cell : feed.cell = {}) (incidents : List Incident) : (of feed incidents).Sound := by
  have hfoldl : ∀ r : Chronicle, r.Sound → (incidents.foldl note r).Sound := by
    induction incidents with
    | nil => exact fun r h => h
    | cons i rest ih => exact fun r h => ih _ ((r.next_note i).sound h)
  exact hfoldl _ (.start phase reader cell)

/-! ### What follows from it -/

/-- **Samples are fresh, and never go back.** -/
structure Fresh (r : Chronicle) : Prop where
  /-- The sample that was queued as the `k`-th one is the one that was taken as the `k`-th, and that
  was the last of those which had been stored by then. -/
  newest : ∀ (k : Nat) (push : SamplePush), r.pushes[k]? = some push →
    ∃ (take : Take) (s : ContainerStats), r.takes[k]? = some take ∧ 1 ≤ take.count ∧
      r.stored[take.count - 1]? = some s ∧ push.message = s.toMessage
  forward : (r.takes.map (·.count)).Pairwise (· ≤ ·)
  /-- One tick passes between two samples that are queued, and none before the first one. -/
  tick : ∀ (k : Nat) (push : SamplePush), r.pushes[k]? = some push → push.ticks = k
  /-- Nothing is queued before a sample is stored. -/
  first : r.stored = [] → r.pushes = []

/-- What a client can rely on is read off the invariant: each push has its take and its tick, and
the counts of takes go up. -/
theorem Sound.fresh (h : r.Sound) : r.Fresh where
  newest k push hpush := by
    obtain ⟨-, take, s, htake, hs, hmessage⟩ := h.pushed k push hpush
    exact ⟨take, s, htake, (h.bounded take (List.mem_of_getElem? htake)).1, hs, hmessage⟩
  forward := h.counts
  tick k push hpush := (h.pushed k push hpush).1
  -- A push would be of a sample that was stored.
  first hnil := by
    rw [List.eq_nil_iff_forall_not_mem]
    intro push mem
    obtain ⟨k, hpush⟩ := List.getElem?_of_mem mem
    obtain ⟨-, take, s, -, hs, -⟩ := h.pushed k push hpush
    rw [hnil] at hs
    cases hs

/-- **At most one take is the last one.** In each phase either all takes are of the open kind
(`Open`), or the last of them is the only one that closes (`Closing`). -/
theorem Sound.open_or_closing (h : r.Sound) : r.Open ∨ r.Closing := by
  have hat := h.phase
  cases hphase : r.feed.phase with
  | opening | reporting =>
    rw [hphase] at hat
    obtain ⟨-, -, -, htakes, -⟩ := hat
    refine Or.inl ?_
    rw [Open, htakes]
    nofun
  -- No sample was taken.
  | awaiting =>
    rw [hphase] at hat
    refine Or.inl ?_
    rw [Open, hat.2.1]
    nofun
  | taking =>
    rw [hphase] at hat
    exact Or.inl hat.2.1
  | sending | waiting | checking =>
    rw [hphase] at hat
    exact Or.inl hat.2.2.1
  -- The last one is held.
  | sendingLast =>
    rw [hphase] at hat
    exact Or.inr hat.1
  | finished =>
    rw [hphase] at hat
    exact hat.1

/-- A sample is taken as the last one to be sent only if it was not taken before. -/
theorem Sound.closing (h : r.Sound) {before after : List Take} {take : Take}
    (takes : r.takes = before ++ take :: after) (closing : take.closing = true) :
    after = [] ∧ take.count = r.stored.length ∧ ∀ earlier ∈ before, earlier.count < take.count := by
  -- Where all are open none closes, so that it is the last one.
  rcases h.open_or_closing with hopen | ⟨-, others, hlast, hothers⟩
  · have hmem : take ∈ r.takes := takes ▸ List.mem_append_right _ List.mem_cons_self
    rw [hopen take hmem] at closing
    cases closing
  · rw [hlast] at takes
    rcases List.eq_nil_or_concat after with rfl | ⟨rest, last, rfl⟩
    · obtain ⟨rfl, heq⟩ := List.append_inj' takes rfl
      obtain rfl := List.singleton_inj.mp heq
      exact ⟨rfl, rfl, fun earlier mem => (hothers earlier mem).2⟩
    · -- then it is one of the others
      rw [List.concat_eq_append, ← List.cons_append, ← List.append_assoc] at takes
      obtain ⟨rfl, -⟩ := List.append_inj' takes rfl
      rw [(hothers take (List.mem_append_right _ List.mem_cons_self)).1] at closing
      cases closing

/-- **The last sample is the last one that is queued,** once the sender has come to its end. If it
was taken as the last one it is `Sound.closing`; otherwise nothing was stored after the last
take. -/
theorem Sound.last (h : r.Sound) (returned : r.feed.phase = .finished)
    (unfailed : r.failed = false) :
    r.pushes.getLast?.map (·.message) = r.stored.getLast?.map (·.toMessage) := by
  have hat := h.phase
  rw [returned] at hat
  obtain ⟨-, hpushes, htaken⟩ := hat.2 unfailed
  cases hlast : r.takes.getLast? with
  | none =>
    -- Nothing was taken, and there was nothing to take.
    rw [taken, hlast] at htaken
    rw [List.getLast?_eq_none_iff] at hlast
    rw [hlast] at hpushes
    rw [List.length_eq_zero_iff.mp hpushes, List.length_eq_zero_iff.mp htaken.symm]
    rfl
  | some take =>
    rw [taken, hlast, Option.map_some, Option.getD_some] at htaken
    rw [List.getLast?_eq_getElem?, ← hpushes] at hlast
    have hpos : 0 < r.pushes.length := by
      rw [hpushes]
      exact List.length_pos_of_mem (List.mem_of_getElem? hlast)
    obtain ⟨push, hpush⟩ : ∃ push, r.pushes[r.pushes.length - 1]? = some push :=
      ⟨_, List.getElem?_eq_getElem (Nat.sub_one_lt_of_lt hpos)⟩
    obtain ⟨-, take', s, htake', hs, hmessage⟩ := h.pushed _ push hpush
    obtain rfl := Option.some.inj (hlast.symm.trans htake')
    rw [htaken, ← List.getLast?_eq_getElem?] at hs
    rw [List.getLast?_eq_getElem?, hpush, hs, Option.map_some, Option.map_some, hmessage]

/-- A sender that has come to its end queues nothing more. -/
theorem Next.finished (next : r.Next r') (finished : r.feed.phase = .finished) :
    r'.feed.phase = .finished ∧ r'.pushes = r.pushes := by
  -- The reader may go on; all the sender does it does in another phase.
  cases next with
  | rests | stores => exact ⟨finished, rfl⟩
  | fails phase =>
    rw [finished] at phase
    cases phase
  | opens phase
  | refused phase
  | reports phase
  | notices phase
  | leaves phase
  | takes phase
  | misses phase
  | pushes phase
  | ticks phase
  | goesOn phase
  | takesLast phase
  | ends phase
  | pushesLast phase =>
    rw [finished] at phase
    cases phase

end Chronicle

end Lookout
