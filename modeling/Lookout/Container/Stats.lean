import Lookout.Json.Reader
import Lookout.Json.Record

/-!
# Container samples

The daemon sends samples of a container's use of processor and memory as JSON objects of which few
members matter here, and all may be absent. A sample carries the counters of the previous one too,
so each sample by itself gives the use since then.

* `StatsSample` — a sample as the daemon sends it;
* `StatsSample.toStats` — the sample as clients see it;
* `cpuPercent` — use of processor between two samples.
-/

namespace Lookout

open Json (Value Decoder DecodeError Field Fields)

/-- Counters of processor time. -/
structure CpuUsage where
  total : UInt64 := 0
  perCpu : Option (List UInt64) := none

/-- Processor time used by the container and by the host. -/
structure CpuStats where
  usage : CpuUsage := {}
  system : Option UInt64 := none
  online : Option UInt64 := none

/-- Use of memory. -/
structure MemoryStats where
  usage : Option UInt64 := none
  /-- The most bytes the container may use. -/
  limit : Option UInt64 := none
  /-- What the kernel counts in detail, by name. -/
  details : Option Json.Members := none

/-- A sample as the daemon sends it. -/
structure StatsSample where
  cpu : CpuStats := {}
  /-- Processor time at the previous sample. -/
  previous : CpuStats := {}
  memory : MemoryStats := {}

/-! ### Decoding -/

/-- Counters may be missing, and a list of them may be null. -/
def CpuUsage.decoder : Decoder CpuUsage :=
  Fields.record "CpuUsage"
      (.cons ⟨"total_usage", Decoder.uint64, some 0⟩
        (.cons ⟨"percpu_usage", Decoder.option (Decoder.list Decoder.uint64), some none⟩ .nil))
    |>.map fun (total, perCpu, ()) => ⟨total, perCpu⟩

/-- All three members may be missing. -/
def CpuStats.decoder : Decoder CpuStats :=
  Fields.record "CpuStats"
      (.cons ⟨"cpu_usage", CpuUsage.decoder, some {}⟩
        (.cons ⟨"system_cpu_usage", Decoder.option Decoder.uint64, some none⟩
          (.cons ⟨"online_cpus", Decoder.option Decoder.uint64, some none⟩ .nil)))
    |>.map fun (usage, system, online, ()) => ⟨usage, system, online⟩

/-- All three members may be missing or null. -/
def MemoryStats.decoder : Decoder MemoryStats :=
  Fields.record "MemoryStats"
      (.cons ⟨"usage", Decoder.option Decoder.uint64, some none⟩
        (.cons ⟨"limit", Decoder.option Decoder.uint64, some none⟩
          (.cons ⟨"stats", Decoder.option Decoder.members, some none⟩ .nil)))
    |>.map fun (usage, limit, details, ()) => ⟨usage, limit, details⟩

namespace StatsSample

/-- A sample, of which everything may be missing: the empty object is one. -/
def decoder : Decoder StatsSample :=
  Fields.record "StatsSample"
      (.cons ⟨"cpu_stats", CpuStats.decoder, some {}⟩
        (.cons ⟨"precpu_stats", CpuStats.decoder, some {}⟩
          (.cons ⟨"memory_stats", MemoryStats.decoder, some {}⟩ .nil)))
    |>.map fun (cpu, previous, memory, ()) => ⟨cpu, previous, memory⟩

/-- Reads a sample from the bytes of its text. -/
def ofBytes (bytes : List UInt8) : Except DecodeError StatsSample :=
  decoder.decodeDocument (.read bytes)

end StatsSample

/-! ### What clients see -/

/-- A sample as clients see it. -/
structure ContainerStats where
  /-- The container, as the client refers to it. -/
  containerId : String
  /-- Use of processor since the previous sample, 100 for each processor fully used. -/
  cpuPercent : Float
  /-- Bytes in use, without the page cache. -/
  memUsed : UInt64
  /-- The most bytes the container may use. -/
  memLimit : UInt64
  /-- The part of the limit in use, in percent; zero without a limit. -/
  memPercent : Float
  deriving DecidableEq

namespace ContainerStats

/-- A sample as a JSON object. -/
def toJson (s : ContainerStats) : Value :=
  .object
    [("container_id", .string s.containerId), ("cpu_percent", .ofFloat s.cpuPercent),
      ("mem_used_bytes", .ofUInt64 s.memUsed), ("mem_limit_bytes", .ofUInt64 s.memLimit),
      ("mem_percent", .ofFloat s.memPercent)]

def decoder : Decoder ContainerStats :=
  Fields.record "ContainerStatsPayload"
      (.cons ⟨"container_id", Decoder.text, none⟩
        (.cons ⟨"cpu_percent", Decoder.float, none⟩
          (.cons ⟨"mem_used_bytes", Decoder.uint64, none⟩
            (.cons ⟨"mem_limit_bytes", Decoder.uint64, none⟩
              (.cons ⟨"mem_percent", Decoder.float, none⟩ .nil)))))
    |>.map fun (containerId, cpuPercent, memUsed, memLimit, memPercent, ()) =>
      ⟨containerId, cpuPercent, memUsed, memLimit, memPercent⟩

end ContainerStats

/-- Use of processor in percent, from the time the container used and the time that passed on one
processor. It is zero when no time passed or a counter went back. -/
def cpuPercent (used passed cpus : Float) : Float :=
  -- Two counters of which the later is less, or no time: the sample tells nothing.
  if passed ≤ 0 || used < 0 then 0 else used / passed * cpus * 100

namespace StatsSample

/-- How many processors the container may use: those that are online, else those with a counter,
else one. -/
def cpus (s : StatsSample) : UInt64 :=
  match s.cpu.online with
  -- A daemon that tells of no processors is not believed.
  | some n => if 0 < n then n else counters
  | none => counters
where
  /-- The processors with a counter, else one. -/
  counters : UInt64 :=
    match UInt64.ofNat ((s.cpu.usage.perCpu.map List.length).getD 0) with
    | 0 => 1
    | n => n

/-- The word that a detail is, if it is one. -/
def detail? (s : StatsSample) (name : String) : Option UInt64 :=
  match s.memory.details.bind (·.get? name) with
  | some (.number (.int i)) => i.toUInt64?
  | _ => none

/-- The page cache: `cache` in the first generation of the kernel's accounting, `inactive_file` in
the second. -/
def pageCache (s : StatsSample) : UInt64 :=
  ((s.detail? "cache").or (s.detail? "inactive_file")).getD 0

/-- The bytes in use without the page cache. -/
def memUsed (s : StatsSample) : UInt64 :=
  let usage := s.memory.usage.getD 0
  -- The two numbers are taken one after the other, so that the cache may be the greater one.
  if s.pageCache ≤ usage then usage - s.pageCache else 0

def toStats (s : StatsSample) (containerId : String) : ContainerStats :=
  let used := s.cpu.usage.total.toFloat - s.previous.usage.total.toFloat
  -- Differences of floats, since a counter may go back.
  let passed := (s.cpu.system.getD 0).toFloat - (s.previous.system.getD 0).toFloat
  let limit := s.memory.limit.getD 0
  { containerId := containerId
    cpuPercent := Lookout.cpuPercent used passed s.cpus.toFloat
    memUsed := s.memUsed
    memLimit := limit
    memPercent := if 0 < limit then s.memUsed.toFloat / limit.toFloat * 100 else 0 }

end StatsSample

end Lookout
