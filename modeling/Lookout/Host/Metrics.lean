import Lookout.Json.Record

/-!
# Host metrics

A snapshot of the host: its name, how long it has been up, its processor, memory and file systems.
-/

namespace Lookout

open Json (Value Decoder Field Fields)

/-- The host's processor. -/
structure CpuMetrics where
  /-- Use of all cores, from 0 to 100. -/
  usagePercent : Float
  /-- How many logical cores there are. -/
  cores : UInt64
  /-- The temperature in degrees Celsius, if a sensor tells it. -/
  temperature : Option Float
  deriving DecidableEq

/-- The host's memory. -/
structure MemoryMetrics where
  total : UInt64
  used : UInt64
  usagePercent : Float
  deriving DecidableEq

/-- A mounted file system. -/
structure DiskMetrics where
  mountPoint : String
  total : UInt64
  used : UInt64
  usagePercent : Float
  deriving DecidableEq

/-- A snapshot of the host. -/
structure HostMetrics where
  hostname : String
  /-- Seconds since the host was started. -/
  uptime : UInt64
  cpu : CpuMetrics
  memory : MemoryMetrics
  disks : List DiskMetrics
  deriving DecidableEq

/-- The processor as a JSON object; an unknown temperature is left out. -/
def CpuMetrics.toJson (m : CpuMetrics) : Value :=
  .object
    ([("usage_percent", .ofFloat m.usagePercent), ("cores", .ofUInt64 m.cores)] ++
      (m.temperature.map fun t => ("temperature_celsius", .ofFloat t)).toList)

def CpuMetrics.decoder : Decoder CpuMetrics :=
  Fields.record "CpuMetrics"
      (.cons ⟨"usage_percent", Decoder.float, none⟩
        (.cons ⟨"cores", Decoder.size, none⟩
          (.cons ⟨"temperature_celsius", Decoder.option Decoder.float, some none⟩ .nil)))
    |>.map fun (usagePercent, cores, temperature, ()) => ⟨usagePercent, cores, temperature⟩

def MemoryMetrics.toJson (m : MemoryMetrics) : Value :=
  .object
    [("total_bytes", .ofUInt64 m.total), ("used_bytes", .ofUInt64 m.used),
      ("usage_percent", .ofFloat m.usagePercent)]

def MemoryMetrics.decoder : Decoder MemoryMetrics :=
  Fields.record "MemoryMetrics"
      (.cons ⟨"total_bytes", Decoder.uint64, none⟩
        (.cons ⟨"used_bytes", Decoder.uint64, none⟩
          (.cons ⟨"usage_percent", Decoder.float, none⟩ .nil)))
    |>.map fun (total, used, usagePercent, ()) => ⟨total, used, usagePercent⟩

def DiskMetrics.toJson (m : DiskMetrics) : Value :=
  .object
    [("mount_point", .string m.mountPoint), ("total_bytes", .ofUInt64 m.total),
      ("used_bytes", .ofUInt64 m.used), ("usage_percent", .ofFloat m.usagePercent)]

def DiskMetrics.decoder : Decoder DiskMetrics :=
  Fields.record "DiskMetric"
      (.cons ⟨"mount_point", Decoder.text, none⟩
        (.cons ⟨"total_bytes", Decoder.uint64, none⟩
          (.cons ⟨"used_bytes", Decoder.uint64, none⟩
            (.cons ⟨"usage_percent", Decoder.float, none⟩ .nil))))
    |>.map fun (mountPoint, total, used, usagePercent, ()) =>
      ⟨mountPoint, total, used, usagePercent⟩

namespace HostMetrics

def toJson (m : HostMetrics) : Value :=
  .object
    [("hostname", .string m.hostname), ("uptime_seconds", .ofUInt64 m.uptime),
      ("cpu", m.cpu.toJson), ("memory", m.memory.toJson),
      ("disk", .array (m.disks.map DiskMetrics.toJson))]

def decoder : Decoder HostMetrics :=
  Fields.record "SystemMetrics"
      (.cons ⟨"hostname", Decoder.text, none⟩
        (.cons ⟨"uptime_seconds", Decoder.uint64, none⟩
          (.cons ⟨"cpu", CpuMetrics.decoder, none⟩
            (.cons ⟨"memory", MemoryMetrics.decoder, none⟩
              (.cons ⟨"disk", Decoder.list DiskMetrics.decoder, none⟩ .nil)))))
    |>.map fun (hostname, uptime, cpu, memory, disks, ()) =>
      ⟨hostname, uptime, cpu, memory, disks⟩

end HostMetrics

end Lookout
