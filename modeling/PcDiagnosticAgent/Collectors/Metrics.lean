import PcDiagnosticAgent.PyFloat
import PcDiagnosticAgent.Storage.Database

/-!
# The metric collectors

The collectors of `collectors/` other than the event log. Each is a function
from what the machine answers to a snapshot of one metric table. What the
machine answers is a structure per collector; numbers that may be missing are
optional.

`temperature.py` and `gpu.py` read the output of `nvidia-smi`. The model starts
from the dictionaries these readers return.
-/

set_option autoImplicit false

namespace PcDiagnosticAgent

namespace Collectors

/-! ## Values -/

/-- A number, or `NULL` without one. -/
def numberOrNull : Option ℚ → SqlValue
  | none => .null
  | some value => .number value

/-- A text, or `NULL` without one. -/
def textOrNull : Option String → SqlValue
  | none => .null
  | some value => .text value

/-- `round(value, 2)` of a float: the float next to the rounded number. -/
def roundHundredths (value : ℚ) : ℚ :=
  let magnitude : ℚ := Text.roundHalfEven (|value| * 100) / 100
  match PyFloat.round (if value < 0 then -magnitude else magnitude) with
  | .finite nearest => nearest
  -- a float that large has no hundredths and is its own rounding
  | _ => value

/-- `first or second` on optional numbers; zero is falsy. -/
def orElse (first second : Option ℚ) : Option ℚ :=
  if first.any (· ≠ 0) then first else second

/-! ## High-frequency collectors -/

structure CpuReading where
  percent : ℚ
  currentFrequency : Option ℚ
  cpuCount : Option ℤ

/-- `CpuCollector.collect`; a zero frequency counts as unknown. -/
def cpu (reading : CpuReading) : Snapshot :=
  let frequency := (reading.currentFrequency.filter (· ≠ 0)).map roundHundredths
  [("metrics_cpu", [[("cpu_percent", .number reading.percent),
    ("cpu_frequency", numberOrNull frequency),
    ("processor_count", numberOrNull (reading.cpuCount.map fun count => (count : ℚ)))]])]

structure MemoryReading where
  total : ℤ
  used : ℤ
  available : ℤ
  percent : ℚ
  swapPercent : Option ℚ

/-- `MemoryCollector.collect`. -/
def memory (reading : MemoryReading) : Snapshot :=
  [("metrics_memory", [[("memory_total", .number reading.total),
    ("memory_used", .number reading.used), ("memory_available", .number reading.available),
    ("memory_percent", .number reading.percent),
    ("swap_percent", numberOrNull reading.swapPercent)]])]

structure DiskUsage where
  total : ℤ
  used : ℤ
  free : ℤ
  percent : ℚ

structure DiskCounters where
  readBytes : ℤ
  writeBytes : ℤ

/-- A partition; its usage is absent when it cannot be read. -/
structure Partition where
  device : String
  mountpoint : String
  usage : Option DiskUsage

/-- The row of a partition that can be read and is not empty. -/
def diskRow (counters : List (String × DiskCounters)) (part : Partition) : Option SnapshotRow :=
  match part.usage with
  | none => none
  | some usage =>
    if usage.total = 0 then none
    else
      let io := counters.lookup ((part.device.splitOn "\\").getLastD "")
      some [("device", .text part.device), ("mountpoint", .text part.mountpoint),
        ("total", .number usage.total), ("used", .number usage.used),
        ("free", .number usage.free), ("percent", .number usage.percent),
        ("read_bytes", numberOrNull (io.map fun io => (io.readBytes : ℚ))),
        ("write_bytes", numberOrNull (io.map fun io => (io.writeBytes : ℚ))),
        ("read_latency_ms", .null), ("write_latency_ms", .null), ("disk_model", .null),
        ("disk_type", .null)]

structure DiskReading where
  counters : List (String × DiskCounters)
  partitions : List Partition

/-- `DiskCollector.collect`. -/
def disk (reading : DiskReading) : Snapshot :=
  [("metrics_disk", reading.partitions.filterMap (diskRow reading.counters))]

/-- A process that can be read; without a CPU share or memory information it
counts zero. -/
structure ProcessReading where
  pid : ℤ
  name : Option String
  cpuPercent : ℚ
  memoryBytes : ℤ
  exePath : Option String
deriving DecidableEq

/-- `TOP_N`. -/
def topN : ℕ := 10

/-- The first processes in descending order of a key; the sort is stable. -/
def topBy (key : ProcessReading → ℚ) (processes : List ProcessReading) : List ProcessReading :=
  (processes.insertionSort fun first second => key second ≤ key first).take topN

/-- One entry for each pid, at the place of its first process and with the value
of its last one. -/
def mergeByPid (processes : List ProcessReading) : List ProcessReading :=
  processes.foldl (fun merged process =>
    if merged.any (·.pid = process.pid) then
      merged.map fun other => if other.pid = process.pid then process else other
    else merged ++ [process]) []

def processRow (process : ProcessReading) : SnapshotRow :=
  [("pid", .number process.pid), ("name", textOrNull process.name),
    ("cpu_percent", .number process.cpuPercent), ("memory_bytes", .number process.memoryBytes),
    ("exe_path", textOrNull process.exePath)]

/-- `ProcessCollector.collect`; nothing is listed when the iteration raises. -/
def processes (reading : Option (List ProcessReading)) : Snapshot :=
  match reading with
  | none => [("metrics_process", [])]
  | some running =>
    [("metrics_process", (mergeByPid (topBy (·.cpuPercent) running ++
      topBy (fun process => process.memoryBytes) running)).map processRow)]

/-- `UptimeCollector.collect`. -/
def uptime (now bootTime : Epoch) : Snapshot :=
  [("metrics_uptime", [[("boot_time", .number bootTime),
    ("uptime_seconds", .number (now - bootTime))]])]

/-! ## Low-frequency collectors -/

structure VideoController where
  name : Option String
  driverVersion : Option String
  adapterRam : Option ℚ

structure GpuStats where
  utilization : Option ℚ := none
  memoryUsed : Option ℚ := none
  memoryTotal : Option ℚ := none
  temperatureC : Option ℚ := none

structure GpuReading where
  cards : List VideoController
  stats : List (String × GpuStats)

def gpuRow (stats : List (String × GpuStats)) (card : VideoController) : SnapshotRow :=
  let live := (card.name.bind fun name => stats.lookup name).getD {}
  [("gpu_name", textOrNull card.name), ("utilization", numberOrNull live.utilization),
    ("memory_used", numberOrNull live.memoryUsed),
    ("memory_total", numberOrNull (orElse card.adapterRam live.memoryTotal)),
    ("temperature_c", numberOrNull live.temperatureC),
    ("driver_version", textOrNull card.driverVersion)]

/-- `GpuCollector.collect`. -/
def gpu (reading : GpuReading) : Snapshot :=
  [("metrics_gpu", reading.cards.map (gpuRow reading.stats))]

/-- `TemperatureCollector.collect`, from the temperature of each named card. -/
def temperature (cards : List (String × ℚ)) : Snapshot :=
  [("metrics_temperature", cards.map fun card =>
    [("sensor", .text ("gpu:" ++ card.1)), ("temperature_c", .number card.2)])]

end Collectors

end PcDiagnosticAgent
