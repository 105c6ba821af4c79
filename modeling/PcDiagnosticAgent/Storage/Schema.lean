import PcDiagnosticAgent.Text

/-!
# Rows of the database

The row types of `storage/migrations.py`. Every table except the metric tables
is one row type. A metric table carries a timestamp, a session and the columns
listed for it; `MetricTable.columns` is that list.

Columns of type `REAL` hold exact numbers. A column that the code may leave
`NULL` is optional. The process and thread ids of an event are always `NULL`
and are left out, and so is the update time that repeats a timestamp.
-/

set_option autoImplicit false

namespace PcDiagnosticAgent

/-! ## Values of the text columns -/

/-- The three grades `LOW`, `MEDIUM` and `HIGH` of severities and
confidences. -/
inductive Level where
  | low
  | medium
  | high
deriving DecidableEq, Repr

/-- The incident types of `diagnosis.py`. -/
inductive IncidentType where
  | hardHang
  | bsod
  | unexpectedReboot
  | powerLoss
  | unknown
deriving DecidableEq, Repr

/-- The finding types `run_diagnosis` can report. -/
inductive FindingType where
  | hardHang
  | powerLoss
  | crash
  | hardware
  | thermal
  | memory
  | cpu
  | disk
  | gpu
  | insufficient
deriving DecidableEq, Repr

/-- A value bound to a metric column. -/
inductive SqlValue where
  | null
  | number (value : ℚ)
  | text (value : String)
deriving DecidableEq, Repr

/-- A value of `agent_state`: the text of an integer or of a float, which
reads back as the number it was written from. -/
inductive StateValue where
  | int (value : ℤ)
  | float (value : ℚ)
deriving DecidableEq, Repr

/-! ## Rows -/

structure SessionRow where
  bootTime : Epoch
  previousBootTime : Option Epoch := none
  uptimeBeforeBoot : Option ℚ := none
  previousSessionClean : Option ℤ := none
  unexpectedShutdown : Option ℤ := none
  kernelPowerDetected : Option ℤ := none
  bugcheckDetected : Option ℤ := none
  createdAt : Epoch
deriving DecidableEq, Repr

/-- An event as a collector hands it to the database. -/
structure Event where
  timestamp : Epoch
  provider : Option String := none
  eventId : Option ℤ := none
  level : Option ℤ := none
  channel : Option String := none
  recordId : Option ℤ := none
  message : Option String := none
  computer : Option String := none
deriving DecidableEq, Repr

structure EventRow extends Event where
  sessionId : ℕ
deriving DecidableEq, Repr

/-- A finding of the diagnosis. -/
structure Finding where
  type : FindingType
  severity : Level
  confidence : Level
  evidence : List String
  timestamp : Option Epoch
  explanation : String
deriving DecidableEq, Repr

/-- An incident of the diagnosis. -/
structure Incident where
  detectedAt : Epoch
  incidentType : IncidentType
  confidence : Level
  previousSessionId : Option ℕ
  lastMetricTimestamp : Option Epoch
  rebootTimestamp : Epoch
  durationEstimate : Option ℚ
  findings : List FindingType
  evidence : List String
  incidentId : Option ℕ := none
deriving DecidableEq, Repr

structure IncidentRow where
  detectedAt : Epoch
  incidentType : Option IncidentType
  confidence : Option Level
  previousSessionId : Option ℕ
  lastMetricTimestamp : Option Epoch
  rebootTimestamp : Option Epoch
  durationEstimate : Option ℚ
  findings : List FindingType
  evidence : List String
deriving DecidableEq, Repr

structure FindingRow extends Finding where
  incidentId : ℕ
deriving DecidableEq, Repr

structure MetricRow where
  timestamp : Epoch
  sessionId : ℕ
  values : List (String × SqlValue)
deriving DecidableEq, Repr

/-! ## Metric tables -/

/-- The keys of `METRIC_TABLES`. -/
inductive MetricTable where
  | cpu
  | memory
  | disk
  | gpu
  | temperature
  | process
  | uptime
deriving DecidableEq, Repr

namespace MetricTable

/-- The tables in the order of `METRIC_TABLES`. -/
def all : List MetricTable := [cpu, memory, disk, gpu, temperature, process, uptime]

def name : MetricTable → String
  | cpu => "metrics_cpu"
  | memory => "metrics_memory"
  | disk => "metrics_disk"
  | gpu => "metrics_gpu"
  | temperature => "metrics_temperature"
  | process => "metrics_process"
  | uptime => "metrics_uptime"

/-- The columns of a table besides its id, timestamp and session. -/
def columns : MetricTable → List String
  | cpu => ["cpu_percent", "cpu_frequency", "processor_count"]
  | memory => ["memory_total", "memory_used", "memory_available", "memory_percent",
      "swap_percent"]
  | disk => ["device", "mountpoint", "total", "used", "free", "percent", "read_bytes",
      "write_bytes", "read_latency_ms", "write_latency_ms", "disk_model", "disk_type"]
  | gpu => ["gpu_name", "utilization", "memory_used", "memory_total", "temperature_c",
      "driver_version"]
  | temperature => ["sensor", "temperature_c"]
  | process => ["pid", "name", "cpu_percent", "memory_bytes", "exe_path"]
  | uptime => ["boot_time", "uptime_seconds"]

/-- The table with the given name. -/
def ofName? (tableName : String) : Option MetricTable :=
  all.find? fun table => table.name = tableName

/-- Every table is found under its own name. -/
theorem ofName?_name (table : MetricTable) : ofName? table.name = some table := by
  cases table <;> decide

end MetricTable

/-- The value of a column; `NULL` when the row has none. -/
def MetricRow.column (row : MetricRow) (column : String) : SqlValue :=
  (row.values.lookup column).getD .null

/-- The number in a column, when there is one. -/
def SqlValue.number? : SqlValue → Option ℚ
  | .number value => some value
  | _ => none

end PcDiagnosticAgent
