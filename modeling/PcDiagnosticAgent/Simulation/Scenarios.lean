import PcDiagnosticAgent.Library.SteppingLoop
import PcDiagnosticAgent.PyValue
import PcDiagnosticAgent.Storage.Database
import Mathlib.Data.Rat.Floor

/-!
# Synthetic scenarios

`simulation/scenarios.py`: four previous sessions with their metrics, heartbeats
and events, at fixed times. The streams step by an interval of their own, from
the start of the timeline to the last activity of the scenario.

A stream reaches its last activity only when that is a whole number of steps
after the start (`isGreatest_heartbeatStream`). In three scenarios it is. The
power loss ends 1255 s after the start, and its last sample is 25 s before that
(`powerLoss_silence`).

The description of a scenario, which only a reader sees, is left out.
-/

set_option autoImplicit false

namespace PcDiagnosticAgent

namespace Scenarios

/-- 2026-08-19 10:00:00 UTC. -/
def t0 : Epoch := 20684 * 86400 + 10 * 3600

/-- The interval of the streams, whatever interval is configured. -/
def collectionInterval : {step : ℚ // 0 < step} := ⟨30, by norm_num⟩

def hardHangName : String := "hard-hang"

def powerLossName : String := "power-loss"

def bsodName : String := "bsod"

def normalRestartName : String := "normal-restart"

def machine : String := "SIM-PC"

structure Scenario where
  name : String
  expectedType : Option IncidentType
  expectedConfidence : Option Level
  prevBoot : Epoch
  boot : Epoch
  lastActivity : Option Epoch
  events : List Event := []
  snapshots : List (Epoch × Snapshot) := []
  heartbeats : List Epoch := []

/-! ## Events -/

def event (ts : Epoch) (provider : String) (eventId level : ℤ) (message : String)
    (recordId : ℤ := 0) : Event where
  timestamp := ts
  provider := some provider
  eventId := some eventId
  level := some level
  channel := some "System"
  recordId := some recordId
  message := some message
  computer := some machine

/-- Events stamped at or just after the synthetic current boot. -/
def bootEvents (boot : Epoch) (kp41 bugcheck : Bool := false)
    (userInitiatedRestart : Bool := true) : List Event :=
  [event (boot + 4) "EventLog" 6009 3 "Microsoft (R) Windows (R) 10 Enterprise.",
    event (boot + 4) "EventLog" 6005 3 "The Event log service was started.",
    event (boot + 4) "EventLog" 6013 3 "The system uptime is 0 seconds."] ++
  (if kp41 then
    [event boot "Microsoft-Windows-Kernel-Power" 41 1
      "The system has rebooted without cleanly shutting down first."]
  else []) ++
  (if bugcheck then
    [event boot "BugCheck" 1001 1
      "The computer has rebooted from a bugcheck. The bugcheck was: 0x0000007e."]
  else []) ++
  -- routine Kernel-Power events are common at every boot
  [event (boot + 7) "Microsoft-Windows-Kernel-Power" 109 1
    "The kernel power service has entered the running state."] ++
  (if userInitiatedRestart then
    [event (boot - 15) "User32" 1074 3
      ("The process C:\\Windows\\System32\\shutdown.exe initiated the restart " ++
        "of computer SIM-PC on behalf of user SIM\\admin for reason: " ++
        "No title for this reason could be found.")]
  else [])

/-! ## Metrics -/

def cpu (pct : ℚ) : SnapshotRow :=
  [("cpu_percent", .number pct), ("cpu_frequency", .number 2400), ("processor_count", .number 8)]

def mem (pct : ℚ) : SnapshotRow :=
  [("memory_percent", .number pct), ("memory_total", .number 17179869184),
    ("memory_used", .number 0), ("memory_available", .number 0), ("swap_percent", .number 30)]

def disk (pct : ℚ) : SnapshotRow :=
  [("device", .text "C:"), ("mountpoint", .text "C:\\"), ("total", .number 512000000000),
    ("used", .number 0), ("free", .number 0), ("percent", .number pct), ("read_bytes", .number 0),
    ("write_bytes", .number 0), ("read_latency_ms", .number 0), ("write_latency_ms", .number 0),
    ("disk_model", .text "SIM SSD"), ("disk_type", .text "ssd")]

def process (pct : ℚ) : SnapshotRow :=
  [("pid", .number 1000), ("name", .text "chrome.exe"), ("cpu_percent", .number (pct * (4 / 5))),
    ("memory_bytes", .number 1200000000),
    ("exe_path", .text "C:\\Program Files\\Google\\Chrome\\Application\\chrome.exe")]

def metricRows (prevBoot ts : Epoch) (cpuPct memPct diskPct tempC : ℚ) : Snapshot :=
  [("metrics_cpu", [cpu cpuPct]),
    ("metrics_memory", [mem memPct]),
    ("metrics_disk", [disk diskPct]),
    ("metrics_uptime", [[("boot_time", .number prevBoot),
      ("uptime_seconds", .number (ts - prevBoot))]]),
    ("metrics_process", [process cpuPct]),
    ("metrics_temperature", [[("sensor", .text "cpu"), ("temperature_c", .number tempC)]])]

/-! ## Streams -/

/-- The bound of the streams, with the margin for floats. -/
def streamBound (stop : Epoch) : Epoch := stop + 1 / 10 ^ 6

def metricStream (prevBoot start stop : Epoch) (cpuFn memFn diskFn tempFn : Epoch → ℚ) :
    List (Epoch × Snapshot) :=
  SteppingLoop.collect collectionInterval
    (fun ts => (ts, metricRows prevBoot ts (cpuFn ts) (memFn ts) (diskFn ts) (tempFn ts)))
    start (streamBound stop)

def heartbeatStream (start stop : Epoch) : List Epoch :=
  SteppingLoop.collect collectionInterval id start (streamBound stop)

/-- Every sample of the metrics comes with a heartbeat. -/
theorem metricStream_times (prevBoot start stop : Epoch) (cpuFn memFn diskFn tempFn : Epoch → ℚ) :
    (metricStream prevBoot start stop cpuFn memFn diskFn tempFn).map Prod.fst =
      heartbeatStream start stop := by
  rw [metricStream, SteppingLoop.collect_eq_map, List.map_map]
  exact List.map_id _

/-- The rounds of a stream, when the last activity lies less than a step after
the last of them. -/
theorem rounds_stream {start stop : Epoch} {count : ℕ} (reached : start + count * 30 ≤ stop)
    (last : stop < start + (count + 1) * 30 - 1 / 10 ^ 6) :
    SteppingLoop.rounds collectionInterval start (streamBound stop) = count := by
  have positive : (0 : ℚ) < collectionInterval := collectionInterval.2
  have nonneg : (0 : ℚ) ≤ count := Nat.cast_nonneg count
  have value : (collectionInterval : ℚ) = 30 := rfl
  refine (Nat.floor_eq_iff ?_).mpr ⟨?_, ?_⟩
  · refine div_nonneg ?_ positive.le
    unfold streamBound
    linarith
  · rw [le_div_iff₀ positive, value, streamBound]
    linarith
  · rw [div_lt_iff₀ positive, value, streamBound]
    linarith

/-- **The last heartbeat of a stream is the last whole step before its end.** -/
theorem isGreatest_heartbeatStream {start stop : Epoch} {count : ℕ}
    (reached : start + count * 30 ≤ stop)
    (last : stop < start + (count + 1) * 30 - 1 / 10 ^ 6) :
    IsGreatest {time | time ∈ heartbeatStream start stop} (start + count * 30) := by
  have nonneg : (0 : ℚ) ≤ count := Nat.cast_nonneg count
  have begun : start ≤ streamBound stop := by
    unfold streamBound
    linarith
  have greatest := @SteppingLoop.isGreatest_times _ _ _ _ _ collectionInterval _ _ begun
  rw [rounds_stream reached last] at greatest
  exact greatest

/-! ## The scenarios -/

namespace HardHang

def cpu (ts : Epoch) : ℚ :=
  let elapsed := ts - t0
  if elapsed < 600 then 35
  else if elapsed < 900 then 50
  else if elapsed < 1200 then 65
  else 91

def mem (ts : Epoch) : ℚ :=
  let elapsed := ts - t0
  55 + min (elapsed / 1200) 1 * 17

def disk (ts : Epoch) : ℚ := if 1230 ≤ ts - t0 then 100 else 42

def temp (ts : Epoch) : ℚ := 52 + min ((ts - t0) / 1560) 1 * 11

end HardHang

/-- Metrics stop five minutes before the boot. -/
def hardHang : Scenario :=
  let prevBoot := t0
  let boot := t0 + 1560
  let lastActivity := t0 + 1260
  { name := hardHangName
    expectedType := some .hardHang
    expectedConfidence := some .high
    prevBoot := prevBoot
    boot := boot
    lastActivity := some lastActivity
    events := bootEvents boot true false false ++
      [event (prevBoot + 2) "EventLog" 6005 3 "The Event log service was started."]
    snapshots := metricStream prevBoot t0 lastActivity HardHang.cpu HardHang.mem HardHang.disk
      HardHang.temp
    heartbeats := heartbeatStream t0 lastActivity }

/-- Metrics and heartbeats stop five seconds before the boot. -/
def powerLoss : Scenario :=
  let prevBoot := t0
  let boot := t0 + 1260
  let lastActivity := boot - 5
  { name := powerLossName
    expectedType := some .powerLoss
    expectedConfidence := some .low
    prevBoot := prevBoot
    boot := boot
    lastActivity := some lastActivity
    events := bootEvents boot true false false ++
      [event (prevBoot + 2) "EventLog" 6005 3 "The Event log service was started."]
    snapshots := metricStream prevBoot t0 lastActivity (fun _ => 35) (fun _ => 58) (fun _ => 40)
      (fun _ => 51)
    heartbeats := heartbeatStream t0 lastActivity }

/-- BugCheck 1001 is recorded at boot. -/
def bsod : Scenario :=
  let prevBoot := t0
  let boot := t0 + 1200
  let lastActivity := boot - 240
  { name := bsodName
    expectedType := some .bsod
    expectedConfidence := some .high
    prevBoot := prevBoot
    boot := boot
    lastActivity := some lastActivity
    events := bootEvents boot false true false ++
      [event (prevBoot + 2) "EventLog" 6005 3 "The Event log service was started."]
    snapshots := metricStream prevBoot t0 lastActivity (fun _ => 40) (fun _ => 60) (fun _ => 45)
      (fun _ => 50)
    heartbeats := heartbeatStream t0 lastActivity }

/-- User32 1074 and EventLog 6006, without 41, 6008 and 1001. -/
def normalRestart : Scenario :=
  let prevBoot := t0
  let boot := t0 + 1500
  let lastActivity := boot - 30
  { name := normalRestartName
    expectedType := none
    expectedConfidence := none
    prevBoot := prevBoot
    boot := boot
    lastActivity := some lastActivity
    events := [
      event (prevBoot + 2) "EventLog" 6005 3 "The Event log service was started.",
      event (boot - 15) "User32" 1074 3
        ("User SIM\\admin initiated the restart of computer SIM-PC " ++ "(shutdown /r /t 10)."),
      event (boot - 15) "EventLog" 6006 3 "The Event log service was stopped.",
      event (boot - 8) "Microsoft-Windows-Kernel-Power" 109 1
        "The kernel power service is preparing to stop.",
      event (boot - 6) "Microsoft-Windows-Kernel-Power" 172 1
        "The kernel power service runtime is finishing.",
      event (boot - 4) "Microsoft-Windows-Kernel-Power" 521 1
        "The kernel power service is in the resume path.",
      event (boot + 4) "EventLog" 6009 3 "Microsoft (R) Windows (R) 10 Enterprise.",
      event (boot + 4) "EventLog" 6005 3 "The Event log service was started.",
      event (boot + 4) "EventLog" 6013 3 "The system uptime is 0 seconds.",
      event (boot + 7) "Microsoft-Windows-Kernel-Power" 109 1
        "The kernel power service has entered the running state."]
    snapshots := metricStream prevBoot t0 lastActivity (fun _ => 25) (fun _ => 50) (fun _ => 38)
      (fun _ => 48)
    heartbeats := heartbeatStream t0 lastActivity }

/-- `_SCENARIOS`. -/
def scenarios : List (String × Scenario) :=
  [(hardHangName, hardHang), (powerLossName, powerLoss), (bsodName, bsod),
    (normalRestartName, normalRestart)]

def scenarioNames : List String := scenarios.map Prod.fst

/-- The scenario of a name; an unknown name is a `KeyError`. -/
def getScenario (name : String) : Except PyError Scenario :=
  match scenarios.lookup name with
  | none => .error .other
  | some scenario => .ok scenario

end Scenarios

end PcDiagnosticAgent
