import PcDiagnosticAgent.Agent.Lifecycle
import PcDiagnosticAgent.Collectors.Metrics

/-!
# The scheduler

`Scheduler.collect_high` and `collect_low` of `agent/scheduler.py`. A collector
that raises answers nothing and the others go on. A cycle of high frequency
stores its snapshot and the heartbeat. A cycle of low frequency reads the event
log, stores its snapshot and prunes old metrics when this is due.

A service is a scheduler with the session it collects for. It is started by
`startup_analysis`; a restart of the service analyses again and forgets when
retention last ran. No write raises here (`HighCycle`, `LowCycle` and `RetainedAge`
have those that do), and the heartbeat file, which the database knows nothing of, is
left out.

Every cycle is background work in the sense of `Operation`
(`Service.step_cycle`), so what holds across background work holds across
cycles.
-/

set_option autoImplicit false

namespace PcDiagnosticAgent

open AutoTables BootDetector Diagnosis WindowsEvents Retention

/-! ## Cycles -/

namespace Scheduling

/-- What the high-frequency collectors are answered; a collector without an
answer raised. -/
structure HighAnswers where
  cpu : Option Collectors.CpuReading := none
  memory : Option Collectors.MemoryReading := none
  disk : Option Collectors.DiskReading := none
  processes : Option (Option (List Collectors.ProcessReading)) := none
  uptime : Option Epoch := none

/-- What a collector adds to the snapshot of its cycle. -/
def collected {Reading : Type} (collector : Reading → Snapshot) : Option Reading → Snapshot
  | none => []
  | some reading => collector reading

def highSnapshot (answers : HighAnswers) (now : Epoch) : Snapshot :=
  collected Collectors.cpu answers.cpu ++ collected Collectors.memory answers.memory ++
    collected Collectors.disk answers.disk ++ collected Collectors.processes answers.processes ++
    collected (Collectors.uptime now) answers.uptime

def collectHigh (db : Database) (answers : HighAnswers) (now : Epoch) (sessionId : ℕ) :
    Database :=
  (db.insertSnapshot (highSnapshot answers now) now sessionId).updateHeartbeat now

/-- What the low-frequency collectors are answered, and the clock retention
reads when it runs. -/
structure LowAnswers where
  gpu : Option Collectors.GpuReading := none
  temperature : Option (List (String × ℚ)) := none
  log : Option (List ReadResult) := none
  retentionClock : Epoch

def lowSnapshot (answers : LowAnswers) : Snapshot :=
  collected Collectors.gpu answers.gpu ++ collected Collectors.temperature answers.temperature

/-- The database and the time retention last ran. -/
structure Scheduler where
  database : Database
  lastRetention : Epoch

def RetentionDue (config : Config) (lastRetention now : Epoch) : Prop :=
  max 300 (config.lowFrequencyIntervalSeconds : ℚ) ≤ now - lastRetention

instance (config : Config) (lastRetention now : Epoch) :
    Decidable (RetentionDue config lastRetention now) :=
  inferInstanceAs (Decidable (_ ≤ _))

/-- The database of a low-frequency cycle before retention. -/
def sampleLow (db : Database) (answers : LowAnswers) (now : Epoch) (sessionId : ℕ) : Database :=
  let db := collect db "System" answers.log sessionId
  if lowSnapshot answers = [] then db
  else db.insertSnapshot (lowSnapshot answers) now sessionId

def collectLow (config : Config) (scheduler : Scheduler) (answers : LowAnswers) (now : Epoch)
    (sessionId : ℕ) : Scheduler :=
  let db := sampleLow scheduler.database answers now sessionId
  if RetentionDue config scheduler.lastRetention now then
    { database := (pruneMetrics db answers.retentionClock config.retentionHours).1
      lastRetention := now }
  else { scheduler with database := db }

end Scheduling

/-! ## Services -/

namespace Agent

open Scheduling

/-- A running service. -/
structure Service extends Scheduler where
  sessionId : ℕ

/-- A new scheduler after the analysis; retention has not run yet. -/
def startService (config : Config) (db : Database) (inputs : StartInputs) : Service :=
  let outcome := startupAnalysis db config inputs
  { database := outcome.database, lastRetention := 0, sessionId := outcome.boot.sessionId }

/-- What happens to a service within a boot. -/
inductive SessionStep where
  | collectHigh (answers : HighAnswers) (now : Epoch)
  | collectLow (answers : LowAnswers) (now : Epoch)
  | restart (inputs : StartInputs)

def Service.step (config : Config) (service : Service) : SessionStep → Service
  | .collectHigh answers now =>
    { service with
      database := Scheduling.collectHigh service.database answers now service.sessionId }
  | .collectLow answers now =>
    { Scheduling.collectLow config service.toScheduler answers now service.sessionId with
      sessionId := service.sessionId }
  | .restart inputs => startService config service.database inputs

/-- Let the steps happen in order. -/
def Service.run (config : Config) (service : Service) (steps : List SessionStep) : Service :=
  Runs.run (Service.step config) service steps

/-! ## Cycles as background work -/

/-- A step that starts nothing. -/
def SessionStep.IsCycle : SessionStep → Prop
  | .restart _ => False
  | _ => True

theorem SessionStep.isCycle_or_restart (step : SessionStep) :
    step.IsCycle ∨ ∃ inputs, step = .restart inputs := by
  cases step with
  | collectHigh answers now => exact .inl trivial
  | collectLow answers now => exact .inl trivial
  | restart inputs => exact .inr ⟨inputs, rfl⟩

/-- The writes of a high-frequency cycle. -/
def highOperations (answers : HighAnswers) (now : Epoch) (sessionId : ℕ) : List Operation :=
  [.insertSnapshot (highSnapshot answers now) now sessionId, .updateHeartbeat now]

/-- The writes of a low-frequency cycle. -/
def lowOperations (config : Config) (lastRetention : Epoch) (answers : LowAnswers) (now : Epoch)
    (sessionId : ℕ) : List Operation :=
  [.collect answers.log sessionId, .insertSnapshot (lowSnapshot answers) now sessionId] ++
    if RetentionDue config lastRetention now then
      [.pruneMetrics answers.retentionClock config.retentionHours]
    else []

theorem collectHigh_eq (db : Database) (answers : HighAnswers) (now : Epoch) (sessionId : ℕ) :
    collectHigh db answers now sessionId =
      applyAll db (highOperations answers now sessionId) := rfl

/-- An empty snapshot is the same as none. -/
theorem sampleLow_eq (db : Database) (answers : LowAnswers) (now : Epoch) (sessionId : ℕ) :
    sampleLow db answers now sessionId =
      (collect db "System" answers.log sessionId).insertSnapshot (lowSnapshot answers) now
        sessionId := by
  unfold sampleLow
  split
  · rename_i none
    rw [none]
    rfl
  · rfl

theorem collectLow_eq (config : Config) (scheduler : Scheduler) (answers : LowAnswers)
    (now : Epoch) (sessionId : ℕ) :
    (collectLow config scheduler answers now sessionId).database =
      applyAll scheduler.database
        (lowOperations config scheduler.lastRetention answers now sessionId) := by
  have sampled := sampleLow_eq scheduler.database answers now sessionId
  unfold collectLow lowOperations
  split <;> simp only [sampled] <;> rfl

/-- **A cycle is background work.** -/
theorem Service.step_cycle (config : Config) (service : Service) {step : SessionStep}
    (cycle : step.IsCycle) : ∃ ops : List Operation, (∀ op ∈ ops, op.Background) ∧
      (service.step config step).database = applyAll service.database ops := by
  cases step with
  | collectHigh answers now =>
    refine ⟨highOperations answers now service.sessionId, ?_, collectHigh_eq ..⟩
    intro op member
    simp only [highOperations, List.mem_cons, List.not_mem_nil, or_false] at member
    rcases member with rfl | rfl <;> trivial
  | collectLow answers now =>
    refine ⟨lowOperations config service.lastRetention answers now service.sessionId, ?_,
      collectLow_eq ..⟩
    intro op member
    simp only [lowOperations, List.mem_append, List.mem_cons, List.not_mem_nil, or_false] at member
    rcases member with (rfl | rfl) | pruned
    · trivial
    · trivial
    · split at pruned
      · rw [List.mem_singleton.mp pruned]
        trivial
      · cases pruned
  | restart inputs => exact cycle.elim

end Agent

end PcDiagnosticAgent
