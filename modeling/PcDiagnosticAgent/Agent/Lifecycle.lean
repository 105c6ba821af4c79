import PcDiagnosticAgent.Collectors.WindowsEvents
import PcDiagnosticAgent.Diagnostics.Verdict
import PcDiagnosticAgent.Library.Runs
import PcDiagnosticAgent.Storage.Retention

/-!
# The agent

`Agent.startup_analysis` of `agent/lifecycle.py`, and the operations by which
the agent changes its database. Of these only boot detection and the diagnosis
write sessions and incidents; the others are background work, and no operation
takes an event away.
-/

set_option autoImplicit false

namespace PcDiagnosticAgent

open AutoTables EventAnalyzer BootDetector Diagnosis WindowsEvents Retention

namespace Agent

structure StartupOutcome where
  database : Database
  boot : BootResult
  result : DiagnosisResult

/-- What the machine answers at a start: the clock, the boot time psutil reads
and the event log. -/
structure StartInputs where
  now : Epoch
  psutilBootTime : Option Epoch
  log : Option (List ReadResult)

def StartInputs.bootTime (inputs : StartInputs) : Epoch :=
  resolveBootTime none inputs.psutilBootTime inputs.now

/-- Boot detection, then the event log, then the diagnosis. The report that
may follow writes nothing to the database. -/
def startupAnalysis (db : Database) (config : Config) (inputs : StartInputs) : StartupOutcome :=
  let (db, boot) := detectBoot db inputs.now inputs.bootTime
  let db := collect db "System" inputs.log boot.sessionId
  let (db, result) := runDiagnosis db boot.toTransition config true
  { database := db, boot, result }

/-- The outcome of a diagnosis on the database it read. -/
def diagnosed (seen : Database) (boot : BootResult) (config : Config) : StartupOutcome :=
  let (db, result) := runDiagnosis seen boot.toTransition config true
  { database := db, boot, result }

/-- A startup is a diagnosis of what boot detection and the collector left. -/
theorem startupAnalysis_eq (db : Database) (config : Config) (inputs : StartInputs) :
    startupAnalysis db config inputs =
      diagnosed (collect (detectBoot db inputs.now inputs.bootTime).1 "System" inputs.log
          (detectBoot db inputs.now inputs.bootTime).2.sessionId)
        (detectBoot db inputs.now inputs.bootTime).2 config := rfl

/-- The writes of the agent, each as one operation. -/
inductive Operation where
  | detectBoot (now bootTime : Epoch)
  | collect (log : Option (List ReadResult)) (sessionId : ℕ)
  | insertEvents (rows : List Event) (sessionId : ℕ)
  | insertSnapshot (snapshot : Snapshot) (timestamp : Epoch) (sessionId : ℕ)
  | updateHeartbeat (timestamp : Epoch)
  | setState (key : String) (value : StateValue)
  | runDiagnosis (transition : Transition) (config : Config)
  | pruneMetrics (now : Epoch) (retentionHours : ℚ)

def Operation.apply (db : Database) : Operation → Database
  | .detectBoot now bootTime => (BootDetector.detectBoot db now bootTime).1
  | .collect log sessionId => WindowsEvents.collect db "System" log sessionId
  | .insertEvents rows sessionId => db.insertEvents rows sessionId
  | .insertSnapshot snapshot timestamp sessionId =>
    db.insertSnapshot snapshot timestamp sessionId
  | .updateHeartbeat timestamp => db.updateHeartbeat timestamp
  | .setState key value => db.setState key value
  | .runDiagnosis transition config => (Diagnosis.runDiagnosis db transition config true).1
  | .pruneMetrics now retentionHours => (Retention.pruneMetrics db now retentionHours).1

/-- Apply operations in order. -/
def applyAll (db : Database) (ops : List Operation) : Database := Runs.run Operation.apply db ops

/-- An operation other than boot detection and diagnosis. -/
def Operation.Background : Operation → Prop
  | .detectBoot _ _ => False
  | .runDiagnosis _ _ => False
  | _ => True

/-- What no write of events, metrics, state or heartbeat changes, no background
operation changes. -/
theorem Operation.Background.unchanged {Seen : Type} (observe : Database → Seen)
    (events : ∀ db events, observe { db with events } = observe db)
    (metrics : ∀ db metrics, observe { db with metrics } = observe db)
    (state : ∀ db agentState, observe { db with agentState } = observe db)
    (heartbeat : ∀ db heartbeat, observe { db with heartbeat } = observe db)
    (db : Database) (op : Operation) (background : op.Background) :
    observe (op.apply db) = observe db := by
  cases op with
  | detectBoot now bootTime => exact background.elim
  | collect log sessionId => exact collect_unchanged observe events state ..
  | insertEvents rows sessionId => exact events ..
  | insertSnapshot snapshot timestamp sessionId =>
    exact Database.insertSnapshot_unchanged observe (fun _ _ _ => metrics ..) ..
  | updateHeartbeat timestamp => exact heartbeat ..
  | setState key value => exact state ..
  | runDiagnosis transition config => exact background.elim
  | pruneMetrics now retentionHours => exact pruneMetrics_unchanged observe metrics ..

/-- No operation takes an event away. -/
theorem Operation.apply_events {op : Operation} {db : Database} {entry : Entry EventRow}
    (member : entry ∈ db.events.entries) : entry ∈ (op.apply db).events.entries := by
  cases op with
  | detectBoot now bootTime => exact (detectBoot_events db now bootTime).symm ▸ member
  | collect log sessionId => exact mem_collect_events "System" log sessionId member
  | insertEvents rows sessionId => exact AutoTable.mem_insertAll_of_mem _ member
  | insertSnapshot snapshot timestamp sessionId =>
    exact (Database.insertSnapshot_events db snapshot timestamp sessionId).symm ▸ member
  | updateHeartbeat timestamp => exact member
  | setState key value => exact member
  | runDiagnosis transition config =>
    exact (runDiagnosis_events db transition config true).symm ▸ member
  | pruneMetrics now retentionHours =>
    exact (pruneMetrics_unchanged (·.events) (fun _ _ => rfl) db now retentionHours).symm ▸ member

/-- Background operations leave the sessions alone. -/
theorem applyAll_sessions (db : Database) {ops : List Operation}
    (background : ∀ op ∈ ops, op.Background) : (applyAll db ops).sessions = db.sessions :=
  Runs.run_unchanged (·.sessions)
    (Operation.Background.unchanged (·.sessions) (fun _ _ => rfl) (fun _ _ => rfl)
      (fun _ _ => rfl) fun _ _ => rfl) db background

/-- Background operations leave the incidents alone. -/
theorem applyAll_incidents (db : Database) {ops : List Operation}
    (background : ∀ op ∈ ops, op.Background) : (applyAll db ops).incidents = db.incidents :=
  Runs.run_unchanged (·.incidents)
    (Operation.Background.unchanged (·.incidents) (fun _ _ => rfl) (fun _ _ => rfl)
      (fun _ _ => rfl) fun _ _ => rfl) db background

/-- Stored events stay stored. -/
theorem mem_applyAll_events {db : Database} {entry : Entry EventRow} (ops : List Operation)
    (member : entry ∈ db.events.entries) : entry ∈ (applyAll db ops).events.entries :=
  Runs.run_invariant (fun later : Database => entry ∈ later.events.entries)
    (fun _ _ (_ : True) stored => Operation.apply_events stored) member fun _ _ => trivial

end Agent

end PcDiagnosticAgent
