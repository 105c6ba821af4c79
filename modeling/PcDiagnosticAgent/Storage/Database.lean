import PcDiagnosticAgent.Library.AutoTable
import PcDiagnosticAgent.Storage.Schema
import Mathlib.Data.List.Sort

/-!
# The database

The operations of `storage/database.py` as functions on the contents of the
database. Every write here succeeds: the values are bindable and the disk
works. `eventsBetween` is the query that `boot_detector.py` and `diagnosis.py`
both define.

Each write leaves the tables it does not name as they are.
-/

set_option autoImplicit false

namespace PcDiagnosticAgent

open AutoTables

structure Database where
  sessions : AutoTable SessionRow
  events : AutoTable EventRow
  incidents : AutoTable IncidentRow
  findings : AutoTable FindingRow
  metrics : MetricTable → List MetricRow
  heartbeat : Option Epoch
  agentState : String → Option StateValue

/-- A row of a snapshot: column names with values. -/
abbrev SnapshotRow := List (String × SqlValue)

/-- A snapshot: table names with rows. -/
abbrev Snapshot := List (String × List SnapshotRow)

/-- The columns `update_session` sets; an absent column is not named in the
statement. -/
structure SessionUpdate where
  previousBootTime : Option Epoch := none
  uptimeBeforeBoot : Option ℚ := none
  previousSessionClean : Option ℤ := none
  unexpectedShutdown : Option ℤ := none
  kernelPowerDetected : Option ℤ := none
  bugcheckDetected : Option ℤ := none

def SessionUpdate.apply (fields : SessionUpdate) (row : SessionRow) : SessionRow :=
  { row with
    previousBootTime := fields.previousBootTime.or row.previousBootTime
    uptimeBeforeBoot := fields.uptimeBeforeBoot.or row.uptimeBeforeBoot
    previousSessionClean := fields.previousSessionClean.or row.previousSessionClean
    unexpectedShutdown := fields.unexpectedShutdown.or row.unexpectedShutdown
    kernelPowerDetected := fields.kernelPowerDetected.or row.kernelPowerDetected
    bugcheckDetected := fields.bugcheckDetected.or row.bugcheckDetected }

namespace Database

/-- The database right after the schema was created. -/
def empty : Database where
  sessions := .empty
  events := .empty
  incidents := .empty
  findings := .empty
  metrics := fun _ => []
  heartbeat := none
  agentState := fun _ => none

/-! ## Metrics and events -/

/-- The row that is bound for one row of a snapshot: the columns of the table,
each with the value the snapshot gives it. -/
def snapshotRow (table : MetricTable) (timestamp : Epoch) (sessionId : ℕ)
    (row : SnapshotRow) : MetricRow where
  timestamp := timestamp
  sessionId := sessionId
  values := table.columns.map fun column => (column, (row.lookup column).getD .null)

/-- Append rows to one metric table. -/
def addMetrics (db : Database) (table : MetricTable) (rows : List MetricRow) : Database :=
  { db with metrics := Function.update db.metrics table (db.metrics table ++ rows) }

/-- Insert the rows of one table of a snapshot; an unknown table is skipped. -/
def insertTable (timestamp : Epoch) (sessionId : ℕ) (db : Database)
    (entry : String × List SnapshotRow) : Database :=
  match MetricTable.ofName? entry.1 with
  | none => db
  | some table => db.addMetrics table (entry.2.map (snapshotRow table timestamp sessionId))

def insertSnapshot (db : Database) (snapshot : Snapshot) (timestamp : Epoch)
    (sessionId : ℕ) : Database :=
  snapshot.foldl (insertTable timestamp sessionId) db

def clip (value : Option String) (limit : ℕ) : Option String :=
  value.map fun text => String.ofList (text.toList.take limit)

/-- The row that is bound for one event. -/
def eventRow (sessionId : ℕ) (event : Event) : EventRow :=
  { event with message := clip event.message 4000, sessionId := sessionId }

def insertEvents (db : Database) (rows : List Event) (sessionId : ℕ) : Database :=
  { db with events := db.events.insertAll (rows.map (eventRow sessionId)) }

/-- `SELECT * FROM events WHERE timestamp >= ? AND timestamp <= ? ORDER BY
timestamp`. -/
def eventsBetween (db : Database) (start stop : Epoch) : List EventRow :=
  (db.events.rows.filter fun event =>
    start ≤ event.timestamp ∧ event.timestamp ≤ stop).insertionSort
    fun earlier later => earlier.timestamp ≤ later.timestamp

/-! ## Sessions -/

def createSession (db : Database) (bootTime createdAt : Epoch) : Database × ℕ :=
  ({ db with sessions := db.sessions.insert { bootTime, createdAt } }, db.sessions.seq + 1)

def updateSession (db : Database) (sessionId : ℕ) (fields : SessionUpdate) : Database :=
  { db with sessions := db.sessions.update sessionId fields.apply }

def latestSession (db : Database) : Option (Entry SessionRow) := db.sessions.latest

/-- The session before the given one. -/
def earlierSession (db : Database) (sessionId : ℕ) : Option (Entry SessionRow) :=
  db.sessions.before sessionId

def getSession (db : Database) (sessionId : ℕ) : Option SessionRow :=
  db.sessions.find? sessionId

/-! ## Incidents -/

def incidentRow (incident : Incident) : IncidentRow where
  detectedAt := incident.detectedAt
  incidentType := some incident.incidentType
  confidence := some incident.confidence
  previousSessionId := incident.previousSessionId
  lastMetricTimestamp := incident.lastMetricTimestamp
  rebootTimestamp := some incident.rebootTimestamp
  durationEstimate := incident.durationEstimate
  findings := incident.findings
  evidence := incident.evidence

def createIncident (db : Database) (incident : Incident) (findings : List Finding) :
    Database × ℕ :=
  let incidentId := db.incidents.seq + 1
  ({ db with
      incidents := db.incidents.insert (incidentRow incident)
      findings := db.findings.insertAll (findings.map fun finding => { finding with incidentId }) },
    incidentId)

/-- The newest incidents, newest first. -/
def listIncidents (db : Database) (limit : ℕ) : List (Entry IncidentRow) :=
  db.incidents.entries.reverse.take limit

/-! ## Heartbeat and state -/

def updateHeartbeat (db : Database) (timestamp : Epoch) : Database :=
  { db with heartbeat := some timestamp }

def getHeartbeat (db : Database) : Option Epoch := db.heartbeat

def setState (db : Database) (key : String) (value : StateValue) : Database :=
  { db with agentState := Function.update db.agentState key (some value) }

def getState (db : Database) (key : String) : Option StateValue := db.agentState key

/-! ## Reading events -/

@[simp] theorem mem_eventsBetween {db : Database} {start stop : Epoch} {event : EventRow} :
    event ∈ db.eventsBetween start stop ↔
      event ∈ db.events.rows ∧ start ≤ event.timestamp ∧ event.timestamp ≤ stop := by
  simp [eventsBetween]

/-- The query reads the events table only. -/
theorem eventsBetween_congr {db other : Database} (same : db.events = other.events)
    (start stop : Epoch) : db.eventsBetween start stop = other.eventsBetween start stop := by
  simp only [eventsBetween, same]

/-! ## What a write leaves alone -/

theorem insertSnapshot_unchanged {Seen : Type} (observe : Database → Seen)
    (unchanged : ∀ db table rows, observe (addMetrics db table rows) = observe db)
    (db : Database) (snapshot : Snapshot) (timestamp : Epoch) (sessionId : ℕ) :
    observe (db.insertSnapshot snapshot timestamp sessionId) = observe db := by
  induction snapshot generalizing db with
  | nil => rfl
  | cons entry snapshot ih =>
    refine (ih _).trans ?_
    unfold insertTable
    split
    · rfl
    · exact unchanged db _ _

/-- Writing a snapshot adds rows with its timestamp and its session. -/
theorem mem_insertSnapshot {db : Database} {snapshot : Snapshot} {timestamp : Epoch}
    {sessionId : ℕ} {table : MetricTable} {row : MetricRow}
    (member : row ∈ (db.insertSnapshot snapshot timestamp sessionId).metrics table) :
    row ∈ db.metrics table ∨ row.timestamp = timestamp ∧ row.sessionId = sessionId := by
  induction snapshot generalizing db with
  | nil => exact .inl member
  | cons entry snapshot ih =>
    rcases ih member with stored | fresh
    · unfold insertTable at stored
      split at stored
      · exact .inl stored
      · rename_i other named
        by_cases same : table = other
        · subst same
          simp only [addMetrics, Function.update_self, List.mem_append, List.mem_map] at stored
          rcases stored with old | ⟨values, -, rfl⟩
          · exact .inl old
          · exact .inr ⟨rfl, rfl⟩
        · simp only [addMetrics, Function.update_of_ne same] at stored
          exact .inl stored
    · exact .inr fresh

/-- Writing a snapshot adds rows with its timestamp. -/
theorem mem_metrics_insertSnapshot {db : Database} {snapshot : Snapshot} {timestamp : Epoch}
    {sessionId : ℕ} {table : MetricTable} {row : MetricRow}
    (member : row ∈ (db.insertSnapshot snapshot timestamp sessionId).metrics table) :
    row ∈ db.metrics table ∨ row.timestamp = timestamp :=
  (mem_insertSnapshot member).imp_right And.left

/-- Writing a snapshot keeps the rows that are stored. -/
theorem metrics_subset_insertSnapshot {db : Database} {snapshot : Snapshot} {timestamp : Epoch}
    {sessionId : ℕ} {table : MetricTable} {row : MetricRow} (member : row ∈ db.metrics table) :
    row ∈ (db.insertSnapshot snapshot timestamp sessionId).metrics table := by
  induction snapshot generalizing db with
  | nil => exact member
  | cons entry snapshot ih =>
    refine ih ?_
    unfold insertTable
    split
    · exact member
    · rename_i other named
      by_cases same : table = other
      · subst same
        simp only [addMetrics, Function.update_self]
        exact List.mem_append_left _ member
      · simpa only [addMetrics, Function.update_of_ne same] using member

@[simp] theorem insertSnapshot_sessions (db : Database) (snapshot : Snapshot)
    (timestamp : Epoch) (sessionId : ℕ) :
    (db.insertSnapshot snapshot timestamp sessionId).sessions = db.sessions :=
  insertSnapshot_unchanged (·.sessions) (fun _ _ _ => rfl) db snapshot timestamp sessionId

@[simp] theorem insertSnapshot_events (db : Database) (snapshot : Snapshot)
    (timestamp : Epoch) (sessionId : ℕ) :
    (db.insertSnapshot snapshot timestamp sessionId).events = db.events :=
  insertSnapshot_unchanged (·.events) (fun _ _ _ => rfl) db snapshot timestamp sessionId

end Database

end PcDiagnosticAgent
