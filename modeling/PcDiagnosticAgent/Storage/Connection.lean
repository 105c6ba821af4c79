import PcDiagnosticAgent.Library.AutoTable
import PcDiagnosticAgent.Library.Transactions
import PcDiagnosticAgent.PyValue
import PcDiagnosticAgent.Storage.Schema

/-!
# The connection

The write operations of `storage/database.py` on arbitrary Python values, with
the errors they meet. A value that SQLite has no type for is refused with an
error of sqlite3; an integer outside 64 bits and a text that UTF-8 cannot encode
are refused with other exceptions. The connection is in its default transaction
mode: the first statement that changes something opens a transaction, and what
was changed is on disk after the next commit.

A cell holds the value that was bound; how the affinity of a column converts it
is left out.
-/

set_option autoImplicit false

namespace PcDiagnosticAgent

open AutoTables Transactions

/-- A stored value. -/
inductive Cell where
  | null
  | integer (value : ℤ)
  | real (value : PyFloat)
  | text (value : PyStr)
  | blob (value : List UInt8)
deriving DecidableEq, Repr

/-- Column names with their values. -/
abbrev Row := List (String × Cell)

/-- The tables whose ids SQLite assigns. -/
inductive TableName where
  | metric (table : MetricTable)
  | events
  | sessions
  | incidents
  | findings
deriving DecidableEq, Repr

/-- The columns that must not be `NULL`. -/
def TableName.notNull : TableName → List String
  | .metric _ => ["timestamp"]
  | .events => ["timestamp"]
  | .sessions => ["boot_time", "created_at"]
  | .incidents => ["detected_at"]
  | .findings => []

structure Store where
  rows : TableName → AutoTable Row
  heartbeat : Option Row
  agentState : PyStr → Option Row

namespace Connection

/-! ## Binding -/

/-- Bind one parameter; no number binds as `NULL`. -/
def bind : PyValue → Except PyError Cell
  | .none => .ok .null
  | .bool value => .ok (.integer (if value then 1 else 0))
  | .int value =>
    if -2 ^ 63 ≤ value ∧ value < 2 ^ 63 then .ok (.integer value) else .error .other
  | .float .nan => .ok .null
  | .float value => .ok (.real value)
  | .str value => if value.encodable then .ok (.text value) else .error .other
  | .bytes value => .ok (.blob value)
  | .list _ => .error .sqlite
  | .dict _ => .error .sqlite
  | .other => .error .sqlite

/-- Bind the parameters of a statement in order, and check the columns that must
not be `NULL`. -/
def bindRow (columns notNull : List String) (values : List PyValue) : Except PyError Row := do
  let cells ← values.mapM bind
  let row := columns.zip cells
  if notNull.any fun column => row.lookup column = some .null then throw .sqlite
  return row

/-- The first of the values that does not bind is refused with this error. -/
def FirstUnbound (error : PyError) (values : List PyValue) : Prop :=
  ∃ earlier refused later, values = earlier ++ refused :: later ∧
    (∀ value ∈ earlier, ∃ cell, bind value = .ok cell) ∧ bind refused = .error error

theorem mapM_bind_error_iff {values : List PyValue} {error : PyError} :
    values.mapM bind = .error error ↔ FirstUnbound error values := by
  induction values with
  | nil =>
    refine iff_of_false nofun ?_
    rintro ⟨_ | ⟨first, earlier⟩, refused, later, split, -, -⟩
    · cases split
    · cases split
  | cons value values ih =>
    rw [List.mapM_cons]
    cases bound : bind value with
    | error first =>
      refine Iff.trans (Except.error.injEq first error).to_iff ⟨?_, ?_⟩
      · rintro rfl
        exact ⟨[], value, values, rfl, by simp, bound⟩
      · rintro ⟨_ | ⟨first, earlier⟩, refused, later, split, binds, fails⟩
        · obtain ⟨rfl, -⟩ := List.cons.inj split
          exact Except.error.inj (bound.symm.trans fails)
        · obtain ⟨rfl, -⟩ := List.cons.inj split
          obtain ⟨cell, good⟩ := binds value List.mem_cons_self
          exact absurd (bound.symm.trans good) nofun
    | ok cell =>
      have rest : (Except.ok cell >>= fun cell => values.mapM bind >>= fun cells =>
          pure (cell :: cells)) = .error error ↔ values.mapM bind = .error error := by
        cases values.mapM bind with
        | ok cells => exact iff_of_false nofun nofun
        | error first => exact Iff.rfl
      refine rest.trans (ih.trans ⟨?_, ?_⟩)
      · rintro ⟨earlier, refused, later, rfl, binds, fails⟩
        refine ⟨value :: earlier, refused, later, rfl, ?_, fails⟩
        exact List.forall_mem_cons.mpr ⟨⟨cell, bound⟩, binds⟩
      · rintro ⟨_ | ⟨first, earlier⟩, refused, later, split, binds, fails⟩
        · obtain ⟨rfl, -⟩ := List.cons.inj split
          exact absurd (bound.symm.trans fails) nofun
        · obtain ⟨rfl, rfl⟩ := List.cons.inj split
          exact ⟨earlier, refused, later, rfl, (List.forall_mem_cons.mp binds).2, fails⟩

/-- Binding is refused by an error of sqlite3 or by an error of another kind. -/
theorem bind_error {value : PyValue} {error : PyError} (refused : bind value = .error error) :
    error = .sqlite ∨ error = .other := by
  cases value with
  | int number =>
    rw [bind] at refused
    split at refused
    · cases refused
    · exact .inr (Except.error.inj refused).symm
  | str text =>
    rw [bind] at refused
    split at refused
    · cases refused
    · exact .inr (Except.error.inj refused).symm
  | float number => cases number <;> cases refused
  | list items => exact .inl (Except.error.inj refused).symm
  | dict items => exact .inl (Except.error.inj refused).symm
  | other => exact .inl (Except.error.inj refused).symm
  | none => cases refused
  | bool flag => cases refused
  | bytes value => cases refused

theorem bindRow_error_iff {columns notNull : List String} {values : List PyValue}
    {error : PyError} (kind : error ≠ .sqlite) :
    bindRow columns notNull values = .error error ↔ FirstUnbound error values := by
  rw [← mapM_bind_error_iff, bindRow]
  cases values.mapM bind with
  | error first => exact ⟨fun same => by cases same; rfl, fun same => by cases same; rfl⟩
  | ok cells =>
    refine iff_of_false (fun refused => ?_) nofun
    change (if _ then _ else _) = _ at refused
    split at refused
    · exact kind (Except.error.inj refused).symm
    · cases refused

theorem bindRow_error {columns notNull : List String} {values : List PyValue} {error : PyError}
    (refused : bindRow columns notNull values = .error error) :
    error = .sqlite ∨ error = .other := by
  by_cases kind : error = .sqlite
  · exact .inl kind
  · obtain ⟨_, _, _, _, _, unbound⟩ := (bindRow_error_iff kind).mp refused
    exact bind_error unbound

/-! ## Statements -/

def addRow (store : Store) (table : TableName) (row : Row) : Store :=
  { store with rows := Function.update store.rows table ((store.rows table).insert row) }

/-- `INSERT INTO table (columns) VALUES (values)`. -/
def insert (connection : Connection Store) (table : TableName) (columns : List String)
    (values : List PyValue) : Except PyError (Connection Store) := do
  let row ← bindRow columns table.notNull values
  return { connection with working := addRow connection.working table row }

/-- The number of the row that the last `INSERT` added to the table. -/
def lastRowId (connection : Connection Store) (table : TableName) : ℕ :=
  (connection.working.rows table).seq

/-- Commit, unless an error left the operation. -/
def committed {Result : Type} (attempt : Connection Store × Except PyError Result) :
    Connection Store × Except PyError Result :=
  match attempt.2 with
  | .ok _ => (attempt.1.commit, attempt.2)
  | .error _ => attempt

/-! ## Metrics and events -/

/-- The loop over the rows of one table: `values` builds the parameters of a
row outside of the handler, and an error of sqlite3 skips the row. -/
def insertRows (table : TableName) (columns : List String)
    (values : PyValue → Except PyError (List PyValue)) :
    Connection Store → List PyValue → Connection Store × Except PyError ℕ
  | connection, [] => (connection, .ok 0)
  | connection, row :: rows =>
    match values row with
    | .error error => (connection, .error error)
    | .ok parameters =>
      match insert connection table columns parameters with
      | .ok next =>
        let rest := insertRows table columns values next rows
        (rest.1, rest.2.map (· + 1))
      | .error .sqlite => insertRows table columns values connection rows
      | .error error => (connection, .error error)

def snapshotColumns (table : MetricTable) : List String :=
  ["timestamp", "session_id"] ++ table.columns

/-- The parameters of one row of a snapshot. -/
def snapshotValues (table : MetricTable) (timestamp sessionId row : PyValue) :
    Except PyError (List PyValue) := do
  let values ← table.columns.mapM fun column => row.get column .none
  return [timestamp, sessionId] ++ values

/-- The loop over the tables of a snapshot; an unknown table is skipped. -/
def insertTables (timestamp sessionId : PyValue) :
    Connection Store → List (String × List PyValue) → Connection Store × Except PyError ℕ
  | connection, [] => (connection, .ok 0)
  | connection, (name, rows) :: snapshot =>
    match MetricTable.ofName? name with
    | none => insertTables timestamp sessionId connection snapshot
    | some table =>
      let inserted := insertRows (.metric table) (snapshotColumns table)
        (snapshotValues table timestamp sessionId) connection rows
      match inserted.2 with
      | .error error => (inserted.1, .error error)
      | .ok count =>
        let rest := insertTables timestamp sessionId inserted.1 snapshot
        (rest.1, rest.2.map (count + ·))

def insertSnapshot (connection : Connection Store) (snapshot : List (String × List PyValue))
    (timestamp sessionId : PyValue) : Connection Store × Except PyError ℕ :=
  committed (insertTables timestamp sessionId connection snapshot)

/-- `str` of a value that is not a text and `json.dumps`, which may raise. -/
structure Rendering where
  str : PyValue → Option PyStr
  dumps : PyValue → Option PyStr

/-- What a rendering answers, or its exception. -/
def rendered (answer : Option PyStr) : Except PyError PyValue :=
  match answer with
  | some text => .ok (.str text)
  | none => .error .other

/-- `_clip`. -/
def clip (rendering : Rendering) (value : PyValue) (limit : ℕ) : Except PyError PyValue :=
  match value with
  | .none => .ok .none
  | .str text => .ok (.str (text.take limit))
  | value => rendered ((rendering.str value).map (·.take limit))

def eventColumns : List String :=
  ["timestamp", "session_id", "provider", "event_id", "level", "channel", "record_id", "message",
    "computer", "process_id", "thread_id"]

/-- The parameters of one event. -/
def eventValues (rendering : Rendering) (sessionId row : PyValue) :
    Except PyError (List PyValue) := do
  let timestamp ← row.get "timestamp" .none
  let head ← ["provider", "event_id", "level", "channel", "record_id"].mapM (row.get · .none)
  let message ← clip rendering (← row.get "message" .none) 4000
  let tail ← ["computer", "process_id", "thread_id"].mapM (row.get · .none)
  return [timestamp, sessionId] ++ head ++ [message] ++ tail

def insertEvents (rendering : Rendering) (connection : Connection Store) (rows : List PyValue)
    (sessionId : PyValue) : Connection Store × Except PyError ℕ :=
  committed (insertRows .events eventColumns (eventValues rendering sessionId) connection rows)

/-! ## Sessions -/

def createSession (connection : Connection Store) (bootTime createdAt : PyValue) :
    Connection Store × Except PyError ℕ :=
  match insert connection .sessions ["boot_time", "created_at"] [bootTime, createdAt] with
  | .ok next => committed (next, .ok (lastRowId next .sessions))
  | .error error => (connection, .error error)

/-- The columns `update_session` may set. -/
def sessionColumns : List String :=
  ["previous_boot_time", "uptime_before_boot", "previous_session_clean", "unexpected_shutdown",
    "kernel_power_detected", "bugcheck_detected"]

/-- `UPDATE sessions SET … WHERE session_id = ?`. -/
def setColumns (store : Store) (sessionId : ℤ) (cells : Row) : Store :=
  { store with
    rows := Function.update store.rows .sessions
      ((store.rows .sessions).update sessionId.toNat fun row =>
        cells ++ row.filter fun column => column.1 ∉ cells.map Prod.fst) }

def updateSession (connection : Connection Store) (sessionId : ℤ)
    (fields : List (String × PyValue)) : Connection Store × Except PyError Unit :=
  let sets := fields.filter fun field => field.1 ∈ sessionColumns
  if sets = [] then (connection, .ok ())
  else
    match bindRow (sets.map Prod.fst ++ ["session_id"]) []
        (sets.map Prod.snd ++ [.int sessionId]) with
    | .ok cells =>
      committed ({ connection with
        working := setColumns connection.working sessionId cells.dropLast }, .ok ())
    | .error error => (connection, .error error)

/-! ## Incidents -/

def incidentColumns : List String :=
  ["detected_at", "incident_type", "confidence", "previous_session_id", "last_metric_timestamp",
    "reboot_timestamp", "duration_estimate", "findings", "evidence"]

/-- The parameters of an incident. -/
def incidentValues (rendering : Rendering) (incident : PyValue) :
    Except PyError (List PyValue) := do
  let plain ← ["detected_at", "incident_type", "confidence", "previous_session_id",
    "last_metric_timestamp", "reboot_timestamp", "duration_estimate"].mapM (incident.get · .none)
  let findings ← rendered (rendering.dumps (← incident.get "findings" (.list [])))
  let evidence ← rendered (rendering.dumps (← incident.get "evidence" (.list [])))
  return plain ++ [findings, evidence]

/-- The columns of a finding besides the id of its incident. -/
def findingColumns : List String :=
  ["finding_type", "severity", "confidence", "evidence", "timestamp", "explanation"]

/-- The parameters of a finding for these columns. -/
def findingValues (rendering : Rendering) (finding : PyValue) : Except PyError (List PyValue) := do
  let head ← ["type", "severity", "confidence"].mapM (finding.get · .none)
  let evidence ← rendered (rendering.dumps (← finding.get "evidence" (.list [])))
  let tail ← ["timestamp", "explanation"].mapM (finding.get · .none)
  return head ++ [evidence] ++ tail

/-- The columns that are bound for a finding. -/
def findingRow (rendering : Rendering) (finding : PyValue) : Except PyError Row := do
  bindRow findingColumns TableName.findings.notNull (← findingValues rendering finding)

/-- A finding belongs to an incident; the id comes from SQLite, so it binds. -/
def addFinding (store : Store) (incidentId : ℕ) (row : Row) : Store :=
  addRow store .findings (("incident_id", .integer incidentId) :: row)

/-- The loop over the findings of an incident, without a handler. -/
def insertFindings (rendering : Rendering) (incidentId : ℕ) :
    Connection Store → List PyValue → Connection Store × Except PyError Unit
  | connection, [] => (connection, .ok ())
  | connection, finding :: findings =>
    match findingRow rendering finding with
    | .error error => (connection, .error error)
    | .ok row =>
      insertFindings rendering incidentId
        { connection with working := addFinding connection.working incidentId row } findings

def createIncident (rendering : Rendering) (connection : Connection Store) (incident : PyValue)
    (findings : List PyValue) : Connection Store × Except PyError ℕ :=
  match incidentValues rendering incident with
  | .error error => (connection, .error error)
  | .ok values =>
    match insert connection .incidents incidentColumns values with
    | .error error => (connection, .error error)
    | .ok next =>
      let incidentId := lastRowId next .incidents
      let inserted := insertFindings rendering incidentId next findings
      committed (inserted.1, inserted.2.map fun _ => incidentId)

/-! ## Heartbeat and state -/

def updateHeartbeat (connection : Connection Store) (timestamp : PyValue) :
    Connection Store × Except PyError Unit :=
  match bindRow ["timestamp", "updated_at"] ["timestamp", "updated_at"] [timestamp, timestamp] with
  | .ok row =>
    committed ({ connection with working := { connection.working with heartbeat := some row } },
      .ok ())
  | .error error => (connection, .error error)

/-- `now` is the clock that the operation reads. -/
def setState (connection : Connection Store) (key : PyStr) (value now : PyValue) :
    Connection Store × Except PyError Unit :=
  match bindRow ["key", "value", "updated_at"] ["updated_at"] [.str key, value, now] with
  | .ok row =>
    let agentState := Function.update connection.working.agentState key (some row)
    committed ({ connection with working := { connection.working with agentState } }, .ok ())
  | .error error => (connection, .error error)

end Connection

end PcDiagnosticAgent
