import PcDiagnosticAgent.Storage.Connection

/-!
# A failed write

Each write operation of the database is a list of statements that it attempts in
order, with a commit at the end. Which of them store a row, which are skipped
and which raise depends on the arguments alone (`Write.script`), and running the
operation is performing them (`Write.run_eq`).

An operation of one statement is therefore stored whole or not at all. A
snapshot, a list of events or an incident with its findings is not: the rows
before the one that raises stay in the open transaction, and the commit of the
next operation stores them (`failed_write_iff`).
-/

set_option autoImplicit false

namespace PcDiagnosticAgent

open AutoTables Transactions

namespace Connection

/-! ## Attempts -/

/-- What a statement changes. -/
inductive Change where
  | row (table : TableName) (row : Row)
  | finding (row : Row)
  | session (sessionId : ℤ) (cells : Row)
  | heartbeat (row : Row)
  | state (key : PyStr) (row : Row)

/-- A finding belongs to the newest incident. -/
def Change.apply (store : Store) : Change → Store
  | .row table cells => addRow store table cells
  | .finding cells => addFinding store (store.rows .incidents).seq cells
  | .session sessionId cells => setColumns store sessionId cells
  | .heartbeat cells => { store with heartbeat := some cells }
  | .state key cells =>
    { store with agentState := Function.update store.agentState key (some cells) }

/-- A statement whose error nobody handles. -/
def attempt (row : Except PyError Row) (change : Row → Change) : Attempt Change :=
  match row with
  | .ok row => .stores (change row)
  | .error _ => .raises

/-- One turn of the loop over rows: only an error of sqlite3 is handled. -/
def rowAttempt (table : TableName) (columns : List String)
    (values : Except PyError (List PyValue)) : Attempt Change :=
  match values with
  | .error _ => .raises
  | .ok values =>
    match bindRow columns table.notNull values with
    | .ok row => .stores (.row table row)
    | .error .sqlite => .skips
    | .error _ => .raises

def snapshotAttempts (timestamp sessionId : PyValue) (snapshot : List (String × List PyValue)) :
    List (Attempt Change) :=
  snapshot.flatMap fun entry =>
    match MetricTable.ofName? entry.1 with
    | none => []
    | some table => entry.2.map fun row =>
      rowAttempt (.metric table) (snapshotColumns table)
        (snapshotValues table timestamp sessionId row)

def eventAttempts (rendering : Rendering) (sessionId : PyValue) (rows : List PyValue) :
    List (Attempt Change) :=
  rows.map fun row => rowAttempt .events eventColumns (eventValues rendering sessionId row)

def findingAttempt (rendering : Rendering) (finding : PyValue) : Attempt Change :=
  attempt (findingRow rendering finding) .finding

def incidentAttempts (rendering : Rendering) (incident : PyValue) (findings : List PyValue) :
    List (Attempt Change) :=
  attempt (incidentValues rendering incident >>=
      bindRow incidentColumns TableName.incidents.notNull) (.row .incidents) ::
    findings.map (findingAttempt rendering)

theorem stores_of_attempt {bound : Except PyError Row} {change : Row → Change} {stored : Change}
    (stores : attempt bound change = .stores stored) : ∃ row, stored = change row := by
  cases bound with
  | ok row => exact ⟨row, (Attempt.stores.inj stores).symm⟩
  | error error => cases stores

theorem stores_of_rowAttempt {table : TableName} {columns : List String}
    {values : Except PyError (List PyValue)} {stored : Change}
    (stores : rowAttempt table columns values = .stores stored) :
    ∃ parameters row, values = .ok parameters ∧
      bindRow columns table.notNull parameters = .ok row ∧ stored = .row table row := by
  cases values with
  | error error => cases stores
  | ok parameters =>
    simp only [rowAttempt] at stores
    cases bound : bindRow columns table.notNull parameters with
    | ok row =>
      rw [bound] at stores
      exact ⟨parameters, row, rfl, bound, (Attempt.stores.inj stores).symm⟩
    | error error =>
      rw [bound] at stores
      cases error <;> cases stores

/-! ## Operations -/

/-- The write operations with their arguments. -/
inductive Write where
  | insertSnapshot (snapshot : List (String × List PyValue)) (timestamp sessionId : PyValue)
  | insertEvents (rows : List PyValue) (sessionId : PyValue)
  | createSession (bootTime createdAt : PyValue)
  | updateSession (sessionId : ℤ) (fields : List (String × PyValue))
  | createIncident (incident : PyValue) (findings : List PyValue)
  | updateHeartbeat (timestamp : PyValue)
  | setState (key : PyStr) (value now : PyValue)

/-- An error left the operation. -/
def raised {Result : Type} : Except PyError Result → Bool
  | .ok _ => false
  | .error _ => true

/-- The connection after an operation, and whether the operation raised. -/
def Write.run (rendering : Rendering) (connection : Connection Store) :
    Write → Connection Store × Bool
  | .insertSnapshot snapshot timestamp sessionId =>
    let done := Connection.insertSnapshot connection snapshot timestamp sessionId
    (done.1, raised done.2)
  | .insertEvents rows sessionId =>
    let done := Connection.insertEvents rendering connection rows sessionId
    (done.1, raised done.2)
  | .createSession bootTime createdAt =>
    let done := Connection.createSession connection bootTime createdAt
    (done.1, raised done.2)
  | .updateSession sessionId fields =>
    let done := Connection.updateSession connection sessionId fields
    (done.1, raised done.2)
  | .createIncident incident findings =>
    let done := Connection.createIncident rendering connection incident findings
    (done.1, raised done.2)
  | .updateHeartbeat timestamp =>
    let done := Connection.updateHeartbeat connection timestamp
    (done.1, raised done.2)
  | .setState key value now =>
    let done := Connection.setState connection key value now
    (done.1, raised done.2)

/-- The statements of an operation, as its arguments decide them, and whether
there is a commit after them. -/
def Write.script (rendering : Rendering) : Write → Operation Change
  | .insertSnapshot snapshot timestamp sessionId =>
    ⟨snapshotAttempts timestamp sessionId snapshot, true⟩
  | .insertEvents rows sessionId => ⟨eventAttempts rendering sessionId rows, true⟩
  | .createSession bootTime createdAt =>
    ⟨[attempt (bindRow ["boot_time", "created_at"] TableName.sessions.notNull
      [bootTime, createdAt]) (.row .sessions)], true⟩
  | .updateSession sessionId fields =>
    let sets := fields.filter fun field => field.1 ∈ sessionColumns
    -- without a column there is neither a statement nor a commit
    if sets = [] then ⟨[], false⟩
    else ⟨[attempt (bindRow (sets.map Prod.fst ++ ["session_id"]) []
      (sets.map Prod.snd ++ [.int sessionId])) fun cells => .session sessionId cells.dropLast],
        true⟩
  | .createIncident incident findings => ⟨incidentAttempts rendering incident findings, true⟩
  | .updateHeartbeat timestamp =>
    ⟨[attempt (bindRow ["timestamp", "updated_at"] ["timestamp", "updated_at"]
      [timestamp, timestamp]) .heartbeat], true⟩
  | .setState key value now =>
    ⟨[attempt (bindRow ["key", "value", "updated_at"] ["updated_at"] [.str key, value, now])
      (.state key)], true⟩

/-! ## The scripts are what the operations do -/

/-- A loop performed its attempts, without a commit. -/
structure Performs (attempts : List (Attempt Change)) (connection : Connection Store)
    {Result : Type} (done : Connection Store × Except PyError Result) : Prop where
  connection : done.1 = { connection with
    working := (stored attempts).foldl Change.apply connection.working }
  raised : raised done.2 = fails attempts

section Performs

variable {attempts : List (Attempt Change)} {connection : Connection Store} {Result : Type}
  {done : Connection Store × Except PyError Result}

/-- The commit at the end makes an operation of performed attempts. -/
theorem Performs.committed (performs : Performs attempts connection done) :
    (committed done).1 = Operation.run Change.apply connection ⟨attempts, true⟩ ∧
      Connection.raised (Connection.committed done).2 = fails attempts := by
  obtain ⟨after, answer⟩ := done
  obtain ⟨same, failed⟩ := performs
  cases answer with
  | ok result =>
    have completed : fails attempts = false := failed.symm
    refine ⟨?_, failed⟩
    rw [show after = _ from same]
    simp only [Connection.committed, Connection.commit, Operation.run, Operation.completes,
      completed]
    rfl
  | error error =>
    have broken : fails attempts = true := failed.symm
    refine ⟨?_, failed⟩
    simp only [Connection.committed, Operation.run, Operation.completes, broken, same]
    rfl

end Performs

theorem raised_map {First Second : Type} (answer : Except PyError First)
    (change : First → Second) : raised (answer.map change) = raised answer := by
  cases answer <;> rfl

/-- What an `INSERT` does when its parameters bind, and when they do not. -/
theorem insert_eq (connection : Connection Store) (table : TableName) (columns : List String)
    (values : List PyValue) : insert connection table columns values =
      (bindRow columns table.notNull values).map fun row =>
        { connection with working := addRow connection.working table row } := by
  rw [insert]
  cases bindRow columns table.notNull values <;> rfl

theorem performs_insertRows (table : TableName) (columns : List String)
    (values : PyValue → Except PyError (List PyValue)) (rows : List PyValue)
    (connection : Connection Store) :
    Performs (rows.map fun row => rowAttempt table columns (values row)) connection
      (insertRows table columns values connection rows) := by
  induction rows generalizing connection with
  | nil => exact ⟨rfl, rfl⟩
  | cons row rows ih =>
    rw [List.map_cons, insertRows]
    cases values row with
    | error error => exact ⟨rfl, rfl⟩
    | ok parameters =>
      simp only [insert_eq, rowAttempt]
      cases bindRow columns table.notNull parameters with
      | ok cells =>
        have rest := ih { connection with working := addRow connection.working table cells }
        exact ⟨rest.connection, (raised_map _ _).trans rest.raised⟩
      | error error =>
        cases error with
        | sqlite => exact ⟨(ih connection).connection, (ih connection).raised⟩
        | os => exact ⟨rfl, rfl⟩
        | yaml => exact ⟨rfl, rfl⟩
        | other => exact ⟨rfl, rfl⟩

theorem performs_insertTables (timestamp sessionId : PyValue)
    (snapshot : List (String × List PyValue)) (connection : Connection Store) :
    Performs (snapshotAttempts timestamp sessionId snapshot) connection
      (insertTables timestamp sessionId connection snapshot) := by
  induction snapshot generalizing connection with
  | nil => exact ⟨rfl, rfl⟩
  | cons entry snapshot ih =>
    obtain ⟨name, rows⟩ := entry
    rw [snapshotAttempts, List.flatMap_cons, insertTables]
    cases MetricTable.ofName? name with
    | none => exact ih connection
    | some table =>
      have here := performs_insertRows (.metric table) (snapshotColumns table)
        (snapshotValues table timestamp sessionId) rows connection
      simp only
      generalize insertRows (.metric table) (snapshotColumns table)
        (snapshotValues table timestamp sessionId) connection rows = done at here ⊢
      obtain ⟨after, answer⟩ := done
      obtain ⟨reached, failed⟩ := here
      cases answer with
      | error error =>
        refine ⟨?_, ?_⟩
        · rw [stored_append_of_fails failed.symm]
          exact reached
        · rw [fails_append, ← failed]
          rfl
      | ok count =>
        obtain ⟨onward, outcome⟩ := ih after
        refine ⟨?_, ?_⟩
        · rw [stored_append failed.symm, List.foldl_append]
          rw [show after = _ from reached] at onward ⊢
          exact onward
        · rw [fails_append, ← failed]
          exact (raised_map _ _).trans outcome

/-- The findings of an incident are stored under the id of the newest one. -/
theorem performs_insertFindings (rendering : Rendering) (findings : List PyValue)
    (connection : Connection Store) {incidentId : ℕ}
    (newest : incidentId = lastRowId connection .incidents) :
    Performs (findings.map (findingAttempt rendering)) connection
      (insertFindings rendering incidentId connection findings) := by
  induction findings generalizing connection with
  | nil => exact ⟨rfl, rfl⟩
  | cons finding findings ih =>
    rw [List.map_cons, insertFindings, findingAttempt]
    cases findingRow rendering finding with
    | error error => exact ⟨rfl, rfl⟩
    | ok cells =>
      obtain ⟨onward, outcome⟩ :=
        ih { connection with working := addFinding connection.working incidentId cells } newest
      subst newest
      exact ⟨onward, outcome⟩

theorem performs_createIncident (rendering : Rendering) (connection : Connection Store)
    (incident : PyValue) (findings : List PyValue) :
    (createIncident rendering connection incident findings).1 =
        Operation.run Change.apply connection
          ⟨incidentAttempts rendering incident findings, true⟩ ∧
      raised (createIncident rendering connection incident findings).2 =
        fails (incidentAttempts rendering incident findings) := by
  rw [createIncident, incidentAttempts]
  cases incidentValues rendering incident with
  | error error => exact ⟨rfl, rfl⟩
  | ok values =>
    rw [ok_bind]
    simp only [insert_eq]
    cases bindRow incidentColumns TableName.incidents.notNull values with
    | error error => exact ⟨rfl, rfl⟩
    | ok cells =>
      have inserted := performs_insertFindings rendering findings
        { connection with working := addRow connection.working .incidents cells } rfl
      have performs : Performs (.stores (.row .incidents cells) ::
          findings.map (findingAttempt rendering)) connection
          ((insertFindings rendering _ _ findings).1,
            (insertFindings rendering _ _ findings).2.map fun _ =>
              (lastRowId { connection with
                working := addRow connection.working .incidents cells } .incidents)) :=
        ⟨inserted.connection, (raised_map _ _).trans inserted.raised⟩
      exact performs.committed

/-- **Running an operation is performing its script.** -/
theorem Write.run_eq (rendering : Rendering) (connection : Connection Store) (op : Write) :
    (op.run rendering connection).1 = (op.script rendering).run Change.apply connection ∧
      (op.run rendering connection).2 = fails (op.script rendering).attempts := by
  cases op with
  | insertSnapshot snapshot timestamp sessionId =>
    exact (performs_insertTables timestamp sessionId snapshot connection).committed
  | insertEvents rows sessionId =>
    exact (performs_insertRows .events eventColumns (eventValues rendering sessionId) rows
      connection).committed
  | createSession bootTime createdAt =>
    simp only [run, script, Connection.createSession, insert_eq]
    cases bindRow ["boot_time", "created_at"] TableName.sessions.notNull
      [bootTime, createdAt] with
    | error error => exact ⟨rfl, rfl⟩
    | ok cells => exact ⟨rfl, rfl⟩
  | updateSession sessionId fields =>
    simp only [run, script, Connection.updateSession]
    split
    · exact ⟨rfl, rfl⟩
    · generalize bindRow _ [] _ = bound
      cases bound with
      | error error => exact ⟨rfl, rfl⟩
      | ok cells => exact ⟨rfl, rfl⟩
  | createIncident incident findings =>
    exact performs_createIncident rendering connection incident findings
  | updateHeartbeat timestamp =>
    simp only [run, script, Connection.updateHeartbeat]
    cases bindRow ["timestamp", "updated_at"] ["timestamp", "updated_at"]
      [timestamp, timestamp] with
    | error error => exact ⟨rfl, rfl⟩
    | ok cells => exact ⟨rfl, rfl⟩
  | setState key value now =>
    simp only [run, script, Connection.setState]
    cases bindRow ["key", "value", "updated_at"] ["updated_at"] [.str key, value, now] with
    | error error => exact ⟨rfl, rfl⟩
    | ok cells => exact ⟨rfl, rfl⟩

/-! ## What is stored of a failed operation -/

/-- The table that a change adds a row to. -/
def Change.table? : Change → Option TableName
  | .row table _ => some table
  | .finding _ => some .findings
  | .session _ _ => none
  | .heartbeat _ => none
  | .state _ _ => none

/-- The rows that a change adds to one table. -/
def Change.gain (table : TableName) (change : Change) : ℕ :=
  if change.table? = some table then 1 else 0

theorem seq_addRow (store : Store) (added table : TableName) (row : Row) :
    ((addRow store added row).rows table).seq =
      (store.rows table).seq + if added = table then 1 else 0 := by
  by_cases same : added = table
  · subst same
    simp [addRow, AutoTable.insert]
  · simp [addRow, same, Function.update_of_ne (Ne.symm same)]

/-- The ids of a table count the rows that were ever added to it. -/
theorem Change.seq_apply (table : TableName) (store : Store) (change : Change) :
    ((change.apply store).rows table).seq = (store.rows table).seq + change.gain table := by
  cases change with
  | row added cells => simpa [apply, gain, table?] using seq_addRow store added table cells
  | finding cells =>
    simpa [apply, addFinding, gain, table?] using seq_addRow store .findings table
      (("incident_id", .integer (store.rows .incidents).seq) :: cells)
  | session sessionId cells =>
    by_cases same : table = .sessions
    · subst same
      simp [apply, setColumns, gain, table?]
    · simp [apply, setColumns, gain, table?, same]
  | heartbeat cells => rfl
  | state key cells => rfl

/-- The change of an attempt adds a row. -/
def AddsRow : Attempt Change → Prop
  | .stores change => change.table?.isSome
  | .skips => True
  | .raises => True

theorem stored_addRows {attempts : List (Attempt Change)}
    (rows : ∀ attempt ∈ attempts, AddsRow attempt) :
    ∀ change ∈ stored attempts, change.table?.isSome := by
  induction attempts with
  | nil => simp [stored]
  | cons attempt rest ih =>
    have later := ih fun other member => rows other (List.mem_cons_of_mem _ member)
    have first := rows attempt List.mem_cons_self
    cases attempt with
    | stores change => exact List.forall_mem_cons.mpr ⟨first, later⟩
    | skips => exact later
    | raises => simp [stored]

theorem rowAttempt_addsRow (table : TableName) (columns : List String)
    (values : Except PyError (List PyValue)) : AddsRow (rowAttempt table columns values) := by
  unfold rowAttempt
  split
  · trivial
  · split
    · rfl
    · trivial
    · trivial

theorem attempt_addsRow {row : Except PyError Row} {change : Row → Change}
    (adds : ∀ cells, (change cells).table?.isSome) : AddsRow (attempt row change) := by
  cases row with
  | ok cells => exact adds cells
  | error error => trivial

/-- An operation of one statement that raises stored nothing. -/
theorem stored_of_single {attempt : Attempt Change} (failed : fails [attempt] = true) :
    stored [attempt] = [] := by
  cases attempt with
  | stores change => cases failed
  | skips => rfl
  | raises => rfl

/-- What is stored before an operation raises are rows. -/
theorem Write.stored_rows (rendering : Rendering) {op : Write}
    (failed : fails (op.script rendering).attempts = true) :
    ∀ change ∈ stored (op.script rendering).attempts, change.table?.isSome := by
  cases op with
  | insertSnapshot snapshot timestamp sessionId =>
    refine stored_addRows fun attempt member => ?_
    obtain ⟨entry, -, tried⟩ := List.mem_flatMap.mp member
    split at tried
    · cases tried
    · obtain ⟨row, -, rfl⟩ := List.mem_map.mp tried
      exact rowAttempt_addsRow ..
  | insertEvents rows sessionId =>
    refine stored_addRows fun attempt member => ?_
    obtain ⟨row, -, rfl⟩ := List.mem_map.mp member
    exact rowAttempt_addsRow ..
  | createIncident incident findings =>
    refine stored_addRows fun attempt member => ?_
    rcases List.mem_cons.mp member with rfl | found
    · exact attempt_addsRow fun _ => rfl
    · obtain ⟨finding, -, rfl⟩ := List.mem_map.mp found
      exact attempt_addsRow fun _ => rfl
  | updateSession sessionId fields =>
    simp only [script] at failed ⊢
    split at failed
    · cases failed
    · rename_i some
      rw [if_neg some, stored_of_single failed]
      simp
  | createSession bootTime createdAt => simp [script, stored_of_single failed]
  | updateHeartbeat timestamp => simp [script, stored_of_single failed]
  | setState key value now => simp [script, stored_of_single failed]

/-! ## The result -/

/-- Every row that would be stored comes after one that raises. -/
def Write.NothingStored (rendering : Rendering) (op : Write) : Prop :=
  ∀ done change rest, (op.script rendering).attempts = done ++ .stores change :: rest →
    fails done = true

/-- The arguments take the operation to its commit. -/
def Write.Commits (rendering : Rendering) (op : Write) : Prop :=
  (op.script rendering).completes = true

/-- Run operations in order; an operation that raises does not stop the next. -/
def runWrites (rendering : Rendering) (connection : Connection Store) (ops : List Write) :
    Connection Store :=
  Runs.run (fun connection op => (op.run rendering connection).1) connection ops

theorem runWrites_eq (rendering : Rendering) (connection : Connection Store) (ops : List Write) :
    runWrites rendering connection ops =
      runAll Change.apply connection (ops.map (Write.script rendering)) := by
  induction ops generalizing connection with
  | nil => rfl
  | cons op ops ih =>
    refine (ih (op.run rendering connection).1).trans ?_
    rw [(op.run_eq rendering connection).1]
    rfl

/-- **A write that raised leaves no trace on disk exactly when it stored no row
before it raised, or no later operation commits.** -/
theorem failed_write_iff (rendering : Rendering) (connection : Connection Store) (op : Write)
    (later : List Write) (failed : (op.run rendering connection).2 = true) :
    (runWrites rendering (op.run rendering connection).1 later).disk =
        (runWrites rendering connection later).disk ↔
      op.NothingStored rendering ∨ ∀ other ∈ later, ¬ other.Commits rendering := by
  have raised := (op.run_eq rendering connection).2.symm.trans failed
  rw [runWrites_eq, runWrites_eq, (op.run_eq rendering connection).1, Write.NothingStored,
    ← stored_eq_nil_iff]
  have rows := op.stored_rows rendering raised
  -- the rows of the table that the first stored change adds to are counted
  have counted : ∃ table, stored (op.script rendering).attempts ≠ [] →
      ∃ change ∈ stored (op.script rendering).attempts, 0 < change.gain table := by
    cases changes : stored (op.script rendering).attempts with
    | nil => exact ⟨.events, fun some => absurd rfl some⟩
    | cons change rest =>
      rw [changes] at rows
      obtain ⟨table, named⟩ := Option.isSome_iff_exists.mp (rows change List.mem_cons_self)
      exact ⟨table, fun _ => ⟨change, List.mem_cons_self, by simp [Change.gain, named]⟩⟩
  obtain ⟨table, counts⟩ := counted
  have unseen := @failed_unseen_iff _ _ Change.apply (fun store => (store.rows table).seq)
    (Change.gain table) (Change.seq_apply table) _ raised counts connection
    (later.map (Write.script rendering))
  simpa [Write.Commits] using unseen

/-! ## Two snapshots -/

def emptyStore : Store where
  rows := fun _ => .empty
  heartbeat := none
  agentState := fun _ => none

/-- A rendering for operations that render nothing. -/
def noRendering : Rendering := ⟨fun _ => none, fun _ => none⟩

/-- A CPU row, and a process row with the given memory size. -/
def cpuAndProcess (memory : ℤ) : List (String × List PyValue) :=
  [("metrics_cpu", [.ofItems [("cpu_percent", .float (.finite 12))]]),
    ("metrics_process", [.ofItems [("memory_bytes", .int memory)]])]

/-- A snapshot whose first row is no dictionary leaves nothing behind. -/
theorem failed_write_first_row :
    let op : Write := .insertSnapshot (("metrics_uptime", [.int 5]) :: cpuAndProcess 4096)
      (.float (.finite 1000)) (.int 1)
    let later : List Write := [.updateHeartbeat (.float (.finite 1000))]
    let opened : Connection Store := ⟨emptyStore, emptyStore⟩
    (runWrites noRendering (op.run noRendering opened).1 later).disk =
      (runWrites noRendering opened later).disk := by
  intro op later opened
  refine (failed_write_iff noRendering opened op later rfl).mpr (.inl ?_)
  rintro (_ | ⟨first, done⟩) change rest split
  · cases split
  · obtain ⟨rfl, -⟩ := List.cons.inj split
    rfl

/-- A process whose memory size does not fit in 64 bits: the snapshot raises,
and the next heartbeat stores its CPU row. -/
theorem failed_write_half_stored :
    let op : Write := .insertSnapshot (cpuAndProcess (2 ^ 64)) (.float (.finite 1000)) (.int 1)
    let later : List Write := [.updateHeartbeat (.float (.finite 1000))]
    let opened : Connection Store := ⟨emptyStore, emptyStore⟩
    (op.run noRendering opened).2 = true ∧
      (runWrites noRendering (op.run noRendering opened).1 later).disk ≠
        (runWrites noRendering opened later).disk := by
  intro op later opened
  refine ⟨by decide +kernel, fun same => ?_⟩
  have rows := congrArg (fun store : Store => (store.rows (.metric .cpu)).seq) same
  revert rows
  decide +kernel

end Connection

end PcDiagnosticAgent
