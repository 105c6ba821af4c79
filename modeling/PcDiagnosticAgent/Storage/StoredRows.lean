import PcDiagnosticAgent.Library.RelatedTables
import PcDiagnosticAgent.Storage.Database
import PcDiagnosticAgent.Storage.FailedWrite
import PcDiagnosticAgent.Storage.TextColumns

/-!
# The rows behind the database

Everything above the storage is proved about typed rows (`Database`). On disk
there are cells. A cell, or a value that binds, means a datum; a stored row reads
as a typed row when each of its columns means what the typed row has there, and a
store represents a database when all of its rows do (`Represents`).

Values that mean the data of a row are bound to cells that read as it
(`bindRow_reads`), and each change of the store is the change of the typed rows.
-/

set_option autoImplicit false

namespace PcDiagnosticAgent

open AutoTables Transactions

/-! ## Data -/

/-- What a cell means, whatever its storage class. -/
inductive Datum where
  | null
  | number (value : ℚ)
  | text (value : PyStr)
deriving DecidableEq

namespace Datum

def ofNumber : Option ℚ → Datum
  | none => .null
  | some value => .number value

def ofInteger (value : Option ℤ) : Datum := ofNumber (value.map fun value => (value : ℚ))

def ofText : Option String → Datum
  | none => .null
  | some value => .text (PyStr.ofString value)

def ofSql : SqlValue → Datum
  | .null => .null
  | .number value => .number value
  | .text value => .text (PyStr.ofString value)

end Datum

/-- An infinite number and a blob are no data of the typed rows. -/
def Cell.datum : Cell → Option Datum
  | .null => some .null
  | .integer value => some (.number value)
  | .real (.finite value) => some (.number value)
  | .real _ => none
  | .text value => some (.text value)
  | .blob _ => none

/-- What a value means when it binds. -/
def PyValue.datum : PyValue → Option Datum
  | .none => some .null
  | .bool value => some (.number (if value then 1 else 0))
  | .int value => if -2 ^ 63 ≤ value ∧ value < 2 ^ 63 then some (.number value) else Option.none
  | .float (.finite value) => some (.number value)
  | .float .nan => some .null
  | .str value => if value.encodable then some (.text value) else Option.none
  | _ => Option.none

/-- A value that means something binds to a cell that means the same. -/
theorem PyValue.bind_datum {value : PyValue} {datum : Datum} (means : value.datum = some datum) :
    ∃ cell, Connection.bind value = .ok cell ∧ cell.datum = some datum := by
  cases value with
  | none => exact ⟨.null, rfl, means⟩
  | bool flag =>
    refine ⟨_, rfl, ?_⟩
    rw [← means]
    cases flag <;> simp [Cell.datum, PyValue.datum]
  | int number =>
    rw [PyValue.datum] at means
    split at means
    · rename_i small
      exact ⟨.integer number, by rw [Connection.bind, if_pos small], means⟩
    · cases means
  | float number =>
    cases number with
    | finite value => exact ⟨.real (.finite value), rfl, means⟩
    | infinite negative => cases means
    | nan => exact ⟨.null, rfl, means⟩
  | str text =>
    rw [PyValue.datum] at means
    split at means
    · rename_i encodable
      exact ⟨.text text, by rw [Connection.bind, if_pos encodable], means⟩
    · cases means
  | bytes value => cases means
  | list items => cases means
  | dict items => cases means
  | other => cases means

theorem Cell.eq_null_of_datum {cell : Cell} (means : cell.datum = some .null) : cell = .null := by
  cases cell with
  | null => rfl
  | integer value => cases means
  | real number => cases number <;> cases means
  | text value => cases means
  | blob value => cases means

/-- Every column of the row means its datum. -/
def Reads (row : Row) (data : String → Datum) : Prop :=
  ∀ column, ((row.lookup column).getD .null).datum = some (data column)

/-- Column names with data; the other columns are null. -/
def dataOf (columns : List (String × Datum)) (column : String) : Datum :=
  (columns.lookup column).getD .null

namespace Connection

/-! ## Binding rows -/

/-- The values say the data of the columns. -/
def Means (columns : List String) (values : List PyValue) (data : String → Datum) : Prop :=
  List.Forall₂ (fun column value => value.datum = some (data column)) columns values

variable {columns notNull : List String} {values : List PyValue} {data : String → Datum}

theorem Means.bind (means : Means columns values data) :
    ∃ cells, values.mapM bind = .ok cells ∧
      List.Forall₂ (fun column (cell : Cell) => cell.datum = some (data column)) columns cells := by
  induction means with
  | nil => exact ⟨[], rfl, .nil⟩
  | cons first _ ih =>
    obtain ⟨cell, bound, same⟩ := PyValue.bind_datum first
    obtain ⟨cells, rest, all⟩ := ih
    refine ⟨cell :: cells, ?_, .cons same all⟩
    rw [List.mapM_cons, bound, ok_bind, rest]
    rfl

theorem lookup_zip {cells : List Cell}
    (all : List.Forall₂ (fun column (cell : Cell) => cell.datum = some (data column)) columns
      cells) (column : String) :
    (column ∈ columns ∧ ∃ cell, (columns.zip cells).lookup column = some cell ∧
        cell.datum = some (data column)) ∨
      (column ∉ columns ∧ (columns.zip cells).lookup column = none) := by
  induction all with
  | nil => exact .inr ⟨List.not_mem_nil, rfl⟩
  | @cons name cell columns cells first _ ih =>
    rw [List.zip_cons_cons, List.lookup_cons]
    by_cases same : column = name
    · subst same
      exact .inl ⟨List.mem_cons_self, cell, by simp, first⟩
    · have differ : (column == name) = false := beq_false_of_ne same
      rw [differ]
      rcases ih with ⟨member, found⟩ | ⟨absent, none⟩
      · exact .inl ⟨List.mem_cons_of_mem _ member, found⟩
      · exact .inr ⟨fun member => (List.mem_cons.mp member).elim same absent, none⟩

/-- **A row whose values say its data is bound to cells that read as them.** -/
theorem bindRow_reads (means : Means columns values data)
    (others : ∀ column, column ∉ columns → data column = .null)
    (required : ∀ column ∈ notNull, column ∈ columns → data column ≠ .null) :
    ∃ row, bindRow columns notNull values = .ok row ∧ Reads row data ∧
      row.map Prod.fst = columns := by
  obtain ⟨cells, bound, all⟩ := means.bind
  refine ⟨columns.zip cells, ?_, fun column => ?_, List.map_fst_zip all.length_eq.le⟩
  · have filled : (notNull.any fun column =>
        decide ((columns.zip cells).lookup column = some .null)) = false := by
      rw [List.any_eq_false]
      intro column member null
      rcases lookup_zip all column with ⟨inside, cell, found, means⟩ | ⟨-, absent⟩
      · rw [of_decide_eq_true null, Option.some.injEq] at found
        subst found
        exact required column member inside (Option.some.inj means).symm
      · rw [of_decide_eq_true null] at absent
        cases absent
    rw [bindRow, bound, ok_bind]
    simp only [filled]
    rfl
  · rcases lookup_zip all column with ⟨-, cell, found, means⟩ | ⟨absent, none⟩
    · rw [found]
      exact means
    · rw [none, others column absent]
      rfl

/-! ## Typed rows as data -/

def sessionData (row : SessionRow) : String → Datum :=
  dataOf [("boot_time", .number row.bootTime),
    ("previous_boot_time", .ofNumber row.previousBootTime),
    ("uptime_before_boot", .ofNumber row.uptimeBeforeBoot),
    ("previous_session_clean", .ofInteger row.previousSessionClean),
    ("unexpected_shutdown", .ofInteger row.unexpectedShutdown),
    ("kernel_power_detected", .ofInteger row.kernelPowerDetected),
    ("bugcheck_detected", .ofInteger row.bugcheckDetected),
    ("created_at", .number row.createdAt)]

def eventData (row : EventRow) : String → Datum :=
  dataOf [("timestamp", .number row.timestamp), ("session_id", .number row.sessionId),
    ("provider", .ofText row.provider), ("event_id", .ofInteger row.eventId),
    ("level", .ofInteger row.level), ("channel", .ofText row.channel),
    ("record_id", .ofInteger row.recordId), ("message", .ofText row.message),
    ("computer", .ofText row.computer)]

def incidentData (row : IncidentRow) : String → Datum :=
  dataOf [("detected_at", .number row.detectedAt),
    ("incident_type", .ofText (row.incidentType.map incidentTypeText)),
    ("confidence", .ofText (row.confidence.map levelText)),
    ("previous_session_id", .ofInteger (row.previousSessionId.map fun id => (id : ℤ))),
    ("last_metric_timestamp", .ofNumber row.lastMetricTimestamp),
    ("reboot_timestamp", .ofNumber row.rebootTimestamp),
    ("duration_estimate", .ofNumber row.durationEstimate),
    ("findings", .text (jsonColumn (row.findings.map findingTypeText))),
    ("evidence", .text (jsonColumn row.evidence))]

def findingData (row : FindingRow) : String → Datum :=
  dataOf [("incident_id", .number row.incidentId),
    ("finding_type", .ofText (findingTypeText row.type)),
    ("severity", .ofText (levelText row.severity)),
    ("confidence", .ofText (levelText row.confidence)),
    ("evidence", .text (jsonColumn row.evidence)), ("timestamp", .ofNumber row.timestamp),
    ("explanation", .ofText row.explanation)]

def metricData (row : MetricRow) : String → Datum :=
  dataOf (("timestamp", .number row.timestamp) :: ("session_id", .number row.sessionId) ::
    row.values.map fun value => (value.1, .ofSql value.2))

def heartbeatData (timestamp : Epoch) : String → Datum :=
  dataOf [("timestamp", .number timestamp), ("updated_at", .number timestamp)]

/-- The rows of the store read as those of the database. `stateText` is the text of
a value of the agent state. -/
structure Represents (stateText : StateValue → PyStr) (store : Store) (db : Database) : Prop where
  sessions : (store.rows .sessions).Related (fun row typed => Reads row (sessionData typed))
    db.sessions
  events : (store.rows .events).Related (fun row typed => Reads row (eventData typed)) db.events
  incidents : (store.rows .incidents).Related (fun row typed => Reads row (incidentData typed))
    db.incidents
  findings : (store.rows .findings).Related (fun row typed => Reads row (findingData typed))
    db.findings
  metrics : ∀ table, List.Forall₂ (fun row typed => Reads row (metricData typed))
    (store.rows (.metric table)).rows (db.metrics table)
  heartbeat : Option.Rel (fun row time => Reads row (heartbeatData time)) store.heartbeat
    db.heartbeat
  agentState : ∀ key, Option.Rel (fun row value =>
    ((row.lookup "value").getD .null).datum = some (.text (stateText value)))
    (store.agentState (PyStr.ofString key)) (db.agentState key)

theorem Represents.empty (stateText : StateValue → PyStr) :
    Represents stateText emptyStore .empty where
  sessions := .empty
  events := .empty
  incidents := .empty
  findings := .empty
  metrics _ := .nil
  heartbeat := .none
  agentState _ := .none

/-! ## What a change does to the database -/

section Changes

variable {stateText : StateValue → PyStr} {store : Store} {db : Database}

theorem Represents.addSession (represents : Represents stateText store db) {row : Row}
    {typed : SessionRow} (reads : Reads row (sessionData typed)) :
    Represents stateText (addRow store .sessions row)
      { db with sessions := db.sessions.insert typed } where
  sessions := represents.sessions.insert reads
  events := represents.events
  incidents := represents.incidents
  findings := represents.findings
  metrics := represents.metrics
  heartbeat := represents.heartbeat
  agentState := represents.agentState

theorem Represents.addEvents (represents : Represents stateText store db) {rows : List Row}
    {typed : List EventRow}
    (reads : List.Forall₂ (fun row typed => Reads row (eventData typed)) rows typed) :
    Represents stateText ((rows.map (Change.row .events)).foldl Change.apply store)
      { db with events := db.events.insertAll typed } := by
  induction reads generalizing store db with
  | nil => exact represents
  | @cons row typed rows rest first _ ih =>
    have added : Represents stateText (addRow store .events row)
        { db with events := db.events.insert typed } :=
      { sessions := represents.sessions
        events := represents.events.insert first
        incidents := represents.incidents
        findings := represents.findings
        metrics := represents.metrics
        heartbeat := represents.heartbeat
        agentState := represents.agentState }
    exact ih added

theorem Represents.addMetrics (represents : Represents stateText store db) {table : MetricTable}
    {rows : List Row} {typed : List MetricRow}
    (reads : List.Forall₂ (fun row typed => Reads row (metricData typed)) rows typed) :
    Represents stateText ((rows.map (Change.row (.metric table))).foldl Change.apply store)
      (db.addMetrics table typed) := by
  induction reads generalizing store db with
  | nil =>
    have same : db.addMetrics table [] = db := by
      simp [Database.addMetrics]
    rw [same]
    exact represents
  | @cons row typed rows rest first _ ih =>
    have added : Represents stateText (addRow store (.metric table) row)
        (db.addMetrics table [typed]) :=
      { sessions := represents.sessions
        events := represents.events
        incidents := represents.incidents
        findings := represents.findings
        metrics := fun other => by
          by_cases same : other = table
          · subst same
            simp only [addRow, Database.addMetrics, Function.update_self, AutoTable.rows_insert]
            exact List.rel_append (represents.metrics other) (.cons first .nil)
          · have named : TableName.metric other ≠ .metric table :=
              fun equal => same (TableName.metric.inj equal)
            simp only [addRow, Database.addMetrics, Function.update_of_ne same,
              Function.update_of_ne named]
            exact represents.metrics other
        heartbeat := represents.heartbeat
        agentState := represents.agentState }
    have joined : (db.addMetrics table [typed]).addMetrics table rest =
        db.addMetrics table (typed :: rest) := by
      simp [Database.addMetrics]
    rw [← joined]
    exact ih added

theorem Represents.addIncident (represents : Represents stateText store db) {row : Row}
    {typed : IncidentRow} (reads : Reads row (incidentData typed)) :
    Represents stateText (addRow store .incidents row)
      { db with incidents := db.incidents.insert typed } where
  sessions := represents.sessions
  events := represents.events
  incidents := represents.incidents.insert reads
  findings := represents.findings
  metrics := represents.metrics
  heartbeat := represents.heartbeat
  agentState := represents.agentState

/-- The columns of a finding besides the id of its incident. -/
def bareFindingData (finding : Finding) (column : String) : Datum :=
  if column = "incident_id" then .null else findingData { finding with incidentId := 0 } column

theorem Reads.finding {cells : Row} {finding : Finding}
    (reads : Reads cells (bareFindingData finding)) (incidentId : ℕ) :
    Reads (("incident_id", .integer incidentId) :: cells)
      (findingData { finding with incidentId }) := by
  intro column
  by_cases same : column = "incident_id"
  · subst same
    simp [findingData, dataOf, Cell.datum]
  · have differ : (column == "incident_id") = false := beq_false_of_ne same
    have bare := reads column
    rw [bareFindingData, if_neg same] at bare
    rw [List.lookup_cons, differ]
    refine bare.trans (congrArg some ?_)
    simp only [findingData, dataOf, List.lookup_cons, differ]

theorem Represents.addFindings (represents : Represents stateText store db) {rows : List Row}
    {typed : List Finding}
    (reads : List.Forall₂ (fun cells finding => Reads cells (bareFindingData finding)) rows typed) :
    Represents stateText ((rows.map Change.finding).foldl Change.apply store)
      { db with findings := db.findings.insertAll (typed.map fun finding =>
        { finding with incidentId := db.incidents.seq }) } := by
  induction reads generalizing store db with
  | nil => exact represents
  | @cons cells finding rows rest first _ ih =>
    have added : Represents stateText (Change.apply store (.finding cells))
        { db with findings := db.findings.insert ⟨finding, db.incidents.seq⟩ } :=
      { sessions := represents.sessions
        events := represents.events
        incidents := represents.incidents
        findings := by
          have reads := Reads.finding first (store.rows .incidents).seq
          rw [← represents.incidents.seq]
          exact represents.findings.insert reads
        metrics := represents.metrics
        heartbeat := represents.heartbeat
        agentState := represents.agentState }
    exact ih added

/-! ## The columns of a session -/

theorem lookup_filter {row : Row} {column : String} {keeps : String × Cell → Bool}
    (kept : ∀ cell, keeps (column, cell) = true) :
    (row.filter keeps).lookup column = row.lookup column := by
  induction row with
  | nil => rfl
  | cons entry row ih =>
    obtain ⟨name, cell⟩ := entry
    by_cases same : column = name
    · subst same
      rw [List.filter_cons_of_pos (kept cell), List.lookup_cons, List.lookup_cons]
      simp
    · have differ : (column == name) = false := beq_false_of_ne same
      by_cases keep : keeps (name, cell) = true
      · rw [List.filter_cons_of_pos keep, List.lookup_cons, List.lookup_cons, differ, ih]
      · rw [List.filter_cons_of_neg keep, List.lookup_cons, differ, ih]

/-- What an update gives a column. -/
def updateValue (fields : SessionUpdate) (column : String) : Option ℚ :=
  (([("previous_boot_time", fields.previousBootTime),
    ("uptime_before_boot", fields.uptimeBeforeBoot),
    ("previous_session_clean", fields.previousSessionClean.map fun value => (value : ℚ)),
    ("unexpected_shutdown", fields.unexpectedShutdown.map fun value => (value : ℚ)),
    ("kernel_power_detected", fields.kernelPowerDetected.map fun value => (value : ℚ)),
    ("bugcheck_detected", fields.bugcheckDetected.map fun value => (value : ℚ))] :
      List (String × Option ℚ)).lookup column).join

theorem updateValue_of_notMem {fields : SessionUpdate} {column : String}
    (other : column ∉ sessionColumns) : updateValue fields column = none := by
  simp only [sessionColumns, List.mem_cons, List.not_mem_nil, or_false, not_or] at other
  obtain ⟨first, second, third, fourth, fifth, sixth⟩ := other
  simp [updateValue, List.lookup_cons, beq_false_of_ne first, beq_false_of_ne second,
    beq_false_of_ne third, beq_false_of_ne fourth, beq_false_of_ne fifth, beq_false_of_ne sixth]

/-- An update changes the columns that it names. -/
theorem sessionData_apply (fields : SessionUpdate) (row : SessionRow) (column : String) :
    sessionData (fields.apply row) column =
      ((updateValue fields column).map Datum.number).getD (sessionData row column) := by
  by_cases named : column ∈ sessionColumns
  · have number : ∀ value stored : Option ℚ, Datum.ofNumber (value.or stored) =
        (value.map Datum.number).getD (Datum.ofNumber stored) := by
      intro value stored
      cases value <;> rfl
    have integer : ∀ value stored : Option ℤ, Datum.ofInteger (value.or stored) =
        ((value.map fun value => (value : ℚ)).map Datum.number).getD
          (Datum.ofInteger stored) := by
      intro value stored
      cases value <;> rfl
    simp only [sessionColumns, List.mem_cons, List.not_mem_nil, or_false] at named
    rcases named with rfl | rfl | rfl | rfl | rfl | rfl
    · exact number ..
    · exact number ..
    · exact integer ..
    · exact integer ..
    · exact integer ..
    · exact integer ..
  · rw [updateValue_of_notMem named]
    simp only [sessionColumns, List.mem_cons, List.not_mem_nil, or_false, not_or] at named
    obtain ⟨first, second, third, fourth, fifth, sixth⟩ := named
    simp [sessionData, dataOf, List.lookup_cons, SessionUpdate.apply, beq_false_of_ne first,
      beq_false_of_ne second, beq_false_of_ne third, beq_false_of_ne fourth,
      beq_false_of_ne fifth, beq_false_of_ne sixth]

/-- What the cells of an update read as. -/
def Updates (cells : Row) (fields : SessionUpdate) : Prop :=
  ∀ column, match updateValue fields column with
    | none => cells.lookup column = none
    | some number => ∃ cell, cells.lookup column = some cell ∧ cell.datum = some (.number number)

theorem Reads.updated {row cells : Row} {typed : SessionRow} {fields : SessionUpdate}
    (reads : Reads row (sessionData typed)) (updates : Updates cells fields) :
    Reads (cells ++ row.filter fun column => column.1 ∉ cells.map Prod.fst)
      (sessionData (fields.apply typed)) := by
  intro column
  rw [sessionData_apply, List.lookup_append]
  have update := updates column
  cases value : updateValue fields column with
  | none =>
    rw [value] at update
    have absent : column ∉ cells.map Prod.fst := by
      intro member
      obtain ⟨entry, inside, rfl⟩ := List.mem_map.mp member
      have differs := List.lookup_eq_none_iff.mp update entry inside
      simp at differs
    rw [update, Option.none_or, lookup_filter fun cell => decide_eq_true absent]
    exact reads column
  | some number =>
    rw [value] at update
    obtain ⟨cell, found, means⟩ := update
    rw [found, Option.some_or, Option.getD_some]
    exact means

theorem Represents.updateSession (represents : Represents stateText store db) (sessionId : ℕ)
    {cells : Row} {fields : SessionUpdate} (updates : Updates cells fields) :
    Represents stateText (setColumns store sessionId cells)
      { db with sessions := db.sessions.update sessionId fields.apply } where
  sessions := represents.sessions.update sessionId fun _ _ reads => Reads.updated reads updates
  events := represents.events
  incidents := represents.incidents
  findings := represents.findings
  metrics := represents.metrics
  heartbeat := represents.heartbeat
  agentState := represents.agentState

end Changes

end Connection

end PcDiagnosticAgent
