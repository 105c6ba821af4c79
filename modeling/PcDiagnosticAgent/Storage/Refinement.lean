import PcDiagnosticAgent.Storage.StoredRows

/-!
# The writes behind the database

In the typed database every write succeeds. The connection gets the same writes
with arbitrary Python values, binds them cell by cell and may raise. A write whose
arguments mean those of a typed write (`Carries`) raises nothing and commits, and
the store represents the database after the typed write. So a connection and a
database that start alike stay alike over every run (`run_represents`).
-/

set_option autoImplicit false

namespace PcDiagnosticAgent

open AutoTables Transactions

namespace Connection

variable {columns notNull : List String} {values : List PyValue} {data : String → Datum}

/-! ## Arguments -/

/-- The keys of a dictionary give the data; an absent key gives nothing. -/
def Gives (given : PyValue) (columns : List String) (data : String → Datum) : Prop :=
  ∀ column ∈ columns,
    (given.get column .none).toOption.bind PyValue.datum = some (data column)

instance (given : PyValue) (columns : List String) (data : String → Datum) :
    Decidable (Gives given columns data) :=
  inferInstanceAs (Decidable (∀ column ∈ columns, _ = _))

theorem Gives.value {given : PyValue} (gives : Gives given columns data) {column : String}
    (member : column ∈ columns) :
    ∃ value, given.get column .none = .ok value ∧ value.datum = some (data column) := by
  have found := gives column member
  cases answer : given.get column .none with
  | ok value =>
    rw [answer] at found
    exact ⟨value, rfl, found⟩
  | error error =>
    rw [answer] at found
    cases found

theorem Gives.mapM {given : PyValue} (gives : Gives given columns data) :
    ∃ values, columns.mapM (fun column => given.get column .none) = .ok values ∧
      Means columns values data := by
  induction columns with
  | nil => exact ⟨[], rfl, .nil⟩
  | cons column columns ih =>
    obtain ⟨value, found, means⟩ := gives.value List.mem_cons_self
    have later : Gives given columns data :=
      fun other member => gives other (List.mem_cons_of_mem _ member)
    obtain ⟨values, rest, all⟩ := ih later
    refine ⟨value :: values, ?_, .cons means all⟩
    rw [List.mapM_cons, found, ok_bind, rest]
    rfl

theorem Means.append {more : List String} {others : List PyValue}
    (first : Means columns values data) (second : Means more others data) :
    Means (columns ++ more) (values ++ others) data := List.rel_append first second

/-- Data that agree on the columns are meant alike. -/
theorem Means.congr {other : String → Datum} (means : Means columns values data)
    (same : ∀ column ∈ columns, other column = data column) : Means columns values other := by
  induction means with
  | nil => exact .nil
  | cons first _ ih =>
    refine .cons (first.trans (congrArg some (same _ List.mem_cons_self).symm)) ?_
    exact ih fun column member => same column (List.mem_cons_of_mem _ member)

theorem dataOf_of_notMem {given : List (String × Datum)} {column : String}
    (other : column ∉ given.map Prod.fst) : dataOf given column = .null := by
  have absent : given.lookup column = none := by
    refine List.lookup_eq_none_iff.mpr fun entry member => ?_
    exact bne_iff_ne.mpr fun same => other (same ▸ List.mem_map_of_mem member)
  rw [dataOf, absent]
  rfl

@[simp] theorem datum_text (text : String) :
    (PyValue.text text).datum = some (.text (PyStr.ofString text)) := by
  rw [PyValue.text, PyValue.datum, if_pos (PyStr.encodable_ofString text)]

/-! ## Rows from their arguments -/

/-- A row of a snapshot for a table. -/
def RowMeans (table : MetricTable) (given : PyValue) (typed : SnapshotRow) : Prop :=
  Gives given table.columns fun column => .ofSql ((typed.lookup column).getD .null)

theorem metricData_snapshotRow (table : MetricTable) (timestamp : Epoch) (sessionId : ℕ)
    (typed : SnapshotRow) {column : String} (member : column ∈ table.columns) :
    metricData (Database.snapshotRow table timestamp sessionId typed) column =
      .ofSql ((typed.lookup column).getD .null) := by
  have apart : ∀ table : MetricTable, "timestamp" ∉ table.columns ∧
      "session_id" ∉ table.columns := by
    intro table
    cases table <;> decide
  have notTime : (column == "timestamp") = false :=
    beq_false_of_ne fun same => (apart table).1 (same ▸ member)
  have notSession : (column == "session_id") = false :=
    beq_false_of_ne fun same => (apart table).2 (same ▸ member)
  have found : ∀ columns : List String, column ∈ columns →
      (columns.map fun name => (name, Datum.ofSql ((typed.lookup name).getD .null))).lookup
        column = some (.ofSql ((typed.lookup column).getD .null)) := by
    intro columns inside
    induction columns with
    | nil => cases inside
    | cons name columns ih =>
      rw [List.map_cons, List.lookup_cons]
      by_cases same : column = name
      · subst same
        simp
      · rw [beq_false_of_ne same]
        exact ih ((List.mem_cons.mp inside).resolve_left same)
  have listed := found table.columns member
  simp only [metricData, dataOf, Database.snapshotRow, List.lookup_cons, notTime, notSession,
    List.map_map, Function.comp_def]
  rw [listed, Option.getD_some]

theorem metricData_of_notMem (table : MetricTable) (timestamp : Epoch) (sessionId : ℕ)
    (typed : SnapshotRow) {column : String} (other : column ∉ snapshotColumns table) :
    metricData (Database.snapshotRow table timestamp sessionId typed) column = .null := by
  refine dataOf_of_notMem fun member => other ?_
  simpa [snapshotColumns, Database.snapshotRow] using member

/-- A row of a snapshot is stored. -/
theorem rowAttempt_snapshot {table : MetricTable} {timestamp sessionId given : PyValue}
    {time : Epoch} {session : ℕ} {typed : SnapshotRow}
    (timeMeans : timestamp.datum = some (.number time))
    (sessionMeans : sessionId.datum = some (.number session)) (means : RowMeans table given typed) :
    ∃ row, rowAttempt (.metric table) (snapshotColumns table)
        (snapshotValues table timestamp sessionId given) = .stores (.row (.metric table) row) ∧
      Reads row (metricData (Database.snapshotRow table time session typed)) := by
  obtain ⟨values, listed, all⟩ := Gives.mapM means
  have built : snapshotValues table timestamp sessionId given =
      .ok ([timestamp, sessionId] ++ values) := by
    rw [snapshotValues, listed]
    rfl
  have rest : Means table.columns values
      (metricData (Database.snapshotRow table time session typed)) :=
    all.congr fun column member => metricData_snapshotRow table time session typed member
  have first : Means ["timestamp", "session_id"] [timestamp, sessionId]
      (metricData (Database.snapshotRow table time session typed)) :=
    .cons timeMeans (.cons sessionMeans .nil)
  have required : ∀ column ∈ TableName.notNull (.metric table), column ∈ snapshotColumns table →
      metricData (Database.snapshotRow table time session typed) column ≠ .null := by
    intro column member _ null
    rw [List.mem_singleton.mp member] at null
    cases null
  obtain ⟨row, bound, reads, -⟩ := bindRow_reads (first.append rest)
    (fun column other => metricData_of_notMem table time session typed other) required
  refine ⟨row, ?_, reads⟩
  rw [built, rowAttempt]
  simp only [snapshotColumns, bound]

/-- An event; its process and thread ids are not given. -/
structure EventMeans (given : PyValue) (event : Event) : Prop where
  columns : Gives given ["timestamp", "provider", "event_id", "level", "channel", "record_id",
    "computer", "process_id", "thread_id"] (eventData ⟨event, 0⟩)
  message : given.get "message" .none = .ok (event.message.elim .none PyValue.text)

theorem clip_text (rendering : Rendering) (message : Option String) (limit : ℕ) :
    ∃ value, clip rendering (message.elim .none PyValue.text) limit = .ok value ∧
      value.datum = some (.ofText (Database.clip message limit)) := by
  cases message with
  | none => exact ⟨.none, rfl, rfl⟩
  | some text =>
    have taken : PyStr.ofString (String.ofList (text.toList.take limit)) =
        (PyStr.ofString text).take limit := by
      rw [PyStr.ofString, PyStr.ofString, String.toList_ofList, List.map_take]
    refine ⟨.str ((PyStr.ofString text).take limit), rfl, ?_⟩
    rw [← taken]
    exact datum_text _

theorem eventData_eventRow (event : Event) (sessionId : ℕ) {column : String}
    (member : column ∈ ["timestamp", "provider", "event_id", "level", "channel", "record_id",
      "computer", "process_id", "thread_id"]) :
    eventData (Database.eventRow sessionId event) column = eventData ⟨event, 0⟩ column := by
  simp only [List.mem_cons, List.not_mem_nil, or_false] at member
  rcases member with rfl | rfl | rfl | rfl | rfl | rfl | rfl | rfl | rfl <;> rfl

/-- A row of events is stored. -/
theorem rowAttempt_event (rendering : Rendering) {sessionId given : PyValue} {session : ℕ}
    {event : Event} (sessionMeans : sessionId.datum = some (.number session))
    (means : EventMeans given event) :
    ∃ row, rowAttempt .events eventColumns (eventValues rendering sessionId given) =
        .stores (.row .events row) ∧
      Reads row (eventData (Database.eventRow session event)) := by
  have gives : ∀ columns : List String, columns ⊆ ["timestamp", "provider", "event_id", "level",
      "channel", "record_id", "computer", "process_id", "thread_id"] →
      Gives given columns (eventData (Database.eventRow session event)) := by
    intro columns within column member
    rw [eventData_eventRow event session (within member)]
    exact means.columns column (within member)
  obtain ⟨timestamp, timeGiven, timeMeans⟩ :=
    (gives ["timestamp"] (by simp)).value (List.mem_singleton_self _)
  obtain ⟨head, headGiven, headMeans⟩ :=
    (gives ["provider", "event_id", "level", "channel", "record_id"] (by simp)).mapM
  obtain ⟨message, clipped, messageMeans⟩ := clip_text rendering event.message 4000
  obtain ⟨tail, tailGiven, tailMeans⟩ :=
    (gives ["computer", "process_id", "thread_id"] (by simp)).mapM
  have built : eventValues rendering sessionId given =
      .ok ([timestamp, sessionId] ++ head ++ [message] ++ tail) := by
    rw [eventValues, timeGiven, ok_bind, headGiven, ok_bind, means.message, ok_bind, clipped,
      ok_bind, tailGiven]
    rfl
  have all : Means eventColumns ([timestamp, sessionId] ++ head ++ [message] ++ tail)
      (eventData (Database.eventRow session event)) := by
    have first : Means ["timestamp", "session_id"] [timestamp, sessionId]
        (eventData (Database.eventRow session event)) :=
      .cons timeMeans (.cons sessionMeans .nil)
    have middle : Means ["message"] [message] (eventData (Database.eventRow session event)) :=
      .cons messageMeans .nil
    exact ((first.append headMeans).append middle).append tailMeans
  have others : ∀ column, column ∉ eventColumns →
      eventData (Database.eventRow session event) column = .null := by
    intro column other
    refine dataOf_of_notMem fun member => other ?_
    have within : ["timestamp", "session_id", "provider", "event_id", "level", "channel",
        "record_id", "message", "computer"] ⊆ eventColumns := by decide
    exact within member
  have required : ∀ column ∈ TableName.notNull .events, column ∈ eventColumns →
      eventData (Database.eventRow session event) column ≠ .null := by
    intro column member _ null
    rw [List.mem_singleton.mp member] at null
    cases null
  obtain ⟨row, bound, reads, -⟩ := bindRow_reads all others required
  refine ⟨row, ?_, reads⟩
  rw [built, rowAttempt]
  simp only [bound]

/-! ## Incidents -/

/-- `json.dumps` of a list of texts. -/
def DumpsTexts (rendering : Rendering) : Prop :=
  ∀ texts : List String, rendering.dumps (.list (texts.map PyValue.text)) = some (jsonColumn texts)

theorem DumpsTexts.rendered {rendering : Rendering} (dumps : DumpsTexts rendering)
    (texts : List String) : rendered (rendering.dumps (.list (texts.map PyValue.text))) =
      .ok (.str (jsonColumn texts)) := by
  rw [dumps texts]
  rfl

theorem datum_jsonColumn (texts : List String) :
    (PyValue.str (jsonColumn texts)).datum = some (.text (jsonColumn texts)) := by
  rw [PyValue.datum, if_pos (encodable_jsonColumn texts)]

structure IncidentMeans (given : PyValue) (incident : Incident) : Prop where
  columns : Gives given ["detected_at", "incident_type", "confidence", "previous_session_id",
    "last_metric_timestamp", "reboot_timestamp", "duration_estimate"]
    (incidentData (Database.incidentRow incident))
  findings : given.get "findings" (.list []) =
    .ok (.list ((incident.findings.map findingTypeText).map PyValue.text))
  evidence : given.get "evidence" (.list []) = .ok (.list (incident.evidence.map PyValue.text))

theorem bindRow_incident {rendering : Rendering} (dumps : DumpsTexts rendering) {given : PyValue}
    {incident : Incident} (means : IncidentMeans given incident) :
    ∃ row, (incidentValues rendering given >>=
        bindRow incidentColumns TableName.incidents.notNull) = .ok row ∧
      Reads row (incidentData (Database.incidentRow incident)) := by
  obtain ⟨plain, plainGiven, plainMeans⟩ := means.columns.mapM
  have built : incidentValues rendering given = .ok (plain ++
      [.str (jsonColumn (incident.findings.map findingTypeText)),
        .str (jsonColumn incident.evidence)]) := by
    rw [incidentValues, plainGiven, ok_bind, means.findings, ok_bind, dumps.rendered, ok_bind,
      means.evidence, ok_bind, dumps.rendered]
    rfl
  have lists : Means ["findings", "evidence"]
      [.str (jsonColumn (incident.findings.map findingTypeText)),
        .str (jsonColumn incident.evidence)] (incidentData (Database.incidentRow incident)) :=
    .cons (datum_jsonColumn _) (.cons (datum_jsonColumn _) .nil)
  have others : ∀ column, column ∉ incidentColumns →
      incidentData (Database.incidentRow incident) column = .null :=
    fun column other => dataOf_of_notMem other
  have required : ∀ column ∈ TableName.notNull .incidents, column ∈ incidentColumns →
      incidentData (Database.incidentRow incident) column ≠ .null := by
    intro column member _ null
    rw [List.mem_singleton.mp member] at null
    cases null
  obtain ⟨row, bound, reads, -⟩ := bindRow_reads (plainMeans.append lists) others required
  exact ⟨row, by rw [built, ok_bind]; exact bound, reads⟩

structure FindingMeans (given : PyValue) (finding : Finding) : Prop where
  type : given.get "type" .none = .ok (.text (findingTypeText finding.type))
  columns : Gives given ["severity", "confidence", "timestamp", "explanation"]
    (bareFindingData finding)
  evidence : given.get "evidence" (.list []) = .ok (.list (finding.evidence.map PyValue.text))

theorem findingRow_reads {rendering : Rendering} (dumps : DumpsTexts rendering) {given : PyValue}
    {finding : Finding} (means : FindingMeans given finding) :
    ∃ row, findingRow rendering given = .ok row ∧ Reads row (bareFindingData finding) := by
  have gives : ∀ columns : List String,
      columns ⊆ ["severity", "confidence", "timestamp", "explanation"] →
      Gives given columns (bareFindingData finding) :=
    fun columns within column member => means.columns column (within member)
  obtain ⟨grades, gradesGiven, gradesMean⟩ := (gives ["severity", "confidence"] (by simp)).mapM
  obtain ⟨tail, tailGiven, tailMeans⟩ := (gives ["timestamp", "explanation"] (by simp)).mapM
  have built : findingValues rendering given =
      .ok (PyValue.text (findingTypeText finding.type) :: grades ++
        [.str (jsonColumn finding.evidence)] ++ tail) := by
    rw [findingValues, List.mapM_cons, means.type, ok_bind, gradesGiven, ok_bind, pure_bind,
      means.evidence, ok_bind, dumps.rendered, ok_bind, tailGiven]
    rfl
  have all : Means findingColumns (PyValue.text (findingTypeText finding.type) :: grades ++
      [.str (jsonColumn finding.evidence)] ++ tail) (bareFindingData finding) := by
    have first : Means ["finding_type"] [PyValue.text (findingTypeText finding.type)]
        (bareFindingData finding) := .cons (datum_text _) .nil
    have middle : Means ["evidence"] [.str (jsonColumn finding.evidence)]
        (bareFindingData finding) := .cons (datum_jsonColumn _) .nil
    exact ((first.append gradesMean).append middle).append tailMeans
  have others : ∀ column, column ∉ findingColumns → bareFindingData finding column = .null := by
    intro column other
    by_cases own : column = "incident_id"
    · rw [bareFindingData, if_pos own]
    · rw [bareFindingData, if_neg own]
      refine dataOf_of_notMem fun member => ?_
      rcases List.mem_cons.mp member with same | later
      · exact own same
      · exact other later
  obtain ⟨row, bound, reads, -⟩ := bindRow_reads all others
    fun column member => absurd member List.not_mem_nil
  exact ⟨row, by rw [findingRow, built, ok_bind]; exact bound, reads⟩

/-- Keyword arguments for an update. -/
structure UpdateMeans (fields : List (String × PyValue)) (typed : SessionUpdate) : Prop where
  names : (fields.map Prod.fst).Nodup
  given : ∀ column ∈ sessionColumns, match updateValue typed column with
    | none => column ∉ fields.map Prod.fst
    | some number => ∃ value, (column, value) ∈ fields ∧ value.datum = some (.number number)

/-! ## Writes -/

/-- The write operations of the typed database. -/
inductive TypedWrite where
  | insertSnapshot (snapshot : Snapshot) (timestamp : Epoch) (sessionId : ℕ)
  | insertEvents (rows : List Event) (sessionId : ℕ)
  | createSession (bootTime createdAt : Epoch)
  | updateSession (sessionId : ℕ) (fields : SessionUpdate)
  | createIncident (incident : Incident) (findings : List Finding)
  | updateHeartbeat (timestamp : Epoch)
  | setState (key : String) (value : StateValue)

def TypedWrite.apply (db : Database) : TypedWrite → Database
  | .insertSnapshot snapshot timestamp sessionId => db.insertSnapshot snapshot timestamp sessionId
  | .insertEvents rows sessionId => db.insertEvents rows sessionId
  | .createSession bootTime createdAt => (db.createSession bootTime createdAt).1
  | .updateSession sessionId fields => db.updateSession sessionId fields
  | .createIncident incident findings => (db.createIncident incident findings).1
  | .updateHeartbeat timestamp => db.updateHeartbeat timestamp
  | .setState key value => db.setState key value

/-- The arguments of a write mean those of a typed write. A table that the database
does not know may get anything. -/
inductive Carries (stateText : StateValue → PyStr) : Write → TypedWrite → Prop
  | insertSnapshot {snapshot : List (String × List PyValue)} {typed : Snapshot}
      {timestamp sessionId : PyValue} {time : Epoch} {session : ℕ}
      (rows : List.Forall₂ (fun given meant => given.1 = meant.1 ∧
        ∀ table ∈ MetricTable.ofName? given.1, List.Forall₂ (RowMeans table) given.2 meant.2)
        snapshot typed)
      (timeMeans : timestamp.datum = some (.number time))
      (sessionMeans : sessionId.datum = some (.number session)) :
      Carries stateText (.insertSnapshot snapshot timestamp sessionId)
        (.insertSnapshot typed time session)
  | insertEvents {rows : List PyValue} {typed : List Event} {sessionId : PyValue} {session : ℕ}
      (events : List.Forall₂ EventMeans rows typed)
      (sessionMeans : sessionId.datum = some (.number session)) :
      Carries stateText (.insertEvents rows sessionId) (.insertEvents typed session)
  | createSession {bootTime createdAt : PyValue} {boot created : Epoch}
      (bootMeans : bootTime.datum = some (.number boot))
      (createdMeans : createdAt.datum = some (.number created)) :
      Carries stateText (.createSession bootTime createdAt) (.createSession boot created)
  -- the ids of SQLite are within 64 bits, and keyword arguments have different names
  | updateSession {sessionId : ℕ} {fields : List (String × PyValue)} {typed : SessionUpdate}
      (small : sessionId < 2 ^ 63) (means : UpdateMeans fields typed) :
      Carries stateText (.updateSession sessionId fields) (.updateSession sessionId typed)
  | createIncident {incident : PyValue} {typed : Incident} {findings : List PyValue}
      {typedFindings : List Finding} (incidentMeans : IncidentMeans incident typed)
      (findingsMean : List.Forall₂ FindingMeans findings typedFindings) :
      Carries stateText (.createIncident incident findings) (.createIncident typed typedFindings)
  | updateHeartbeat {timestamp : PyValue} {time : Epoch}
      (timeMeans : timestamp.datum = some (.number time)) :
      Carries stateText (.updateHeartbeat timestamp) (.updateHeartbeat time)
  | setState {key : String} {value now : PyValue} {typed : StateValue} {clock : Epoch}
      (valueMeans : value.datum = some (.text (stateText typed)))
      (nowMeans : now.datum = some (.number clock)) :
      Carries stateText (.setState (PyStr.ofString key) value now) (.setState key typed)

/-- The script stores the changes and nothing else happens. -/
structure Performed (stateText : StateValue → PyStr) (script : Operation Change) (store : Store)
    (db : Database) : Prop where
  changes : ∃ changes : List Change, script.attempts = changes.map Attempt.stores ∧
    Represents stateText (changes.foldl Change.apply store) db
  commits : script.commits = false → script.attempts = []

variable {stateText : StateValue → PyStr} {store : Store} {db : Database} {rendering : Rendering}

/-- Related lists of arguments give related lists of rows. -/
theorem exists_rows {Given Typed : Type} {means : Given → Typed → Prop}
    {tried : Given → Attempt Change} {change : Row → Change} {reads : Row → Typed → Prop}
    {given : List Given} {typed : List Typed} (all : List.Forall₂ means given typed)
    (each : ∀ first second, means first second →
      ∃ row, tried first = .stores (change row) ∧ reads row second) :
    ∃ rows, given.map tried = (rows.map change).map Attempt.stores ∧
      List.Forall₂ reads rows typed := by
  induction all with
  | nil => exact ⟨[], rfl, .nil⟩
  | cons first _ ih =>
    obtain ⟨row, stores, reading⟩ := each _ _ first
    obtain ⟨rows, rest, readings⟩ := ih
    exact ⟨row :: rows, by simp [stores, rest], .cons reading readings⟩

theorem performed_insertSnapshot (represents : Represents stateText store db)
    {snapshot : List (String × List PyValue)} {typed : Snapshot} {timestamp sessionId : PyValue}
    {time : Epoch} {session : ℕ}
    (rows : List.Forall₂ (fun given meant => given.1 = meant.1 ∧
      ∀ table ∈ MetricTable.ofName? given.1, List.Forall₂ (RowMeans table) given.2 meant.2)
      snapshot typed)
    (timeMeans : timestamp.datum = some (.number time))
    (sessionMeans : sessionId.datum = some (.number session)) :
    ∃ changes : List Change,
      snapshotAttempts timestamp sessionId snapshot = changes.map Attempt.stores ∧
      Represents stateText (changes.foldl Change.apply store)
        (db.insertSnapshot typed time session) := by
  induction rows generalizing store db with
  | nil => exact ⟨[], rfl, represents⟩
  | @cons given meant snapshot typed first _ ih =>
    obtain ⟨name, given⟩ := given
    obtain ⟨other, meant⟩ := meant
    obtain ⟨rfl, means⟩ := first
    have fold : db.insertSnapshot ((name, meant) :: typed) time session =
        (Database.insertTable time session db (name, meant)).insertSnapshot typed time session :=
      rfl
    rw [fold, snapshotAttempts, List.flatMap_cons, Database.insertTable]
    cases named : MetricTable.ofName? name with
    | none =>
      simp only
      exact ih represents
    | some table =>
      obtain ⟨stored, attempts, reads⟩ := exists_rows (means table named)
        fun _ _ rowMeans => rowAttempt_snapshot timeMeans sessionMeans rowMeans
      have added : Represents stateText
          ((stored.map (Change.row (.metric table))).foldl Change.apply store)
          (db.addMetrics table (meant.map (Database.snapshotRow table time session))) :=
        represents.addMetrics (List.forall₂_map_right_iff.mpr reads)
      obtain ⟨later, rest, final⟩ := ih added
      refine ⟨stored.map (Change.row (.metric table)) ++ later, ?_, ?_⟩
      · simp only
        rw [List.map_append, ← rest, ← attempts]
        rfl
      · rw [List.foldl_append]
        exact final

/-- A write of one statement. -/
theorem performed_single {bound : Except PyError Row} {row : Row} {change : Row → Change}
    (binds : bound = .ok row) (represents : Represents stateText ((change row).apply store) db) :
    Performed stateText ⟨[attempt bound change], true⟩ store db :=
  ⟨⟨[change row], by rw [binds]; rfl, represents⟩, fun quiet => by cases quiet⟩

theorem bindRow_session {bootTime createdAt : PyValue} {boot created : Epoch}
    (bootMeans : bootTime.datum = some (.number boot))
    (createdMeans : createdAt.datum = some (.number created)) :
    ∃ row, bindRow ["boot_time", "created_at"] TableName.sessions.notNull
        [bootTime, createdAt] = .ok row ∧
      Reads row (sessionData { bootTime := boot, createdAt := created }) := by
  have all : Means ["boot_time", "created_at"] [bootTime, createdAt]
      (sessionData { bootTime := boot, createdAt := created }) :=
    .cons bootMeans (.cons createdMeans .nil)
  have others : ∀ column, column ∉ ["boot_time", "created_at"] →
      sessionData { bootTime := boot, createdAt := created } column = .null := by
    intro column other
    by_cases named : column ∈ sessionColumns
    · simp only [sessionColumns, List.mem_cons, List.not_mem_nil, or_false] at named
      rcases named with rfl | rfl | rfl | rfl | rfl | rfl <;> rfl
    · refine dataOf_of_notMem fun member => ?_
      have within : ["boot_time", "previous_boot_time", "uptime_before_boot",
          "previous_session_clean", "unexpected_shutdown", "kernel_power_detected",
          "bugcheck_detected", "created_at"] ⊆ sessionColumns ++ ["boot_time", "created_at"] := by
        decide
      exact (List.mem_append.mp (within member)).elim named other
  have required : ∀ column ∈ TableName.sessions.notNull, column ∈ ["boot_time", "created_at"] →
      sessionData { bootTime := boot, createdAt := created } column ≠ .null := by
    intro column member _ null
    simp only [TableName.notNull, List.mem_cons, List.not_mem_nil, or_false] at member
    rcases member with rfl | rfl <;> cases null
  obtain ⟨row, bound, reads, -⟩ := bindRow_reads all others required
  exact ⟨row, bound, reads⟩

theorem bindRow_heartbeat {timestamp : PyValue} {time : Epoch}
    (timeMeans : timestamp.datum = some (.number time)) :
    ∃ row, bindRow ["timestamp", "updated_at"] ["timestamp", "updated_at"]
        [timestamp, timestamp] = .ok row ∧ Reads row (heartbeatData time) := by
  have all : Means ["timestamp", "updated_at"] [timestamp, timestamp] (heartbeatData time) :=
    .cons timeMeans (.cons timeMeans .nil)
  have required : ∀ column ∈ ["timestamp", "updated_at"], column ∈ ["timestamp", "updated_at"] →
      heartbeatData time column ≠ .null := by
    intro column member _ null
    simp only [List.mem_cons, List.not_mem_nil, or_false] at member
    rcases member with rfl | rfl <;> cases null
  obtain ⟨row, bound, reads, -⟩ :=
    bindRow_reads all (fun _ other => dataOf_of_notMem other) required
  exact ⟨row, bound, reads⟩

theorem bindRow_state (stateText : StateValue → PyStr) {key : String} {value now : PyValue}
    {typed : StateValue} {clock : Epoch}
    (valueMeans : value.datum = some (.text (stateText typed)))
    (nowMeans : now.datum = some (.number clock)) :
    ∃ row, bindRow ["key", "value", "updated_at"] ["updated_at"]
        [.str (PyStr.ofString key), value, now] = .ok row ∧
      ((row.lookup "value").getD .null).datum = some (.text (stateText typed)) := by
  have all : Means ["key", "value", "updated_at"] [.str (PyStr.ofString key), value, now]
      (dataOf [("key", .text (PyStr.ofString key)), ("value", .text (stateText typed)),
        ("updated_at", .number clock)]) :=
    .cons (datum_text key) (.cons valueMeans (.cons nowMeans .nil))
  have required : ∀ column ∈ ["updated_at"], column ∈ ["key", "value", "updated_at"] →
      dataOf [("key", .text (PyStr.ofString key)), ("value", .text (stateText typed)),
        ("updated_at", .number clock)] column ≠ .null := by
    intro column member _ null
    rw [List.mem_singleton.mp member] at null
    cases null
  obtain ⟨row, bound, reads, -⟩ :=
    bindRow_reads all (fun _ other => dataOf_of_notMem other) required
  exact ⟨row, bound, reads "value"⟩

section Update

variable {fields : List (String × PyValue)} {typed : SessionUpdate}

/-- The columns that the statement sets. -/
def setsOf (fields : List (String × PyValue)) : List (String × PyValue) :=
  fields.filter fun field => field.1 ∈ sessionColumns

theorem UpdateMeans.mem_setsOf (means : UpdateMeans fields typed) {column : String} :
    column ∈ (setsOf fields).map Prod.fst ↔ (updateValue typed column).isSome := by
  constructor
  · intro member
    obtain ⟨field, inside, rfl⟩ := List.mem_map.mp member
    obtain ⟨inFields, named⟩ := List.mem_filter.mp inside
    have given := means.given field.1 (of_decide_eq_true named)
    cases value : updateValue typed field.1 with
    | none =>
      rw [value] at given
      exact absurd (List.mem_map_of_mem inFields) given
    | some number => rfl
  · intro valued
    by_cases named : column ∈ sessionColumns
    · have given := means.given column named
      obtain ⟨number, value⟩ := Option.isSome_iff_exists.mp valued
      rw [value] at given
      obtain ⟨argument, inside, -⟩ := given
      exact List.mem_map.mpr ⟨_, List.mem_filter.mpr ⟨inside, decide_eq_true named⟩, rfl⟩
    · rw [updateValue_of_notMem named] at valued
      cases valued

/-- The data of the statement: the set columns and the id. -/
def updateData (typed : SessionUpdate) (sessionId : ℕ) (column : String) : Datum :=
  if column = "session_id" then .number sessionId else .ofNumber (updateValue typed column)

theorem ne_session_id {column : String} (named : column ∈ sessionColumns) :
    column ≠ "session_id" := by
  rintro rfl
  exact absurd named (by decide)

theorem UpdateMeans.sets (means : UpdateMeans fields typed) (sessionId : ℕ) :
    Means ((setsOf fields).map Prod.fst) ((setsOf fields).map Prod.snd)
      (updateData typed sessionId) := by
  rw [Means, List.forall₂_map_left_iff, List.forall₂_map_right_iff, List.forall₂_same]
  intro field inside
  obtain ⟨inFields, named⟩ := List.mem_filter.mp inside
  have inColumns : field.1 ∈ sessionColumns := of_decide_eq_true named
  have given := means.given field.1 inColumns
  rw [updateData, if_neg (ne_session_id inColumns)]
  cases value : updateValue typed field.1 with
  | none =>
    rw [value] at given
    exact absurd (List.mem_map_of_mem inFields) given
  | some number =>
    rw [value] at given
    obtain ⟨argument, member, datum⟩ := given
    have same : (field.1, argument) = field :=
      List.inj_on_of_nodup_map means.names member inFields rfl
    rw [← same]
    exact datum

theorem UpdateMeans.bindRow (means : UpdateMeans fields typed) {sessionId : ℕ}
    (small : sessionId < 2 ^ 63) :
    ∃ row, Connection.bindRow ((setsOf fields).map Prod.fst ++ ["session_id"]) []
        ((setsOf fields).map Prod.snd ++ [.int sessionId]) = .ok row ∧
      Updates row.dropLast typed := by
  have id : Means ["session_id"] [.int sessionId] (updateData typed sessionId) := by
    refine .cons ?_ .nil
    have range : -2 ^ 63 ≤ (sessionId : ℤ) ∧ (sessionId : ℤ) < 2 ^ 63 := by omega
    rw [PyValue.datum, if_pos range]
    rfl
  have others : ∀ column, column ∉ (setsOf fields).map Prod.fst ++ ["session_id"] →
      updateData typed sessionId column = .null := by
    intro column other
    rw [List.mem_append, not_or, List.mem_singleton, means.mem_setsOf] at other
    rw [updateData, if_neg other.2, Option.not_isSome_iff_eq_none.mp other.1]
    rfl
  obtain ⟨row, bound, reads, names⟩ := bindRow_reads ((means.sets sessionId).append id) others
    fun column member => absurd member List.not_mem_nil
  refine ⟨row, bound, fun column => ?_⟩
  obtain ⟨cells, last, rfl, sets, single⟩ := List.map_eq_append_iff.mp names
  obtain ⟨entry, rfl, isId⟩ := List.map_eq_singleton_iff.mp single
  rw [List.dropLast_concat]
  have read := reads column
  rw [List.lookup_append] at read
  cases value : updateValue typed column with
  | none =>
    dsimp only
    refine List.lookup_eq_none_iff.mpr fun other inside => bne_iff_ne.mpr ?_
    rintro rfl
    have named : other.1 ∈ (setsOf fields).map Prod.fst := sets ▸ List.mem_map_of_mem inside
    rw [means.mem_setsOf, value] at named
    cases named
  | some number =>
    have named : column ∈ cells.map Prod.fst := by
      rw [sets, means.mem_setsOf, value]
      rfl
    obtain ⟨found, inside, rfl⟩ := List.mem_map.mp named
    obtain ⟨cell, lookup⟩ := Option.isSome_iff_exists.mp
      (List.lookup_isSome_iff.mpr ⟨found, inside, beq_self_eq_true found.1⟩)
    have inColumns : found.1 ∈ sessionColumns := by
      by_contra other
      rw [updateValue_of_notMem other] at value
      cases value
    rw [lookup, Option.some_or, Option.getD_some, updateData, if_neg (ne_session_id inColumns),
      value] at read
    exact ⟨cell, lookup, read⟩

end Update

theorem performed_updateSession (represents : Represents stateText store db) {sessionId : ℕ}
    {fields : List (String × PyValue)} {typed : SessionUpdate} (small : sessionId < 2 ^ 63)
    (means : UpdateMeans fields typed) :
    Performed stateText (Write.script rendering (.updateSession sessionId fields)) store
      (db.updateSession sessionId typed) := by
  have script : Write.script rendering (.updateSession sessionId fields) =
      if setsOf fields = [] then ⟨[], false⟩
      else ⟨[attempt (bindRow ((setsOf fields).map Prod.fst ++ ["session_id"]) []
        ((setsOf fields).map Prod.snd ++ [.int sessionId]))
          fun cells => .session sessionId cells.dropLast], true⟩ := rfl
  rw [script]
  by_cases nothing : setsOf fields = []
  · rw [if_pos nothing]
    refine ⟨⟨[], rfl, ?_⟩, fun _ => rfl⟩
    have unchanged : ∀ row column, sessionData (typed.apply row) column =
        sessionData row column := by
      intro row column
      have unnamed : ¬ (updateValue typed column).isSome := by
        rw [← means.mem_setsOf, nothing]
        exact List.not_mem_nil
      rw [sessionData_apply, Option.not_isSome_iff_eq_none.mp unnamed]
      rfl
    refine { represents with sessions := represents.sessions.update_right sessionId ?_ }
    intro row given reads column
    rw [unchanged]
    exact reads column
  · rw [if_neg nothing]
    obtain ⟨row, bound, updates⟩ := means.bindRow small
    exact performed_single bound (represents.updateSession sessionId updates)

/-- **A write whose arguments mean those of a typed write stores what that stores.** -/
theorem Carries.performed (dumps : DumpsTexts rendering) {op : Write} {typed : TypedWrite}
    (carries : Carries stateText op typed) (represents : Represents stateText store db) :
    Performed stateText (op.script rendering) store (typed.apply db) := by
  cases carries with
  | insertSnapshot rows timeMeans sessionMeans =>
    exact ⟨performed_insertSnapshot represents rows timeMeans sessionMeans,
      fun quiet => by cases quiet⟩
  | insertEvents events sessionMeans =>
    obtain ⟨rows, attempts, reads⟩ := exists_rows events
      fun _ _ means => rowAttempt_event rendering sessionMeans means
    exact ⟨⟨_, attempts, represents.addEvents (List.forall₂_map_right_iff.mpr reads)⟩,
      fun quiet => by cases quiet⟩
  | createSession bootMeans createdMeans =>
    obtain ⟨row, bound, reads⟩ := bindRow_session bootMeans createdMeans
    exact performed_single bound (represents.addSession reads)
  | updateSession small means => exact performed_updateSession represents small means
  | createIncident incidentMeans findingsMean =>
    obtain ⟨row, bound, reads⟩ := bindRow_incident dumps incidentMeans
    obtain ⟨rows, attempts, readings⟩ := exists_rows findingsMean fun first second means => by
      obtain ⟨row, found, reads⟩ := findingRow_reads dumps means
      have tried : findingAttempt rendering first = .stores (.finding row) := by
        rw [findingAttempt, found]
        rfl
      exact ⟨row, tried, reads⟩
    refine ⟨⟨.row .incidents row :: rows.map .finding, ?_, ?_⟩, fun quiet => by cases quiet⟩
    · rw [List.map_cons, ← attempts, Write.script, incidentAttempts, bound]
      rfl
    · exact (represents.addIncident reads).addFindings readings
  | updateHeartbeat timeMeans =>
    obtain ⟨row, bound, reads⟩ := bindRow_heartbeat timeMeans
    refine performed_single bound ?_
    exact { represents with heartbeat := .some reads }
  | @setState key value now typed clock valueMeans nowMeans =>
    obtain ⟨row, bound, reads⟩ := bindRow_state stateText valueMeans nowMeans
    refine performed_single bound ?_
    refine { represents with agentState := fun other => ?_ }
    by_cases same : other = key
    · subst same
      simp only [Change.apply, TypedWrite.apply, Database.setState, Function.update_self]
      exact .some reads
    · have apart : PyStr.ofString other ≠ PyStr.ofString key :=
        fun equal => same (PyStr.ofString_injective equal)
      simp only [Change.apply, TypedWrite.apply, Database.setState,
        Function.update_of_ne same, Function.update_of_ne apart]
      exact represents.agentState other

/-! ## Runs -/

theorem stored_map_stores (changes : List Change) :
    stored (changes.map Attempt.stores) = changes := by
  induction changes with
  | nil => rfl
  | cons change changes ih => exact congrArg (change :: ·) ih

theorem fails_map_stores (changes : List Change) :
    fails (changes.map Attempt.stores) = false := by
  induction changes with
  | nil => rfl
  | cons change changes ih => exact ih

/-- A write that is carried out leaves nothing pending. -/
theorem Performed.run {script : Operation Change} {connection : Connection Store}
    (performed : Performed stateText script connection.working db)
    (settled : connection.disk = connection.working) :
    (script.run Change.apply connection).disk = (script.run Change.apply connection).working ∧
      Represents stateText (script.run Change.apply connection).disk db := by
  obtain ⟨changes, attempts, represents⟩ := performed.changes
  have working : (script.run Change.apply connection).working =
      changes.foldl Change.apply connection.working := by
    rw [Operation.run, attempts, stored_map_stores]
  have disk : (script.run Change.apply connection).disk =
      changes.foldl Change.apply connection.working := by
    rw [Operation.run, Operation.completes, attempts, stored_map_stores, fails_map_stores,
      Bool.not_false, Bool.and_true]
    cases commits : script.commits with
    | true => rfl
    | false =>
      have none := performed.commits commits
      rw [attempts, List.map_eq_nil_iff] at none
      rw [none]
      exact settled
  exact ⟨disk.trans working.symm, disk ▸ represents⟩

/-- One write: nothing is raised, nothing pending, and the disk represents the
database after the typed write. -/
theorem Carries.run (dumps : DumpsTexts rendering) {op : Write} {typed : TypedWrite}
    (carries : Carries stateText op typed) {connection : Connection Store}
    (settled : connection.disk = connection.working)
    (represents : Represents stateText connection.disk db) :
    (op.run rendering connection).1.disk = (op.run rendering connection).1.working ∧
      Represents stateText (op.run rendering connection).1.disk (typed.apply db) ∧
      (op.run rendering connection).2 = false := by
  have performed := carries.performed dumps (settled ▸ represents)
  obtain ⟨ran, raised⟩ := op.run_eq rendering connection
  obtain ⟨next, after⟩ := performed.run settled
  obtain ⟨changes, attempts, -⟩ := performed.changes
  rw [ran, raised, attempts, fails_map_stores]
  exact ⟨next, after, rfl⟩

/-- **A run of writes whose arguments mean those of typed writes raises nothing and
leaves nothing pending, and the disk represents the database after the typed
writes.** -/
theorem run_represents (dumps : DumpsTexts rendering) {writes : List Write}
    {typed : List TypedWrite} (carried : List.Forall₂ (Carries stateText) writes typed)
    {connection : Connection Store} (settled : connection.disk = connection.working)
    (represents : Represents stateText connection.disk db) :
    (runWrites rendering connection writes).disk =
        (runWrites rendering connection writes).working ∧
      Represents stateText (runWrites rendering connection writes).disk
        (Runs.run TypedWrite.apply db typed) ∧
      ∀ done op rest, writes = done ++ op :: rest →
        (op.run rendering (runWrites rendering connection done)).2 = false := by
  induction carried generalizing connection db with
  | nil =>
    refine ⟨settled, represents, fun done op rest split => ?_⟩
    cases done <;> cases split
  | @cons op typedOp writes typed first _ ih =>
    obtain ⟨next, after, quiet⟩ := first.run dumps settled represents
    obtain ⟨last, final, calm⟩ := ih next after
    refine ⟨last, final, fun done other rest split => ?_⟩
    cases done with
    | nil =>
      obtain ⟨rfl, rfl⟩ := List.cons.inj split
      exact quiet
    | cons earlier done =>
      obtain ⟨rfl, rfl⟩ := List.cons.inj split
      exact calm done other rest rfl

/-- The text of a value that is one. -/
def strText? : PyValue → Option PyStr
  | .str text => some text
  | _ => none

/-- `json.dumps`, as far as lists of texts go. -/
def textDumps : PyValue → Option PyStr
  | .list items => (items.mapM strText?).map JsonTexts.write
  | _ => none

theorem dumpsTexts_textDumps : DumpsTexts ⟨fun _ => none, textDumps⟩ := by
  intro texts
  have all : (texts.map PyValue.text).mapM strText? = some (texts.map PyStr.ofString) := by
    induction texts with
    | nil => rfl
    | cons text texts ih =>
      rw [List.map_cons, List.mapM_cons, ih]
      rfl
  exact congrArg (Option.map JsonTexts.write) all

/-- A boot with a heartbeat, the crash event of the next one and its incident. -/
theorem run_represents_crash :
    let event : PyValue := .ofItems [("timestamp", .float (.finite 2000)), ("event_id", .int 41),
      ("provider", .text "Kernel-Power")]
    let incident : PyValue := .ofItems [("detected_at", .float (.finite 2000)),
      ("incident_type", .text "POWER_LOSS"), ("confidence", .text "LOW"),
      ("previous_session_id", .int 1), ("reboot_timestamp", .float (.finite 2000)),
      ("findings", .list [])]
    let meant : Incident :=
      { detectedAt := 2000, incidentType := .powerLoss, confidence := .low
        previousSessionId := some 1, lastMetricTimestamp := none, rebootTimestamp := 2000
        durationEstimate := none, findings := [], evidence := [] }
    let writes : List Write := [.createSession (.float (.finite 1000)) (.int 1001),
      .updateHeartbeat (.float (.finite 1900)), .insertEvents [event] (.int 1),
      .updateSession 1 [("previous_session_clean", .bool false)], .createIncident incident []]
    let typed : List TypedWrite := [.createSession 1000 1001, .updateHeartbeat 1900,
      .insertEvents [{ timestamp := 2000, provider := some "Kernel-Power", eventId := some 41 }] 1,
      .updateSession 1 { previousSessionClean := some 0 },
      .createIncident meant []]
    Represents (fun _ => [])
      (runWrites ⟨fun _ => none, textDumps⟩ ⟨emptyStore, emptyStore⟩ writes).disk
      (Runs.run TypedWrite.apply .empty typed) := by
  intro event incident meant writes typed
  have carried : List.Forall₂ (Carries fun _ => []) writes typed := by
    refine .cons (.createSession rfl (by decide +kernel)) (.cons (.updateHeartbeat rfl) (.cons
      (.insertEvents (.cons ⟨?_, rfl⟩ .nil) (by decide +kernel)) (.cons
      (.updateSession (by decide) ⟨by decide, ?_⟩) (.cons (.createIncident ⟨?_, rfl, rfl⟩ .nil)
      .nil))))
    · decide +kernel
    · intro column member
      simp only [sessionColumns, List.mem_cons, List.not_mem_nil, or_false] at member
      rcases member with rfl | rfl | rfl | rfl | rfl | rfl
      · exact fun inside => absurd inside (by decide)
      · exact fun inside => absurd inside (by decide)
      · exact ⟨.bool false, List.mem_singleton_self _, by decide +kernel⟩
      · exact fun inside => absurd inside (by decide)
      · exact fun inside => absurd inside (by decide)
      · exact fun inside => absurd inside (by decide)
    · decide +kernel
  exact (run_represents dumpsTexts_textDumps carried rfl (.empty _)).2.1

end Connection

end PcDiagnosticAgent
