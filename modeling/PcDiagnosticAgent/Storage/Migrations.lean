import PcDiagnosticAgent.Library.Pool
import PcDiagnosticAgent.Storage.Connection

/-!
# Opening the database

`connect` sets the pragmas of its connection and brings the schema of
`storage/migrations.py` into the file. It runs in the service and in every command
of the command line, so several processes may be in it at once, with connected
ones at work, and any of them may die. Each statement of the schema is committed by
itself; only the version row is in a transaction of its own at the end.

The order of the statements makes this safe. In every interleaving the only error
that a statement raises is that of a lock, a process that got through finds the
whole schema, and so does whoever reads the version row (`connected_file`); every
process gets through in a fixed number of turns of its own, unless it dies or meets
a lock (`connect_returns`); and no row of a data table is touched
(`connects_keep_rows`).

A statement that meets the lock of another connection waits, which only removes
interleavings, or raises: changing the journal mode at once, the others when they
gave up waiting. Which statements do is left open, and a process that raises in
`connect` is not connected. The pragmas change no table; opening the file itself is
left out.
-/

set_option autoImplicit false

namespace PcDiagnosticAgent

open Pools

namespace Migrations

/-! ## The file -/

structure Contents where
  columns : List String
  rows : List Row
deriving DecidableEq, Repr

/-- The tables of the file and the names of its indexes. -/
structure File where
  tables : String → Option Contents
  indexes : List String

def File.empty : File := ⟨fun _ => none, []⟩

/-- A statement of the schema, with `IF NOT EXISTS`. -/
inductive Ddl where
  | createTable (name : String) (columns : List String)
  | createIndex (name table column : String)
deriving DecidableEq, Repr

/-- A new empty table. -/
def File.add (file : File) (name : String) (columns : List String) : File :=
  { file with tables := Function.update file.tables name (some ⟨columns, []⟩) }

/-- Execute a statement of the schema. Tables and indexes share their names. -/
def File.execute (file : File) : Ddl → Except PyError File
  | .createTable name columns =>
    if (file.tables name).isSome then .ok file
    else if name ∈ file.indexes then .error .sqlite
    else .ok (file.add name columns)
  | .createIndex name table column =>
    match file.tables table with
    | none => .error .sqlite
    | some contents =>
      if (file.tables name).isSome then .error .sqlite
      else if name ∈ file.indexes then .ok file
      else if column ∈ contents.columns then .ok { file with indexes := name :: file.indexes }
      else .error .sqlite

/-! ## The schema -/

def schemaVersion : Ddl := .createTable "schema_version" ["version"]

/-- The DDL of a metric table. -/
def metricTableDdl (table : MetricTable) : Ddl :=
  .createTable table.name (["id", "timestamp", "session_id"] ++ table.columns)

/-- `SCHEMA_STATEMENTS`. -/
def schemaStatements : List Ddl :=
  [schemaVersion,
    .createTable "sessions" ["session_id", "boot_time", "previous_boot_time",
      "uptime_before_boot", "previous_session_clean", "unexpected_shutdown",
      "kernel_power_detected", "bugcheck_detected", "created_at"],
    .createTable "events" ["id", "timestamp", "session_id", "provider", "event_id", "level",
      "channel", "record_id", "message", "computer", "process_id", "thread_id"],
    .createTable "incidents" ["incident_id", "detected_at", "incident_type", "confidence",
      "previous_session_id", "last_metric_timestamp", "reboot_timestamp", "duration_estimate",
      "findings", "evidence"],
    .createTable "findings" ["finding_id", "incident_id", "finding_type", "severity",
      "confidence", "evidence", "timestamp", "explanation"],
    .createTable "heartbeat" ["id", "timestamp", "updated_at"],
    .createTable "agent_state" ["key", "value", "updated_at"]] ++
  MetricTable.all.map metricTableDdl

/-- `INDEX_STATEMENTS`. -/
def indexStatements : List Ddl :=
  [.createIndex "idx_events_timestamp" "events" "timestamp",
    .createIndex "idx_events_event_id" "events" "event_id",
    .createIndex "idx_events_provider" "events" "provider",
    .createIndex "idx_events_session" "events" "session_id",
    .createIndex "idx_sessions_boot" "sessions" "boot_time",
    .createIndex "idx_incidents_detected" "incidents" "detected_at"]

def ddl : List Ddl := schemaStatements ++ indexStatements

/-- The row of `SCHEMA_VERSION`. -/
def versionRow : Row := [("version", .integer 1)]

/-- The version in a row. -/
def versionOf (row : Row) : ℤ :=
  match row.lookup "version" with
  | some (.integer version) => version
  | _ => 0

/-- The highest version, or 0 when there is none. -/
def currentVersion (contents : Contents) : ℤ :=
  ((contents.rows.map versionOf).max?).getD 0

/-! ## The statements of the data operations -/

/-- A table with the columns that a statement names. -/
structure Use where
  table : String
  columns : List String
deriving DecidableEq, Repr

/-- The statements of `database.py`, of `retention.py` and of the queries elsewhere. -/
def uses : List Use :=
  MetricTable.all.map (fun table => ⟨table.name, Connection.snapshotColumns table⟩) ++
  [⟨"events", Connection.eventColumns⟩,
    ⟨"sessions", ["boot_time", "created_at"]⟩,
    ⟨"sessions", "session_id" :: Connection.sessionColumns⟩,
    ⟨"incidents", Connection.incidentColumns⟩,
    ⟨"incidents", ["incident_id", "reboot_timestamp"]⟩,
    ⟨"findings", "incident_id" :: Connection.findingColumns⟩,
    ⟨"findings", ["incident_id", "finding_id"]⟩,
    ⟨"heartbeat", ["id", "timestamp", "updated_at"]⟩,
    ⟨"agent_state", ["key", "value", "updated_at"]⟩]

/-- The statement can be prepared. -/
def File.Prepares (file : File) (use : Use) : Prop :=
  ∃ contents ∈ file.tables use.table, ∀ column ∈ use.columns, column ∈ contents.columns

instance (file : File) (use : Use) : Decidable (file.Prepares use) :=
  decidable_of_iff ((file.tables use.table).any fun contents =>
      use.columns.all fun column => column ∈ contents.columns) (by
    simp [File.Prepares, Option.any_eq_true])

/-- Change the rows of a table. -/
def File.write (file : File) (table : String) (change : List Row → List Row) : File :=
  { file with
    tables := Function.update file.tables table
      ((file.tables table).map fun contents => { contents with rows := change contents.rows }) }

/-! ## Processes -/

/-- The pragmas of a connection: `journal_mode`, `synchronous` and `foreign_keys`. -/
inductive Pragma where
  | journalMode
  | synchronous
  | foreignKeys
deriving DecidableEq, Repr

/-- How far a process is in `connect`. -/
inductive Phase where
  | configuring (pragma : Pragma)
  | creating
  | reading
  | migrating (left : List Ddl)
  | committing
  | connected
  | failed (error : PyError)
  | locked
  | gone
deriving DecidableEq, Repr

/-- `connect` begins with its first pragma. -/
def Phase.start : Phase := .configuring .journalMode

/-- What a process does in its turn. A connected one executes statements. In
`locked` its statement raises that the database is locked. -/
inductive Act where
  | proceeds
  | executes (use : Use) (known : use ∈ uses) (change : List Row → List Row)
  | locked
  | dies

/-- The next statement of `connect`. -/
def connect (file : File) : Phase → File × Phase
  | .configuring .journalMode => (file, .configuring .synchronous)
  | .configuring .synchronous => (file, .configuring .foreignKeys)
  | .configuring .foreignKeys => (file, .creating)
  | .creating =>
    match file.execute schemaVersion with
    | .ok next => (next, .reading)
    | .error error => (file, .failed error)
  | .reading =>
    match file.tables "schema_version" with
    | none => (file, .failed .sqlite)
    | some contents => (file, if 1 ≤ currentVersion contents then .connected else .migrating ddl)
  | .migrating (statement :: left) =>
    match file.execute statement with
    | .ok next => (next, .migrating left)
    | .error error => (file, .failed error)
  -- the insert opens the transaction that the commit ends
  | .migrating [] =>
    (file, if file.Prepares ⟨"schema_version", ["version"]⟩ then .committing else .failed .sqlite)
  | .committing => (file.write "schema_version" (· ++ [versionRow]), .connected)
  | phase => (file, phase)

/-- A process whose statement raises that the database is locked. Only `connect` is
ended by it; the transaction of the version row is rolled back. -/
def Phase.refused : Phase → Phase
  | .connected => .connected
  | .failed error => .failed error
  | .gone => .gone
  | _ => .locked

def turn : Act → File → Phase → File × Phase
  | .proceeds, file, phase => connect file phase
  | .executes use _ change, file, .connected =>
    if file.Prepares use then (file.write use.table change, .connected)
    else (file, .failed .sqlite)
  | .executes .., file, phase => (file, phase)
  | .locked, file, phase => (file, phase.refused)
  | .dies, file, _ => (file, .gone)

/-- Only a connected process executes statements. -/
theorem turn_executes {phase : Phase} (other : phase ≠ .connected) (use : Use)
    (known : use ∈ uses) (change : List Row → List Row) (file : File) :
    turn (.executes use known change) file phase = (file, phase) := by
  cases phase with
  | connected => exact absurd rfl other
  | _ => rfl

/-! ## Statements on a sound file -/

/-- The statement has nothing left to do. -/
def File.Done (file : File) : Ddl → Prop
  | .createTable name columns => ∃ contents, file.tables name = some contents ∧
      contents.columns = columns
  | .createIndex name _ _ => name ∈ file.indexes

/-- The whole schema is there. -/
def File.Full (file : File) : Prop := ∀ statement ∈ ddl, file.Done statement

/-- The version row is there. -/
def File.Versioned (file : File) : Prop :=
  ∃ contents, file.tables "schema_version" = some contents ∧ contents.rows ≠ []

/-- Tables, indexes and versions only come. -/
structure File.Later (before after : File) : Prop where
  tables : ∀ {name contents}, before.tables name = some contents →
    ∃ later, after.tables name = some later ∧ later.columns = contents.columns
  indexes : before.indexes ⊆ after.indexes
  versioned : before.Versioned → after.Versioned

instance : Preorder File where
  le := File.Later
  le_refl file := ⟨fun found => ⟨_, found, rfl⟩, fun _ member => member, id⟩
  le_trans first second third before after :=
    { tables := fun found => by
        obtain ⟨contents, found, same⟩ := before.tables found
        obtain ⟨last, found, columns⟩ := after.tables found
        exact ⟨last, found, columns.trans same⟩
      indexes := fun _ member => after.indexes (before.indexes member)
      versioned := fun versioned => after.versioned (before.versioned versioned) }

theorem File.Done.later {before after : File} (forward : before ≤ after) {statement : Ddl}
    (done : before.Done statement) : after.Done statement := by
  cases statement with
  | createTable name columns =>
    obtain ⟨contents, found, rfl⟩ := done
    exact forward.tables found
  | createIndex name table column => exact forward.indexes done

theorem File.Full.later {before after : File} (forward : before ≤ after) (full : before.Full) :
    after.Full := fun statement member => (full statement member).later forward

/-- The file holds nothing but what the schema declares, and no version row before
the whole of it. -/
structure File.Sound (file : File) : Prop where
  declared : ∀ {name contents}, file.tables name = some contents →
    .createTable name contents.columns ∈ schemaStatements
  indexes : ∀ name ∈ file.indexes, ∃ table column,
    .createIndex name table column ∈ indexStatements
  versions : ∀ {contents}, file.tables "schema_version" = some contents →
    ∀ row ∈ contents.rows, row = versionRow
  full : file.Versioned → file.Full

theorem File.Sound.empty : File.empty.Sound where
  declared := nofun
  indexes := nofun
  versions := nofun
  full := nofun

/-- The name of a table or of an index. -/
def Ddl.name : Ddl → String
  | .createTable name _ => name
  | .createIndex name _ _ => name

/-- No two statements of the schema share a name. -/
theorem ddl_name_inj {first second : Ddl} (memberFirst : first ∈ ddl) (memberSecond : second ∈ ddl)
    (same : first.name = second.name) : first = second := by
  have distinct : (ddl.map Ddl.name).Nodup := by decide +kernel
  exact List.inj_on_of_nodup_map distinct memberFirst memberSecond same

/-- The table that a statement of the schema creates has the columns that are used. -/
def Use.Fits (use : Use) : Ddl → Prop
  | .createTable name columns => name = use.table ∧ ∀ column ∈ use.columns, column ∈ columns
  | .createIndex .. => False

instance (use : Use) (statement : Ddl) : Decidable (use.Fits statement) :=
  match statement with
  | .createTable _ _ => inferInstanceAs (Decidable (_ ∧ _))
  | .createIndex .. => isFalse id

/-- What a statement of the schema uses. -/
def Ddl.use : Ddl → Use
  | .createTable name columns => ⟨name, columns⟩
  | .createIndex _ table column => ⟨table, [column]⟩

theorem Use.Fits.declared {use : Use} (fits : ∃ statement ∈ schemaStatements, use.Fits statement) :
    ∃ columns, .createTable use.table columns ∈ schemaStatements ∧
      ∀ column ∈ use.columns, column ∈ columns := by
  obtain ⟨statement, member, fits⟩ := fits
  cases statement with
  | createTable name columns => exact ⟨columns, fits.1 ▸ member, fits.2⟩
  | createIndex => cases fits

/-- Every index is on a column of a table of the schema. -/
theorem indexed_column {name table column : String}
    (member : .createIndex name table column ∈ indexStatements) :
    ∃ columns, .createTable table columns ∈ schemaStatements ∧ column ∈ columns := by
  have all : ∀ statement ∈ indexStatements, ∃ declared ∈ schemaStatements,
      statement.use.Fits declared := by decide +kernel
  obtain ⟨columns, declared, inside⟩ := Use.Fits.declared (all _ member)
  exact ⟨columns, declared, inside column (List.mem_singleton_self _)⟩

/-- Every data operation names columns that the schema declares. -/
theorem used_columns {use : Use} (known : use ∈ uses) :
    use.table ≠ "schema_version" ∧ ∃ columns, .createTable use.table columns ∈ schemaStatements ∧
      ∀ column ∈ use.columns, column ∈ columns := by
  have all : ∀ use ∈ uses, use.table ≠ "schema_version" ∧
      ∃ declared ∈ schemaStatements, use.Fits declared := by decide +kernel
  exact ⟨(all use known).1, Use.Fits.declared (all use known).2⟩

theorem schemaStatements_subset : schemaStatements ⊆ ddl := List.subset_append_left _ _

theorem indexStatements_subset : indexStatements ⊆ ddl := List.subset_append_right _ _

section Statements

variable {file : File}

/-- A table of the schema that is there has the columns it was declared with. -/
theorem File.Sound.columns (sound : file.Sound) {name : String} {contents : Contents}
    {columns : List String} (found : file.tables name = some contents)
    (member : .createTable name columns ∈ schemaStatements) : contents.columns = columns := by
  have same := ddl_name_inj (schemaStatements_subset (sound.declared found))
    (schemaStatements_subset member) rfl
  exact (Ddl.createTable.injEq .. ▸ same).2

/-- No index has the name of a table. -/
theorem name_ne_of_index {name other table column : String} {columns : List String}
    (isTable : .createTable name columns ∈ schemaStatements)
    (isIndex : .createIndex other table column ∈ indexStatements) : name ≠ other := by
  intro same
  cases ddl_name_inj (schemaStatements_subset isTable) (indexStatements_subset isIndex) same

theorem File.add_later {name : String} (absent : file.tables name = none) (columns : List String) :
    file ≤ file.add name columns := by
  have others : ∀ {other contents}, file.tables other = some contents →
      (file.add name columns).tables other = some contents := by
    intro other contents found
    have different : other ≠ name := by
      rintro rfl
      cases found.symm.trans absent
    exact (Function.update_of_ne different ..).trans found
  refine ⟨fun found => ⟨_, others found, rfl⟩, fun _ member => member, ?_⟩
  rintro ⟨contents, found, some⟩
  exact ⟨contents, others found, some⟩

/-- A statement that creates a table of the schema succeeds on a sound file. -/
theorem File.Sound.createTable (sound : file.Sound) {name : String} {columns : List String}
    (member : .createTable name columns ∈ schemaStatements) :
    ∃ next, file.execute (.createTable name columns) = .ok next ∧ next.Sound ∧ file ≤ next ∧
      next.Done (.createTable name columns) := by
  cases found : file.tables name with
  | some contents =>
    refine ⟨file, ?_, sound, le_refl _, contents, found, sound.columns found member⟩
    simp [File.execute, found]
  | none =>
    have free : name ∉ file.indexes := by
      intro taken
      obtain ⟨table, column, isIndex⟩ := sound.indexes name taken
      exact name_ne_of_index member isIndex rfl
    have forward := File.add_later found columns
    have own : (file.add name columns).tables name = some ⟨columns, []⟩ := Function.update_self ..
    have other : ∀ {table}, table ≠ name →
        (file.add name columns).tables table = file.tables table :=
      fun different => Function.update_of_ne different ..
    refine ⟨file.add name columns, by simp [File.execute, found, free], ?_, forward,
      ⟨_, own, rfl⟩⟩
    refine ⟨fun {table contents} there => ?_, sound.indexes, fun {contents} there => ?_, ?_⟩
    · by_cases same : table = name
      · obtain rfl := same
        rw [← Option.some.inj (own.symm.trans there)]
        exact member
      · exact sound.declared ((other same).symm.trans there)
    · by_cases same : "schema_version" = name
      · obtain rfl := same
        rw [← Option.some.inj (own.symm.trans there)]
        exact fun row none => absurd none List.not_mem_nil
      · exact sound.versions ((other same).symm.trans there)
    · rintro ⟨contents, there, some⟩
      by_cases same : "schema_version" = name
      · obtain rfl := same
        rw [← Option.some.inj (own.symm.trans there)] at some
        exact absurd rfl some
      · exact File.Full.later forward
          (sound.full ⟨contents, (other same).symm.trans there, some⟩)

/-- A statement that creates an index succeeds when the tables are there. -/
theorem File.Sound.createIndex (sound : file.Sound) {name table column : String}
    (member : .createIndex name table column ∈ indexStatements)
    (tables : ∀ statement ∈ schemaStatements, file.Done statement) :
    ∃ next, file.execute (.createIndex name table column) = .ok next ∧ next.Sound ∧
      file ≤ next ∧ next.Done (.createIndex name table column) := by
  obtain ⟨columns, declared, inside⟩ := indexed_column member
  obtain ⟨contents, found, rfl⟩ := tables _ declared
  have free : file.tables name = none := by
    cases taken : file.tables name with
    | none => rfl
    | some other => exact absurd rfl (name_ne_of_index (sound.declared taken) member)
  by_cases there : name ∈ file.indexes
  · exact ⟨file, by simp [File.execute, found, free, there], sound, le_refl _, there⟩
  · let next : File := { file with indexes := name :: file.indexes }
    have forward : file ≤ next :=
      ⟨fun found => ⟨_, found, rfl⟩, List.subset_cons_self _ _, id⟩
    refine ⟨next, by simp [File.execute, found, free, there, inside, next], ?_, forward,
      List.mem_cons_self⟩
    refine ⟨sound.declared, fun other listed => ?_, sound.versions,
      fun versioned => (sound.full versioned).later forward⟩
    rcases List.mem_cons.mp listed with rfl | before
    · exact ⟨table, column, member⟩
    · exact sound.indexes other before

/-! ## Rows -/

theorem File.write_tables (file : File) (table : String) (change : List Row → List Row) :
    (file.write table change).tables = Function.update file.tables table
      ((file.tables table).map fun contents => { contents with rows := change contents.rows }) :=
  rfl

/-- Writing keeps the tables and their columns. -/
theorem File.write_found {table name : String} {change : List Row → List Row}
    {contents : Contents} (found : file.tables name = some contents) :
    (file.write table change).tables name =
      some (if name = table then { contents with rows := change contents.rows } else contents) := by
  rw [File.write_tables]
  split
  · rename_i same
    obtain rfl := same
    rw [Function.update_self, found, Option.map_some]
  · rename_i different
    rw [Function.update_of_ne different, found]

/-- A table that is there after writing was there before. -/
theorem File.found_of_write {table name : String} {change : List Row → List Row}
    {later : Contents} (found : (file.write table change).tables name = some later) :
    ∃ contents, file.tables name = some contents ∧ later =
      if name = table then { contents with rows := change contents.rows } else contents := by
  cases before : file.tables name with
  | none =>
    rw [File.write_tables] at found
    by_cases same : name = table
    · subst same
      rw [Function.update_self, before] at found
      cases found
    · rw [Function.update_of_ne same, before] at found
      cases found
  | some contents =>
    exact ⟨contents, rfl, Option.some.inj (found.symm.trans (File.write_found before))⟩

/-- Writing moves forward when it leaves the version rows or adds to them. -/
theorem File.write_later {table : String} {change : List Row → List Row}
    (versions : table = "schema_version" → ∀ rows, change rows ≠ []) :
    file ≤ file.write table change := by
  refine ⟨fun found => ⟨_, File.write_found found, by split <;> rfl⟩, fun _ member => member, ?_⟩
  rintro ⟨contents, found, some⟩
  refine ⟨_, File.write_found found, ?_⟩
  split
  · rename_i same
    exact versions same.symm contents.rows
  · exact some

/-- Data operations leave a sound file sound. -/
theorem File.Sound.write (sound : file.Sound) {table : String}
    (data : table ≠ "schema_version") (change : List Row → List Row) :
    (file.write table change).Sound := by
  refine ⟨fun {name later} found => ?_, sound.indexes, fun {later} found => ?_, ?_⟩
  · obtain ⟨contents, before, rfl⟩ := File.found_of_write found
    have columns : (if name = table then { contents with rows := change contents.rows }
        else contents).columns = contents.columns := by split <;> rfl
    rw [columns]
    exact sound.declared before
  · obtain ⟨contents, before, rfl⟩ := File.found_of_write found
    rw [if_neg data.symm]
    exact sound.versions before
  · rintro ⟨later, found, some⟩
    obtain ⟨contents, before, rfl⟩ := File.found_of_write found
    rw [if_neg data.symm] at some
    exact File.Full.later (File.write_later fun same => absurd same data)
      (sound.full ⟨contents, before, some⟩)

/-- The version row is written when the whole schema is there. -/
theorem File.Sound.writeVersion (sound : file.Sound) (full : file.Full) :
    let next := file.write "schema_version" (· ++ [versionRow])
    next.Sound ∧ file ≤ next ∧ next.Full ∧ next.Versioned := by
  intro next
  have forward : file ≤ next := File.write_later fun _ rows => by simp
  have after : next.Full := full.later forward
  obtain ⟨contents, found, -⟩ := full schemaVersion List.mem_cons_self
  refine ⟨⟨fun {name later} there => ?_, sound.indexes, fun {later} there => ?_, fun _ => after⟩,
    forward, after, _, File.write_found found, ?_⟩
  · obtain ⟨contents, before, rfl⟩ := File.found_of_write there
    have columns : (if name = "schema_version" then
        { contents with rows := contents.rows ++ [versionRow] } else contents).columns =
          contents.columns := by split <;> rfl
    rw [columns]
    exact sound.declared before
  · obtain ⟨contents, before, rfl⟩ := File.found_of_write there
    rw [if_pos rfl]
    intro row member
    rcases List.mem_append.mp member with old | new
    · exact sound.versions before row old
    · exact List.mem_singleton.mp new
  · rw [if_pos rfl]
    exact List.append_ne_nil_of_right_ne_nil _ (List.cons_ne_nil _ _)

/-- In a sound file the version is 1 or missing. -/
theorem File.Sound.version (sound : file.Sound) {contents : Contents}
    (found : file.tables "schema_version" = some contents) :
    currentVersion contents = if contents.rows = [] then 0 else 1 := by
  have rows : contents.rows.map versionOf = List.replicate contents.rows.length 1 := by
    rw [List.eq_replicate_iff]
    refine ⟨List.length_map .., fun version member => ?_⟩
    obtain ⟨row, inside, rfl⟩ := List.mem_map.mp member
    rw [sound.versions found row inside]
    rfl
  rw [currentVersion, rows]
  cases contents.rows with
  | nil => rfl
  | cons row rest => simp

/-- The next statement creates a table, or all tables were created before it. -/
theorem ddl_order {done left : List Ddl} {statement : Ddl}
    (order : done ++ statement :: left = ddl) :
    statement ∈ schemaStatements ∨ statement ∈ indexStatements ∧ schemaStatements ⊆ done := by
  rcases List.append_eq_append_iff.mp order with ⟨tables, schema, rest⟩ | ⟨rest, same, indexes⟩
  · cases tables with
    | nil =>
      rw [List.append_nil] at schema
      rw [List.nil_append] at rest
      exact .inr ⟨rest ▸ List.mem_cons_self, schema ▸ List.Subset.refl _⟩
    | cons first tables =>
      rw [List.cons_append, List.cons.injEq] at rest
      exact .inl (by rw [schema, rest.1]; simp)
  · exact .inr ⟨by rw [indexes]; simp, same ▸ List.subset_append_left _ _⟩

/-- A statement of the schema that is next in its order succeeds. -/
theorem File.Sound.execute (sound : file.Sound) {done left : List Ddl} {statement : Ddl}
    (order : done ++ statement :: left = ddl) (before : ∀ earlier ∈ done, file.Done earlier) :
    ∃ next, file.execute statement = .ok next ∧ next.Sound ∧ file ≤ next ∧
      next.Done statement := by
  have creates : ∀ declared ∈ schemaStatements,
      declared = .createTable declared.name declared.use.columns := by decide +kernel
  have indexes : ∀ declared ∈ indexStatements,
      declared ≠ .createTable declared.name declared.use.columns := by decide +kernel
  rcases ddl_order order with isTable | ⟨isIndex, tables⟩
  · cases statement with
    | createTable name columns => exact sound.createTable isTable
    | createIndex name table column => cases creates _ isTable
  · cases statement with
    | createTable name columns => exact absurd rfl (indexes _ isIndex)
    | createIndex name table column =>
      exact sound.createIndex isIndex fun declared member => before declared (tables member)

end Statements

/-! ## What a process knows -/

/-- What holds of the file at each place of `connect`. -/
def Known (file : File) : Phase → Prop
  | .configuring _ => True
  | .creating => True
  | .reading => file.Done schemaVersion
  | .migrating left => ∃ done, done ++ left = ddl ∧ ∀ statement ∈ done, file.Done statement
  | .committing => file.Full
  | .connected => file.Full ∧ file.Versioned
  | .failed _ => False
  | .locked => True
  | .gone => True

theorem Known.later {before after : File} (phase : Phase) (forward : before ≤ after)
    (known : Known before phase) : Known after phase := by
  cases phase with
  | configuring pragma => trivial
  | creating => trivial
  | reading =>
    have done : before.Done schemaVersion := known
    exact done.later forward
  | migrating left =>
    obtain ⟨done, order, executed⟩ := known
    exact ⟨done, order, fun statement member => (executed statement member).later forward⟩
  | committing => exact File.Full.later forward known
  | connected => exact ⟨known.1.later forward, forward.versioned known.2⟩
  | failed error => exact known
  | locked => trivial
  | gone => trivial

/-- A process that is refused knows no less than it needs. -/
theorem Known.refused {file : File} (phase : Phase) (known : Known file phase) :
    Known file phase.refused := by
  cases phase with
  | connected => exact known
  | failed error => exact known
  | _ => trivial

/-- The tables that a data operation uses are there. -/
theorem File.Full.prepares {file : File} (full : file.Full) {use : Use} {columns : List String}
    (declared : .createTable use.table columns ∈ schemaStatements)
    (fits : ∀ column ∈ use.columns, column ∈ columns) : file.Prepares use := by
  obtain ⟨contents, found, rfl⟩ := full _ (schemaStatements_subset declared)
  exact ⟨contents, found, fits⟩

theorem schemaVersion_mem : .createTable "schema_version" ["version"] ∈ schemaStatements := by
  decide +kernel

/-- A statement of `connect`. -/
theorem connect_known {file : File} (sound : file.Sound) {phase : Phase}
    (known : Known file phase) :
    (connect file phase).1.Sound ∧ Known (connect file phase).1 (connect file phase).2 ∧
      file ≤ (connect file phase).1 := by
  cases phase with
  | configuring pragma => cases pragma <;> exact ⟨sound, trivial, le_refl _⟩
  | creating =>
    obtain ⟨next, created, sound, forward, done⟩ := sound.createTable schemaVersion_mem
    have result : connect file .creating = (next, .reading) := by
      rw [connect, schemaVersion, created]
    rw [result]
    exact ⟨sound, done, forward⟩
  | reading =>
    obtain ⟨contents, found, -⟩ := known
    have result : connect file .reading =
        (file, if 1 ≤ currentVersion contents then .connected else .migrating ddl) := by
      rw [connect, found]
    rw [result]
    refine ⟨sound, ?_, le_refl _⟩
    rw [sound.version found]
    by_cases none : contents.rows = []
    · rw [if_pos none, if_neg (by decide)]
      exact ⟨[], rfl, fun statement member => absurd member List.not_mem_nil⟩
    · rw [if_neg none, if_pos (le_refl _)]
      exact ⟨sound.full ⟨contents, found, none⟩, contents, found, none⟩
  | migrating left =>
    obtain ⟨done, order, executed⟩ := known
    cases left with
    | nil =>
      rw [List.append_nil] at order
      subst order
      have prepares : file.Prepares ⟨"schema_version", ["version"]⟩ :=
        File.Full.prepares executed schemaVersion_mem fun column member => member
      have result : connect file (.migrating []) = (file, .committing) := by
        rw [connect, if_pos prepares]
      rw [result]
      exact ⟨sound, executed, le_refl _⟩
    | cons statement left =>
      obtain ⟨next, success, sound, forward, now⟩ := sound.execute order executed
      have result : connect file (.migrating (statement :: left)) = (next, .migrating left) := by
        rw [connect, success]
      rw [result]
      refine ⟨sound, ⟨done ++ [statement], ?_, fun earlier member => ?_⟩, forward⟩
      · rw [← order, List.append_assoc, List.singleton_append]
      · rcases List.mem_append.mp member with old | new
        · exact (executed earlier old).later forward
        · exact List.mem_singleton.mp new ▸ now
  | committing =>
    obtain ⟨sound, forward, full, versioned⟩ := sound.writeVersion known
    exact ⟨sound, ⟨full, versioned⟩, forward⟩
  | connected => exact ⟨sound, known, le_refl _⟩
  | failed error => exact ⟨sound, known, le_refl _⟩
  | locked => exact ⟨sound, known, le_refl _⟩
  | gone => exact ⟨sound, known, le_refl _⟩

/-- A turn of any process. -/
theorem turn_known (act : Act) (file : File) (phase : Phase) (sound : file.Sound)
    (known : Known file phase) :
    (turn act file phase).1.Sound ∧ Known (turn act file phase).1 (turn act file phase).2 ∧
      file ≤ (turn act file phase).1 := by
  cases act with
  | proceeds => exact connect_known sound known
  | locked => exact ⟨sound, known.refused phase, le_refl _⟩
  | dies => exact ⟨sound, trivial, le_refl _⟩
  | executes use isUse change =>
    by_cases connected : phase = .connected
    · subst connected
      obtain ⟨data, columns, declared, fits⟩ := used_columns isUse
      have result : turn (.executes use isUse change) file .connected =
          (file.write use.table change, .connected) := by
        rw [turn, if_pos (known.1.prepares declared fits)]
      have forward : file ≤ file.write use.table change :=
        File.write_later fun same => absurd same data
      rw [result]
      exact ⟨sound.write data change, Known.later .connected forward known, forward⟩
    · rw [turn_executes connected]
      exact ⟨sound, known, le_refl _⟩

/-! ## Every interleaving -/

/-- The processes, from a file that does not exist yet. -/
def opened (moves : List (Move Phase Act)) : Pool File Phase :=
  Runs.run (Pool.step turn) ⟨.empty, []⟩ moves

/-- Every process that joins calls `connect`. -/
def Connecting (moves : List (Move Phase Act)) : Prop :=
  ∀ fresh, .joins fresh ∈ moves → fresh = .start

theorem opened_sound {moves : List (Move Phase Act)} (connecting : Connecting moves) :
    (opened moves).Sound File.Sound Known := by
  have nobody : ∀ phase ∈ ([] : List Phase), Known .empty phase :=
    fun phase member => absurd member List.not_mem_nil
  refine (Pool.Sound.run turn_known (fun _ _ => Known.later) ⟨.empty, nobody⟩ ?_).1
  intro fresh member store _
  rw [connecting fresh member]
  trivial

/-- **However many processes open the database at once, and wherever they die or
meet a lock: no statement raises anything else, a process that is connected finds
the whole schema, and so does whoever finds a version row.** -/
theorem connected_file {moves : List (Move Phase Act)} (connecting : Connecting moves) :
    let pool := opened moves
    (∀ error, .failed error ∉ pool.locals) ∧
      (.connected ∈ pool.locals → pool.store.Full ∧ ∀ use ∈ uses, pool.store.Prepares use) ∧
      (pool.store.Versioned → pool.store.Full) ∧
      ∀ name, ∀ contents ∈ pool.store.tables name,
        .createTable name contents.columns ∈ schemaStatements := by
  intro pool
  have sound := opened_sound connecting
  refine ⟨fun error => sound.known (.failed error), fun member => ?_, sound.store.full,
    fun name contents found => sound.store.declared found⟩
  have full := (sound.known .connected member).1
  refine ⟨full, fun use isUse => ?_⟩
  obtain ⟨-, columns, declared, fits⟩ := used_columns isUse
  exact full.prepares declared fits

/-- Three processes open the database at once: one meets a lock with its first
pragma, and one of the others dies over the schema. -/
theorem connected_file_two :
    let start : List (Move Phase Act) := List.replicate 3 (.joins .start)
    let turns (index count : ℕ) : List (Move Phase Act) :=
      List.replicate count (.takes index .proceeds)
    let moves := start ++ turns 0 8 ++ turns 1 12 ++ [.takes 2 .locked, .takes 0 .dies] ++
      turns 1 15
    (opened moves).locals = [.gone, .connected, .locked] ∧ (opened moves).store.Full := by
  intro start turns moves
  have connecting : Connecting moves := by
    intro fresh member
    simp only [moves, start, turns, List.mem_append, List.mem_replicate, List.mem_cons,
      List.not_mem_nil, or_false, Move.joins.injEq, reduceCtorEq, and_false] at member
    exact member.2
  have phases : (opened moves).locals = [.gone, .connected, .locked] := by decide +kernel
  refine ⟨phases, ((connected_file connecting).2.1 ?_).1⟩
  rw [phases]
  exact List.mem_cons_of_mem _ List.mem_cons_self

/-! ## Getting through -/

/-- The statements that a process still has to execute. -/
def Phase.todo : Phase → ℕ
  | .configuring .journalMode => ddl.length + 7
  | .configuring .synchronous => ddl.length + 6
  | .configuring .foreignKeys => ddl.length + 5
  | .creating => ddl.length + 4
  | .reading => ddl.length + 3
  | .migrating left => left.length + 2
  | .committing => 1
  | .connected => 0
  | .failed _ => 0
  | .locked => 0
  | .gone => 0

/-- The process executes its next statement. -/
def Act.Proceeds : Act → Prop
  | .proceeds => True
  | .executes .. => False
  | .locked => False
  | .dies => False

instance : DecidablePred Act.Proceeds
  | .proceeds => isTrue trivial
  | .executes .. => isFalse id
  | .locked => isFalse id
  | .dies => isFalse id

theorem connect_todo (file : File) (phase : Phase) :
    (connect file phase).2.todo ≤ phase.todo - 1 := by
  cases phase with
  | configuring pragma => cases pragma <;> exact Nat.le_refl _
  | creating =>
    rw [connect]
    cases file.execute schemaVersion with
    | ok next => exact Nat.le_refl _
    | error error => exact Nat.zero_le _
  | reading =>
    rw [connect]
    cases file.tables "schema_version" with
    | none => exact Nat.zero_le _
    | some contents =>
      dsimp only
      split
      · exact Nat.zero_le _
      · exact Nat.le_refl _
  | migrating left =>
    cases left with
    | nil =>
      rw [connect]
      dsimp only
      split
      · exact Nat.le_refl _
      · exact Nat.zero_le _
    | cons statement left =>
      rw [connect]
      cases file.execute statement with
      | ok next => exact Nat.le_of_eq (by simp [Phase.todo])
      | error error => exact Nat.zero_le _
  | committing => exact Nat.le_refl _
  | connected => exact Nat.le_refl _
  | failed error => exact Nat.le_refl _
  | locked => exact Nat.le_refl _
  | gone => exact Nat.le_refl _

theorem Phase.refused_todo (phase : Phase) : phase.refused.todo = 0 := by
  cases phase <;> rfl

theorem turn_todo (act : Act) (file : File) (phase : Phase) :
    (turn act file phase).2.todo ≤ phase.todo := by
  cases act with
  | proceeds => exact (connect_todo file phase).trans (Nat.sub_le ..)
  | locked => exact (Nat.le_of_eq phase.refused_todo).trans (Nat.zero_le _)
  | dies => exact Nat.zero_le _
  | executes use isUse change =>
    by_cases connected : phase = .connected
    · rw [connected, turn]
      split <;> exact Nat.le_refl _
    · rw [turn_executes connected]

/-- The process is not ended by its turn. -/
def Act.Survives : Act → Prop
  | .proceeds => True
  | .executes .. => True
  | .locked => False
  | .dies => False

/-- Only a lock or its death ends a process. -/
def Phase.Alive (phase : Phase) : Prop := phase ≠ .locked ∧ phase ≠ .gone

theorem connect_alive (file : File) {phase : Phase} (alive : phase.Alive) :
    (connect file phase).2.Alive := by
  cases phase with
  | configuring pragma => cases pragma <;> exact ⟨Phase.noConfusion, Phase.noConfusion⟩
  | creating =>
    rw [connect]
    cases file.execute schemaVersion <;> exact ⟨Phase.noConfusion, Phase.noConfusion⟩
  | reading =>
    rw [connect]
    cases file.tables "schema_version" with
    | none => exact ⟨Phase.noConfusion, Phase.noConfusion⟩
    | some contents =>
      dsimp only
      split <;> exact ⟨Phase.noConfusion, Phase.noConfusion⟩
  | migrating left =>
    cases left with
    | nil =>
      rw [connect]
      dsimp only
      split <;> exact ⟨Phase.noConfusion, Phase.noConfusion⟩
    | cons statement left =>
      rw [connect]
      cases file.execute statement <;> exact ⟨Phase.noConfusion, Phase.noConfusion⟩
  | committing => exact ⟨Phase.noConfusion, Phase.noConfusion⟩
  | connected => exact alive
  | failed error => exact alive
  | locked => exact alive
  | gone => exact alive

theorem turn_alive {act : Act} (survives : act.Survives) (file : File) {phase : Phase}
    (alive : phase.Alive) : (turn act file phase).2.Alive := by
  cases act with
  | locked => exact survives.elim
  | dies => exact survives.elim
  | proceeds => exact connect_alive file alive
  | executes use isUse change =>
    by_cases connected : phase = .connected
    · rw [connected, turn]
      split <;> exact ⟨Phase.noConfusion, Phase.noConfusion⟩
    · rw [turn_executes connected]
      exact alive

/-- A process with nothing left to do is connected or has ended. -/
theorem ended_of_todo {file : File} {phase : Phase} (known : Known file phase)
    (done : phase.todo = 0) : phase = .connected ∨ phase = .locked ∨ phase = .gone := by
  cases phase with
  | connected => exact .inl rfl
  | locked => exact .inr (.inl rfl)
  | gone => exact .inr (.inr rfl)
  | failed error => cases known
  | configuring pragma => cases pragma <;> simp [Phase.todo] at done
  | creating => simp [Phase.todo] at done
  | reading => simp [Phase.todo] at done
  | migrating left => simp [Phase.todo] at done
  | committing => simp [Phase.todo] at done

/-- **A process that got so many turns of its own, whatever other processes execute
in between, is connected, unless it met a lock or died.** -/
theorem connect_returns {before later : List (Move Phase Act)}
    (connecting : Connecting (before ++ .joins .start :: later))
    (enough : ddl.length + 7 ≤ later.countP fun move =>
      move.Works Act.Proceeds (opened before).locals.length) :
    let index := (opened before).locals.length
    let phase := (opened (before ++ .joins .start :: later)).locals[index]?
    phase ∈ [some .connected, some .locked, some .gone] ∧
      ((∀ act, .takes index act ∈ later → act.Survives) → phase = some .connected) := by
  intro index phase
  let joined := (opened before).step turn (.joins .start)
  have ran : opened (before ++ .joins .start :: later) =
      Runs.run (Pool.step turn) joined later := by
    rw [opened, Runs.run_append, Runs.run_cons]
    rfl
  have locals : joined.locals = (opened before).locals ++ [.start] := rfl
  have inside : index < joined.locals.length := by simp [locals, index]
  have first : joined.locals[index]? = some .start := by
    rw [locals, List.getElem?_concat_length]
  have start : joined.left Phase.todo index = ddl.length + 7 := by
    rw [Pool.left, first]
    rfl
  have lowered : ∀ act file phase, act.Proceeds →
      (turn act file phase).2.todo ≤ phase.todo - 1 := by
    intro act file phase works
    cases act with
    | proceeds => exact connect_todo file phase
    | executes use isUse change => cases works
    | locked => cases works
    | dies => cases works
  have finished := Pool.left_run_le Act.Proceeds turn_todo lowered inside later
  have there : index < (Runs.run (Pool.step turn) joined later).locals.length :=
    Nat.lt_of_lt_of_le inside (joined.length_locals_run later)
  have found := List.getElem?_eq_getElem there
  rw [start, Pool.left, found, Option.map_some, Option.getD_some] at finished
  set last := (Runs.run (Pool.step turn) joined later).locals[index]
  have same : phase = some last := by
    simp only [phase, ran, found]
  have known := (opened_sound connecting).known last (by
    rw [ran]
    exact List.mem_of_getElem? found)
  have done : last.todo = 0 :=
    Nat.le_zero.mp (finished.trans (Nat.le_of_eq (Nat.sub_eq_zero_of_le enough)))
  rw [same]
  refine ⟨?_, fun survives => ?_⟩
  · rcases ended_of_todo known done with connected | locked | gone
    · simp [connected]
    · simp [locked]
    · simp [gone]
  · have started : Phase.start.Alive := ⟨Phase.noConfusion, Phase.noConfusion⟩
    have alive : last.Alive := Pool.own_run
      (fun _ file _ survives alive => turn_alive survives file alive) first started survives found
    rcases ended_of_todo known done with connected | locked | gone
    · rw [connected]
    · exact absurd locked alive.1
    · exact absurd gone alive.2

/-- A command opens the database while the service creates it. -/
theorem connect_returns_two :
    let before : List (Move Phase Act) := [.joins .start, .takes 0 .proceeds]
    let later : List (Move Phase Act) :=
      (List.replicate 27 [.takes 0 .proceeds, .takes 1 .proceeds]).flatten
    (opened (before ++ .joins .start :: later)).locals[1]? = some .connected := by
  intro before later
  have connecting : Connecting (before ++ .joins .start :: later) := by
    intro fresh member
    simp only [before, later, List.mem_append, List.mem_cons, List.mem_flatten,
      List.mem_replicate, List.not_mem_nil, or_false, Move.joins.injEq, reduceCtorEq]
      at member
    rcases member with same | same | ⟨_, ⟨-, rfl⟩, inside⟩
    · exact same
    · exact same
    · simp at inside
  refine (connect_returns connecting (by decide +kernel)).2 fun act own => ?_
  obtain ⟨pair, twice, member⟩ := List.mem_flatten.mp own
  rw [List.eq_of_mem_replicate twice] at member
  simp only [List.mem_cons, Move.takes.injEq, List.not_mem_nil, or_false] at member
  rcases member with ⟨-, rfl⟩ | ⟨-, rfl⟩
  · trivial
  · trivial

/-! ## The data -/

/-- The move executes no statement on the table. -/
def Spares (table : String) : Move Phase Act → Prop
  | .takes _ (.executes use _ _) => use.table ≠ table
  | _ => True

theorem File.write_other {file : File} {table name : String} (different : name ≠ table)
    (change : List Row → List Row) : (file.write table change).tables name = file.tables name :=
  Function.update_of_ne different ..

theorem File.execute_keeps {file next : File} {name : String} {contents : Contents}
    (found : file.tables name = some contents) {statement : Ddl}
    (success : file.execute statement = .ok next) : next.tables name = some contents := by
  cases statement with
  | createTable table columns =>
    rw [File.execute] at success
    split at success
    · cases success
      exact found
    · rename_i absent
      split at success
      · cases success
      · cases success
        have different : name ≠ table := by
          rintro rfl
          exact absent (found ▸ rfl)
        exact (Function.update_of_ne different ..).trans found
  | createIndex index table column =>
    rw [File.execute] at success
    split at success
    · cases success
    · split at success
      · cases success
      · split at success
        · cases success
          exact found
        · split at success
          · cases success
            exact found
          · cases success

/-- No statement of `connect` touches a data table that is there. -/
theorem connect_keeps {file : File} {name : String} {contents : Contents}
    (data : name ≠ "schema_version") (found : file.tables name = some contents) (phase : Phase) :
    (connect file phase).1.tables name = some contents := by
  cases phase with
  | configuring pragma => cases pragma <;> exact found
  | creating =>
    rw [connect]
    cases success : file.execute schemaVersion with
    | ok next => exact File.execute_keeps found success
    | error error => exact found
  | reading =>
    rw [connect]
    cases file.tables "schema_version" with
    | none => exact found
    | some versions => exact found
  | migrating left =>
    cases left with
    | nil => exact found
    | cons statement left =>
      rw [connect]
      cases success : file.execute statement with
      | ok next => exact File.execute_keeps found success
      | error error => exact found
  | committing =>
    have written : (file.write "schema_version" (· ++ [versionRow])).tables name =
        file.tables name := File.write_other data _
    exact written.trans found
  | connected => exact found
  | failed error => exact found
  | locked => exact found
  | gone => exact found

theorem turn_keeps {file : File} {name : String} {contents : Contents}
    (data : name ≠ "schema_version") (found : file.tables name = some contents) {index : ℕ}
    {act : Act} (spares : Spares name (.takes index act)) (phase : Phase) :
    (turn act file phase).1.tables name = some contents := by
  cases act with
  | proceeds => exact connect_keeps data found phase
  | locked => exact found
  | dies => exact found
  | executes use isUse change =>
    have different : name ≠ use.table := fun same => spares same.symm
    by_cases connected : phase = .connected
    · rw [connected, turn]
      split
      · exact (File.write_other different change).trans found
      · exact found
    · rw [turn_executes connected]
      exact found

/-- **Opening a database, in whatever state its file is and however often, changes
no row of a table that is there.** -/
theorem connects_keep_rows {pool : Pool File Phase} {name : String} {contents : Contents}
    (data : name ≠ "schema_version") (found : pool.store.tables name = some contents)
    {moves : List (Move Phase Act)} (spares : ∀ move ∈ moves, Spares name move) :
    (Runs.run (Pool.step turn) pool moves).store.tables name = some contents := by
  have kept : ∀ (pool : Pool File Phase) (move : Move Phase Act), Spares name move →
      pool.store.tables name = some contents →
      (pool.step turn move).store.tables name = some contents := ?_
  · exact Runs.run_invariant (fun pool : Pool File Phase =>
      pool.store.tables name = some contents) kept found spares
  intro pool move spare found
  cases move with
  | joins fresh => exact found
  | takes index act =>
    rw [Pool.step]
    cases pool.locals[index]? with
    | none => exact found
    | some phase => exact turn_keeps data found spare phase

/-- A start that died over the schema, an event in its table, and the next start. -/
theorem connects_keep_rows_events :
    let file := (opened (.joins .start :: List.replicate 8 (.takes 0 .proceeds))).store
    let event : Row := [("timestamp", .integer 5)]
    let written := file.write "events" fun _ => [event]
    ((Runs.run (Pool.step turn) ⟨written, []⟩
      (.joins .start :: List.replicate 30 (.takes 0 .proceeds))).store.tables "events") =
        some ⟨["id", "timestamp", "session_id", "provider", "event_id", "level", "channel",
          "record_id", "message", "computer", "process_id", "thread_id"], [event]⟩ := by
  intro file event written
  have found : written.tables "events" = some ⟨["id", "timestamp", "session_id", "provider",
      "event_id", "level", "channel", "record_id", "message", "computer", "process_id",
      "thread_id"], [event]⟩ := by decide +kernel
  have spares : ∀ move ∈ (.joins .start :: List.replicate 30 (.takes 0 .proceeds) :
      List (Move Phase Act)), Spares "events" move := by
    intro move member
    rcases List.mem_cons.mp member with rfl | turn
    · trivial
    · rw [List.eq_of_mem_replicate turn]
      trivial
  have start : (⟨written, []⟩ : Pool File Phase).store.tables "events" = _ := found
  exact connects_keep_rows (by decide) start spares

end Migrations

end PcDiagnosticAgent
