import PcDiagnosticAgent.Library.Dict
import PcDiagnosticAgent.Storage.FailedWrite
import Mathlib.Data.List.Perm.Subperm

/-!
# One faulty collector

`Scheduler.collect_high` of `agent/scheduler.py` with any collectors: each
raises, returns nothing or returns a dictionary of lists of arbitrary values for
arbitrary table names; a result that is no such dictionary is left out. The
exception of a collector is caught, but what the collectors return is merged into
one snapshot, and the insertion of the snapshot comes before the heartbeat.

Two faults of one collector reach the others. A value that raises where its row
is built or bound ends the cycle before the commit. A table that a second
collector returns as well replaces the rows of the first. Without these, every
row that binds is stored and the heartbeat is written (`isolated_iff`).

The heartbeat file, which the database knows nothing of, is left out.
-/

set_option autoImplicit false

namespace PcDiagnosticAgent

open AutoTables Transactions Dicts Connection

namespace HighCycle

/-! ## The cycle -/

/-- Lists of values under table names. -/
abbrev Tables := Dict String (List PyValue)

/-- What the call of a collector comes to. -/
abbrev Outcome := Except PyError (Option Tables)

def runIsolated {Result : Type} : Except PyError (Option Result) → Option Result
  | .ok result => result
  | .error _ => none

structure HighOutcomes where
  cpu : Outcome
  memory : Outcome
  disk : Outcome
  processes : Outcome
  uptime : Outcome

/-- The collectors run in this order. -/
def HighOutcomes.inOrder (outcomes : HighOutcomes) : List Outcome :=
  [outcomes.cpu, outcomes.memory, outcomes.disk, outcomes.processes, outcomes.uptime]

/-- One turn of the loop over the collectors; an empty answer counts as none. -/
def addResult (snapshot : Tables) (outcome : Outcome) : Tables :=
  match runIsolated outcome with
  | none => snapshot
  | some result => if result.entries = [] then snapshot else snapshot.update result

def snapshot (outcomes : List Outcome) : Tables := outcomes.foldl addResult .empty

/-- The clock as a value. -/
def clock (now : ℚ) : PyValue := .float (.finite now)

def collectHigh (connection : Connection Store) (outcomes : HighOutcomes) (now : ℚ)
    (sessionId : ℤ) : Connection Store × Except PyError ℕ :=
  let inserted := insertSnapshot connection (snapshot outcomes.inOrder).entries (clock now)
    (.int sessionId)
  match inserted.2 with
  | .error error => (inserted.1, .error error)
  | .ok count =>
    let updated := updateHeartbeat inserted.1 (clock now)
    (updated.1, updated.2.map fun _ => count)

/-! ## What a collector returned -/

/-- The rows a collector returned for a table. -/
def returned (table : MetricTable) (outcome : Outcome) : Option (List PyValue) :=
  (runIsolated outcome).bind fun result => result.lookup table.name

section Rows

variable (now : ℚ) (sessionId : ℤ) (table : MetricTable)

/-- The attempt to store one row of a snapshot. -/
def tried (value : PyValue) : Attempt Change :=
  rowAttempt (.metric table) (snapshotColumns table)
    (snapshotValues table (clock now) (.int sessionId) value)

/-- The value is no dictionary, or the first of its values that does not bind
is refused by an error that is not one of sqlite3. -/
def Raises (value : PyValue) : Prop := fails [tried now sessionId table value] = true

/-- The row that is bound for a value, when it binds. -/
def boundRow (value : PyValue) : Option Row :=
  (snapshotValues table (clock now) (.int sessionId) value >>=
    bindRow (snapshotColumns table) (TableName.metric table).notNull).toOption

/-- The bindable rows a collector returned for a table. -/
def boundRows (outcome : Outcome) : List Row :=
  ((returned table outcome).getD []).filterMap (boundRow now sessionId table)

end Rows

/-! ## Which rows raise -/

section Raising

variable {now : ℚ} {sessionId : ℤ} {table : MetricTable}

/-- The parameters of a row that is a dictionary. -/
def parameters (now : ℚ) (sessionId : ℤ) (table : MetricTable)
    (items : List (PyValue × PyValue)) : List PyValue :=
  [clock now, .int sessionId] ++
    table.columns.map fun column => (PyValue.item? items column).getD .none

theorem snapshotValues_dict (items : List (PyValue × PyValue)) :
    snapshotValues table (clock now) (.int sessionId) (.dict items) =
      .ok (parameters now sessionId table items) := by
  have read : ∀ columns : List String,
      columns.mapM (fun column => PyValue.get (.dict items) column .none) =
        .ok (columns.map fun column => (PyValue.item? items column).getD .none) := by
    intro columns
    induction columns with
    | nil => rfl
    | cons column columns ih =>
      rw [List.mapM_cons, ih]
      rfl
  rw [snapshotValues, read]
  rfl

theorem snapshotValues_not_dict {value : PyValue} (other : ∀ items, value ≠ .dict items) :
    snapshotValues table (clock now) (.int sessionId) value = .error .other := by
  have refused : ∀ column, value.get column .none = .error .other := by
    intro column
    cases value with
    | dict items => exact absurd rfl (other items)
    | _ => rfl
  unfold snapshotValues
  cases table <;> simp only [MetricTable.columns, List.mapM_cons, refused] <;> rfl

/-- **A row raises exactly when it is no dictionary, or the first of its values
that does not bind is an integer outside 64 bits or a text that UTF-8 cannot
encode.** -/
theorem raises_iff {value : PyValue} : Raises now sessionId table value ↔
    (∀ items, value ≠ .dict items) ∨ ∃ items, value = .dict items ∧
      FirstUnbound .other (parameters now sessionId table items) := by
  by_cases dict : ∃ items, value = .dict items
  · obtain ⟨items, rfl⟩ := dict
    have only : ((∀ others, PyValue.dict items ≠ .dict others) ∨ ∃ others,
        PyValue.dict items = .dict others ∧
          FirstUnbound .other (parameters now sessionId table others)) ↔
        FirstUnbound .other (parameters now sessionId table items) := by simp
    rw [only, ← @bindRow_error_iff (snapshotColumns table) (TableName.metric table).notNull _ .other
      (by decide), Raises, tried, snapshotValues_dict, rowAttempt]
    cases bound : bindRow (snapshotColumns table) (TableName.metric table).notNull
      (parameters now sessionId table items) with
    | ok row => exact iff_of_false Bool.false_ne_true fun refused => by cases refused
    | error error =>
      rcases bindRow_error bound with rfl | rfl
      · exact iff_of_false Bool.false_ne_true fun refused => by cases refused
      · exact iff_of_true rfl rfl
  · have other : ∀ items, value ≠ .dict items := fun items same => dict ⟨items, same⟩
    refine iff_of_true ?_ (.inl other)
    rw [Raises, tried, snapshotValues_not_dict other]
    rfl

end Raising

/-! ## Isolation -/

def heartbeatRow (now : ℚ) : Row :=
  [("timestamp", .real (.finite now)), ("updated_at", .real (.finite now))]

/-- The connection with another heartbeat on disk and in sight. -/
def withHeartbeat (connection : Connection Store) (heartbeat : Option Row) : Connection Store where
  disk := { connection.disk with heartbeat }
  working := { connection.working with heartbeat }

/-- On disk the heartbeat is the clock of the cycle, whatever it was before. -/
def Beats (connection : Connection Store) (outcomes : HighOutcomes) (now : ℚ) (sessionId : ℤ) :
    Prop :=
  ∀ heartbeat, (collectHigh (withHeartbeat connection heartbeat) outcomes now
    sessionId).1.disk.heartbeat = some (heartbeatRow now)

/-- On disk there are, after the rows that were there, the bindable rows that
the collectors returned for a table. -/
def Stores (connection : Connection Store) (outcomes : HighOutcomes) (now : ℚ) (sessionId : ℤ)
    (table : MetricTable) : Prop :=
  ∃ added, ((collectHigh connection outcomes now sessionId).1.disk.rows (.metric table)).rows =
      (connection.working.rows (.metric table)).rows ++ added ∧
    (outcomes.inOrder.flatMap (boundRows now sessionId table)).Subperm added

/-- The cycle writes the heartbeat and stores every bindable row of a known
table that some collector returned. -/
def Isolated (connection : Connection Store) (outcomes : HighOutcomes) (now : ℚ)
    (sessionId : ℤ) : Prop :=
  Beats connection outcomes now sessionId ∧
    ∀ table, Stores connection outcomes now sessionId table

/-- The collectors return nothing that reaches further than their own rows. -/
structure Harmless (outcomes : List Outcome) (now : ℚ) (sessionId : ℤ) : Prop where
  /-- A row that raises is in a table that a later collector returns as well. -/
  raises : ∀ table earlier outcome later, outcomes = earlier ++ outcome :: later →
    (∀ other ∈ later, returned table other = none) →
    ∀ value ∈ (returned table outcome).getD [], ¬ Raises now sessionId table value
  /-- A table that a later collector returns as well has no bindable row. -/
  replaces : ∀ table, outcomes.Pairwise fun first second =>
    returned table second ≠ none → boundRows now sessionId table first = []

/-! ## The merged snapshot -/

theorem lookup_addResult (current : Tables) (outcome : Outcome) (table : MetricTable) :
    (addResult current outcome).lookup table.name =
      (returned table outcome).or (current.lookup table.name) := by
  unfold addResult returned
  cases runIsolated outcome with
  | none => rfl
  | some result =>
    simp only [Option.bind_some]
    split
    · rename_i nothing
      simp [Dict.lookup, nothing]
    · exact Dict.lookup_update current result table.name

/-- The snapshot has the rows of the last collector that returned the table. -/
theorem lookup_snapshot (outcomes : List Outcome) (table : MetricTable) :
    (snapshot outcomes).lookup table.name = outcomes.reverse.findSome? (returned table) := by
  have merged : ∀ current : Tables, (outcomes.foldl addResult current).lookup table.name =
      (outcomes.reverse.findSome? (returned table)).or (current.lookup table.name) := by
    induction outcomes with
    | nil => exact fun current => rfl
    | cons outcome outcomes ih =>
      intro current
      rw [List.foldl_cons, ih, lookup_addResult, List.reverse_cons, List.findSome?_append,
        ← Option.or_assoc]
      simp
  rw [snapshot, merged, Dict.lookup_empty, Option.or_none]

/-- Where the snapshot has its rows of a table from. -/
theorem lookup_snapshot_some_iff {outcomes : List Outcome} {table : MetricTable}
    {rows : List PyValue} : (snapshot outcomes).lookup table.name = some rows ↔
      ∃ earlier outcome later, outcomes = earlier ++ outcome :: later ∧
        returned table outcome = some rows ∧ ∀ other ∈ later, returned table other = none := by
  rw [lookup_snapshot, List.findSome?_eq_some_iff]
  constructor
  · rintro ⟨later, outcome, earlier, split, found, none⟩
    refine ⟨earlier.reverse, outcome, later.reverse, ?_, found, fun other member => none other ?_⟩
    · rw [← List.reverse_reverse outcomes, split]
      simp
    · exact List.mem_reverse.mp member
  · rintro ⟨earlier, outcome, later, rfl, found, none⟩
    refine ⟨later.reverse, outcome, earlier.reverse, by simp, found, fun other member => ?_⟩
    exact none other (List.mem_reverse.mp member)

theorem lookup_snapshot_none_iff {outcomes : List Outcome} {table : MetricTable} :
    (snapshot outcomes).lookup table.name = none ↔
      ∀ outcome ∈ outcomes, returned table outcome = none := by
  rw [lookup_snapshot, List.findSome?_eq_none_iff]
  simp only [List.mem_reverse]

/-! ## The insertion of a snapshot -/

/-- The statements that insert a snapshot at a time for a session. -/
def attempts (now : ℚ) (sessionId : ℤ) (tables : Tables) : List (Attempt Change) :=
  snapshotAttempts (clock now) (.int sessionId) tables.entries

theorem name_of_ofName? {name : String} {table : MetricTable}
    (known : MetricTable.ofName? name = some table) : table.name = name := by
  have named := List.find?_some known
  exact of_decide_eq_true named

/-- The insertion raises exactly when some row of a known table does. -/
theorem fails_attempts_iff {now : ℚ} {sessionId : ℤ} {tables : Tables} :
    fails (attempts now sessionId tables) = true ↔
      ∃ table rows, tables.lookup table.name = some rows ∧
        ∃ value ∈ rows, Raises now sessionId table value := by
  rw [fails_iff, attempts, snapshotAttempts, List.mem_flatMap]
  constructor
  · rintro ⟨⟨name, rows⟩, member, raising⟩
    split at raising
    · cases raising
    · rename_i table known
      obtain rfl : table.name = name := name_of_ofName? known
      obtain ⟨value, valueMember, same⟩ := List.mem_map.mp raising
      refine ⟨table, rows, Dict.mem_entries_iff.mp member, value, valueMember, ?_⟩
      exact fails_iff.mpr (List.mem_singleton.mpr same.symm)
  · rintro ⟨table, rows, found, value, member, raises⟩
    refine ⟨(table.name, rows), Dict.mem_entries_iff.mpr found, ?_⟩
    rw [MetricTable.ofName?_name]
    exact List.mem_map.mpr ⟨value, member, (List.mem_singleton.mp (fails_iff.mp raises)).symm⟩

/-- The row that a change adds to a metric table. -/
def addedRow? (table : MetricTable) : Change → Option Row
  | .row (.metric other) row => if other = table then some row else none
  | _ => none

theorem rows_addRow (store : Store) (added table : TableName) (row : Row) :
    ((addRow store added row).rows table).rows =
      (store.rows table).rows ++ if added = table then [row] else [] := by
  by_cases same : added = table
  · subst same
    simp [addRow]
  · simp [addRow, same, Function.update_of_ne (Ne.symm same)]

theorem rows_apply (table : MetricTable) (store : Store) (change : Change) :
    ((change.apply store).rows (.metric table)).rows =
      (store.rows (.metric table)).rows ++ (addedRow? table change).toList := by
  cases change with
  | row added cells =>
    rw [Change.apply, rows_addRow]
    cases added with
    | metric other =>
      by_cases same : other = table
      · simp [addedRow?, same]
      · simp [addedRow?, same]
    | events => simp [addedRow?]
    | sessions => simp [addedRow?]
    | incidents => simp [addedRow?]
    | findings => simp [addedRow?]
  | finding cells => simp [Change.apply, addFinding, rows_addRow, addedRow?]
  | session sessionId cells => simp [Change.apply, setColumns, addedRow?]
  | heartbeat cells => simp [Change.apply, addedRow?]
  | state key cells => simp [Change.apply, addedRow?]

/-- Changes add their rows to a metric table in order. -/
theorem rows_foldl (table : MetricTable) (changes : List Change) (store : Store) :
    ((changes.foldl Change.apply store).rows (.metric table)).rows =
      (store.rows (.metric table)).rows ++ changes.filterMap (addedRow? table) := by
  induction changes generalizing store with
  | nil => simp
  | cons change changes ih =>
    rw [List.foldl_cons, ih, rows_apply, List.append_assoc, List.filterMap_cons]
    cases addedRow? table change <;> rfl

/-- What an attempt to store a row of some table adds to a table. -/
theorem tried_addedRow (now : ℚ) (sessionId : ℤ) (other table : MetricTable) (value : PyValue) :
    (tried now sessionId other value).change?.bind (addedRow? table) =
      if other = table then boundRow now sessionId other value else none := by
  unfold tried rowAttempt boundRow
  cases snapshotValues other (clock now) (.int sessionId) value with
  | error error => exact (ite_self none).symm
  | ok parameters =>
    rw [ok_bind]
    simp only
    cases bindRow (snapshotColumns other) (TableName.metric other).notNull parameters with
    | ok row => rfl
    | error error => cases error <;> exact (ite_self none).symm

/-- A snapshot that does not raise adds the bindable rows of each table. -/
theorem added_attempts {now : ℚ} {sessionId : ℤ} {tables : Tables} (table : MetricTable)
    (completed : fails (attempts now sessionId tables) = false) :
    (stored (attempts now sessionId tables)).filterMap (addedRow? table) =
      ((tables.lookup table.name).getD []).filterMap (boundRow now sessionId table) := by
  rw [stored_of_completed completed, List.filterMap_filterMap, attempts, snapshotAttempts,
    List.filterMap_flatMap, Dict.flatMap_entries tables table.name]
  · cases tables.lookup table.name with
    | none => rfl
    | some rows =>
      simp only [Option.map_some, Option.getD_some, MetricTable.ofName?_name, List.filterMap_map]
      refine List.filterMap_congr fun value _ => ?_
      exact (tried_addedRow now sessionId table table value).trans (if_pos rfl)
  · intro name rows other
    simp only
    split
    · rfl
    · rename_i named known
      have different : named ≠ table := by
        rintro rfl
        exact other (name_of_ofName? known).symm
      refine List.filterMap_eq_nil_iff.mpr fun attempt member => ?_
      obtain ⟨value, -, rfl⟩ := List.mem_map.mp member
      exact (tried_addedRow now sessionId named table value).trans (if_neg different)

/-! ## The cycle on disk -/

theorem bindRow_clock (now : ℚ) : bindRow ["timestamp", "updated_at"] ["timestamp", "updated_at"]
    [clock now, clock now] = .ok (heartbeatRow now) := rfl

section Disk

variable {connection : Connection Store} {outcomes : HighOutcomes} {now : ℚ} {sessionId : ℤ}

/-- A cycle commits its rows and the heartbeat unless the snapshot raises. -/
theorem collectHigh_disk : (collectHigh connection outcomes now sessionId).1.disk =
    if fails (attempts now sessionId (snapshot outcomes.inOrder)) then connection.disk
    else { (stored (attempts now sessionId (snapshot outcomes.inOrder))).foldl Change.apply
        connection.working with heartbeat := some (heartbeatRow now) } := by
  have inserted := (performs_insertTables (clock now) (.int sessionId)
    (snapshot outcomes.inOrder).entries connection).committed
  unfold collectHigh insertSnapshot
  generalize committed _ = done at inserted ⊢
  obtain ⟨after, outcome⟩ := done
  obtain ⟨reached, raising⟩ := inserted
  cases outcome with
  | error error =>
    have failed : fails (attempts now sessionId (snapshot outcomes.inOrder)) = true :=
      raising.symm
    rw [if_pos failed, show after = _ from reached, Operation.run, Operation.completes,
      show fails (snapshotAttempts _ _ _) = true from failed]
    rfl
  | ok count =>
    have completed : fails (attempts now sessionId (snapshot outcomes.inOrder)) = false :=
      raising.symm
    rw [completed, if_neg Bool.false_ne_true]
    simp only [updateHeartbeat, bindRow_clock]
    rw [show after = _ from reached]
    rfl

/-- The heartbeat is written exactly when the snapshot does not raise. -/
theorem beats_iff : Beats connection outcomes now sessionId ↔
    fails (attempts now sessionId (snapshot outcomes.inOrder)) = false := by
  constructor
  · intro beats
    cases failed : fails (attempts now sessionId (snapshot outcomes.inOrder)) with
    | false => rfl
    | true =>
      have lost := beats none
      rw [collectHigh_disk, if_pos failed] at lost
      cases lost
  · intro completed heartbeat
    rw [collectHigh_disk, completed, if_neg Bool.false_ne_true]

theorem stores_iff {table : MetricTable}
    (completed : fails (attempts now sessionId (snapshot outcomes.inOrder)) = false) :
    Stores connection outcomes now sessionId table ↔
      (outcomes.inOrder.flatMap (boundRows now sessionId table)).Subperm
        ((((snapshot outcomes.inOrder).lookup table.name).getD []).filterMap
          (boundRow now sessionId table)) := by
  have disk := @collectHigh_disk connection outcomes now sessionId
  rw [completed, if_neg Bool.false_ne_true] at disk
  have rows := congrArg (fun store : Store => (store.rows (.metric table)).rows) disk
  simp only [rows_foldl, added_attempts table completed] at rows
  constructor
  · rintro ⟨added, stored, collected⟩
    rwa [List.append_cancel_left (rows.symm.trans stored)]
  · exact fun collected => ⟨_, rows, collected⟩

end Disk

/-! ## The rows of all collectors -/

/-- No row of a known table in the snapshot raises exactly when every row that
raises is replaced. -/
theorem completes_iff {outcomes : List Outcome} {now : ℚ} {sessionId : ℤ} :
    fails (attempts now sessionId (snapshot outcomes)) = false ↔
      ∀ table earlier outcome later, outcomes = earlier ++ outcome :: later →
        (∀ other ∈ later, returned table other = none) →
        ∀ value ∈ (returned table outcome).getD [], ¬ Raises now sessionId table value := by
  rw [← Bool.not_eq_true, fails_attempts_iff]
  constructor
  · intro calm table earlier outcome later split last value member raises
    cases found : returned table outcome with
    | none => simp [found] at member
    | some rows =>
      rw [found, Option.getD_some] at member
      have owner := lookup_snapshot_some_iff.mpr ⟨earlier, outcome, later, split, found, last⟩
      exact calm ⟨table, rows, owner, value, member, raises⟩
  · rintro calm ⟨table, rows, found, value, member, raises⟩
    obtain ⟨earlier, outcome, later, split, owner, last⟩ := lookup_snapshot_some_iff.mp found
    refine calm table earlier outcome later split last value ?_ raises
    rwa [owner]

/-- The rows of the snapshot are those of all collectors exactly when what is
replaced has no bindable row. -/
theorem collected_subperm_iff {outcomes : List Outcome} {now : ℚ} {sessionId : ℤ}
    {table : MetricTable} :
    (outcomes.flatMap (boundRows now sessionId table)).Subperm
        ((((snapshot outcomes).lookup table.name).getD []).filterMap
          (boundRow now sessionId table)) ↔
      outcomes.Pairwise fun first second =>
        returned table second ≠ none → boundRows now sessionId table first = [] := by
  cases found : (snapshot outcomes).lookup table.name with
  | none =>
    have nobody := lookup_snapshot_none_iff.mp found
    have nothing : outcomes.flatMap (boundRows now sessionId table) = [] :=
      List.flatMap_eq_nil_iff.mpr fun outcome member => by simp [boundRows, nobody outcome member]
    refine iff_of_true ?_ (List.pairwise_of_forall_mem_list fun first _ second member some => ?_)
    · rw [nothing]
      exact List.nil_subperm
    · exact absurd (nobody second member) some
  | some rows =>
    obtain ⟨earlier, outcome, later, rfl, owner, last⟩ := lookup_snapshot_some_iff.mp found
    have own : rows.filterMap (boundRow now sessionId table) =
        boundRows now sessionId table outcome := by simp [boundRows, owner]
    have after : later.flatMap (boundRows now sessionId table) = [] :=
      List.flatMap_eq_nil_iff.mpr fun other member => by simp [boundRows, last other member]
    rw [Option.getD_some, own, List.flatMap_append, List.flatMap_cons, after, List.append_nil,
      List.pairwise_append, List.pairwise_cons]
    constructor
    · intro collected
      -- there is room for the rows of the last collector only
      have room := collected.length_le
      rw [List.length_append] at room
      have before : earlier.flatMap (boundRows now sessionId table) = [] :=
        List.length_eq_zero_iff.mp (by omega)
      have empty := List.flatMap_eq_nil_iff.mp before
      refine ⟨?_, ⟨fun other member some => absurd (last other member) some, ?_⟩, ?_⟩
      · exact List.pairwise_of_forall_mem_list fun first member _ _ _ => empty first member
      · exact List.pairwise_of_forall_mem_list fun _ _ other member some =>
          absurd (last other member) some
      · exact fun first member _ _ _ => empty first member
    · rintro ⟨-, -, replaced⟩
      have before : earlier.flatMap (boundRows now sessionId table) = [] := by
        refine List.flatMap_eq_nil_iff.mpr fun first member => ?_
        exact replaced first member outcome List.mem_cons_self (by simp [owner])
      rw [before, List.nil_append]

/-! ## The result -/

/-- **A cycle writes the heartbeat and stores what all collectors returned
exactly when no row raises and no bindable row is replaced.** -/
theorem isolated_iff (connection : Connection Store) (outcomes : HighOutcomes) (now : ℚ)
    (sessionId : ℤ) : Isolated connection outcomes now sessionId ↔
      Harmless outcomes.inOrder now sessionId := by
  rw [Isolated, beats_iff]
  constructor
  · rintro ⟨completed, stores⟩
    exact ⟨completes_iff.mp completed, fun table =>
      collected_subperm_iff.mp ((stores_iff completed).mp (stores table))⟩
  · rintro ⟨raises, replaces⟩
    have completed := completes_iff.mpr raises
    exact ⟨completed, fun table =>
      (stores_iff completed).mpr (collected_subperm_iff.mpr (replaces table))⟩

/-! ## One large number -/

/-- The answer of a collector with rows for one table. -/
def answer (table : MetricTable) (rows : List (List (String × PyValue))) : Outcome :=
  .ok (some ⟨[(table.name, rows.map PyValue.ofItems)], List.nodup_singleton _⟩)

/-- A CPU row and an uptime row, and a process with the given memory size. -/
def busyCycle (memory : ℤ) : HighOutcomes where
  cpu := answer .cpu [[("cpu_percent", .float (.finite 12))]]
  memory := .error .other
  disk := .ok none
  processes := answer .process [[("pid", .int 4), ("memory_bytes", .int memory)]]
  uptime := answer .uptime [[("boot_time", .float (.finite 900))]]

/-- A process whose memory size does not fit in 64 bits costs the rows of the
other collectors and the heartbeat. -/
theorem not_isolated_of_overflow :
    ¬ Isolated ⟨emptyStore, emptyStore⟩ (busyCycle (2 ^ 64)) 1000 1 := by
  rintro ⟨beats, -⟩
  have written := beats none
  revert written
  decide +kernel

end HighCycle

end PcDiagnosticAgent
