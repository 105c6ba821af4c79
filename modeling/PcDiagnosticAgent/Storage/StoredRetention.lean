import PcDiagnosticAgent.PyFloat
import PcDiagnosticAgent.Storage.Refinement
import PcDiagnosticAgent.Storage.Retention

/-!
# Retention behind the database

`prune_metrics` of `storage/retention.py` on cells. The windows come from cells of
any storage class, a text or a blob among the truthy ones costs all windows, and
a timestamp is less than a number only when it is one. A table without expired rows
sees no deletion and no commit. No statement raises here (`UnreadableIncidents` has
the ones that do).

On a store that represents a database this is retention there
(`prune_represents`), and so the disk represents the database after any writes and
prunings (`run_actions_represents`). Times are exact, as in the database.
-/

set_option autoImplicit false

namespace PcDiagnosticAgent

open AutoTables Transactions

namespace Cell

/-- The truth of the value that a cell is read as. -/
def Truthy : Cell → Prop
  | .null => False
  | .integer value => value ≠ 0
  | .real (.finite value) => value ≠ 0
  | .real _ => True
  | .text value => value ≠ []
  | .blob value => value ≠ []

instance (cell : Cell) : Decidable cell.Truthy :=
  match cell with
  | .null => isFalse id
  | .integer _ => inferInstanceAs (Decidable (_ ≠ _))
  | .real (.finite _) => inferInstanceAs (Decidable (_ ≠ _))
  | .real (.infinite _) => isTrue trivial
  | .real .nan => isTrue trivial
  | .text _ => inferInstanceAs (Decidable (_ ≠ _))
  | .blob _ => inferInstanceAs (Decidable (_ ≠ _))

/-- The number in a cell. It is no NaN, which binds as null. -/
def time? : Cell → Option PyFloat
  | .integer value => some (.finite value)
  | .real value => some value
  | _ => none

end Cell

namespace Connection

def cellOf (row : Row) (column : String) : Cell := (row.lookup column).getD .null

/-! ## Retention on cells -/

def shift (seconds : ℚ) : PyFloat → PyFloat
  | .finite value => .finite (value + seconds)
  | time => time

/-- Add seconds to the value of a cell; only a number can be added to. -/
def plus (cell : Cell) (seconds : ℚ) : Except PyError PyFloat :=
  match cell.time? with
  | some time => .ok (shift seconds time)
  | none => .error .other

/-- The window of an incident, if both of its timestamps are truthy. -/
def windowOf (row : Row) : Except PyError (Option (PyFloat × PyFloat)) :=
  let last := cellOf row "last_metric_timestamp"
  let reboot := cellOf row "reboot_timestamp"
  if last.Truthy ∧ reboot.Truthy then do
    let start ← plus last (-3600)
    let stop ← plus reboot 600
    return some (start, stop)
  else return none

/-- The windows of the newest 200 incidents; an error loses them all. -/
def windows (store : Store) : List (PyFloat × PyFloat) :=
  match ((store.rows .incidents).entries.reverse.take 200).mapM fun entry => windowOf entry.row with
  | .ok windows => windows.filterMap id
  | .error _ => []

/-- The condition of the statements: nothing is less than a number but numbers. -/
def Expires (cutoff : PyFloat) (windows : List (PyFloat × PyFloat)) (row : Row) : Bool :=
  match (cellOf row "timestamp").time? with
  | some time =>
    time.lt cutoff && windows.all fun window => !(window.1.le time && time.le window.2)
  | none => false

def deleteFrom (cutoff : PyFloat) (windows : List (PyFloat × PyFloat)) (store : Store)
    (table : MetricTable) : Store :=
  { store with
    rows := Function.update store.rows (.metric table)
      ((store.rows (.metric table)).filter fun row => !Expires cutoff windows row) }

/-- Count the expired rows of a table, and delete them when there are any. -/
def pruneTable (cutoff : PyFloat) (windows : List (PyFloat × PyFloat))
    (connection : Connection Store) (table : MetricTable) : Connection Store :=
  if (connection.working.rows (.metric table)).rows.countP (Expires cutoff windows) = 0 then
    connection
  else
    let working := deleteFrom cutoff windows connection.working table
    { disk := working, working }

def pruneMetrics (connection : Connection Store) (now retentionHours : ℚ) : Connection Store :=
  if retentionHours ≤ 0 then connection
  else
    MetricTable.all.foldl
      (pruneTable (.finite (now - retentionHours * 3600)) (windows connection.working)) connection

/-! ## Cells that mean data -/

theorem time_of_number {cell : Cell} {value : ℚ} (means : cell.datum = some (.number value)) :
    cell.time? = some (.finite value) ∧ (cell.Truthy ↔ value ≠ 0) := by
  cases cell with
  | null => cases means
  | integer number =>
    obtain rfl : (number : ℚ) = value := by simpa [Cell.datum] using means
    exact ⟨rfl, by simp [Cell.Truthy]⟩
  | real number =>
    cases number with
    | finite number =>
      obtain rfl : number = value := by simpa [Cell.datum] using means
      exact ⟨rfl, Iff.rfl⟩
    | infinite negative => cases means
    | nan => cases means
  | text text => cases means
  | blob bytes => cases means

/-- A window of numbers as floats. -/
def lift (window : Epoch × Epoch) : PyFloat × PyFloat := (.finite window.1, .finite window.2)

/-- The cells of an incident give the window that its row gives. -/
theorem windowOf_reads {row : Row} {incident : Entry IncidentRow}
    (reads : Reads row (incidentData incident.row)) :
    ∃ window, windowOf row = .ok window ∧
      window.toList = (Retention.protectedWindows [incident]).map lift := by
  have last := reads "last_metric_timestamp"
  have reboot := reads "reboot_timestamp"
  rw [show incidentData incident.row "last_metric_timestamp" =
    .ofNumber incident.row.lastMetricTimestamp from rfl] at last
  rw [show incidentData incident.row "reboot_timestamp" =
    .ofNumber incident.row.rebootTimestamp from rfl] at reboot
  change (cellOf row "last_metric_timestamp").datum = _ at last
  change (cellOf row "reboot_timestamp").datum = _ at reboot
  rw [windowOf, Retention.protectedWindows]
  simp only [List.filterMap_cons, List.filterMap_nil]
  cases first : incident.row.lastMetricTimestamp with
  | none =>
    rw [first] at last
    refine ⟨none, if_neg ?_, rfl⟩
    rw [Cell.eq_null_of_datum last]
    exact And.left
  | some lastTime =>
    cases second : incident.row.rebootTimestamp with
    | none =>
      rw [second] at reboot
      refine ⟨none, if_neg ?_, rfl⟩
      rw [Cell.eq_null_of_datum reboot]
      exact And.right
    | some rebootTime =>
      rw [first] at last
      rw [second] at reboot
      obtain ⟨lastNumber, lastTruthy⟩ := time_of_number last
      obtain ⟨rebootNumber, rebootTruthy⟩ := time_of_number reboot
      simp only [lastTruthy, rebootTruthy, plus, lastNumber, rebootNumber]
      by_cases set : lastTime ≠ 0 ∧ rebootTime ≠ 0
      · rw [if_pos set, if_pos set]
        refine ⟨_, rfl, ?_⟩
        simp [lift, shift, sub_eq_add_neg]
      · rw [if_neg set, if_neg set]
        exact ⟨none, rfl, rfl⟩

theorem windows_represents {stateText : StateValue → PyStr} {store : Store} {db : Database}
    (represents : Represents stateText store db) :
    windows store = (Retention.protectedWindows (db.listIncidents 200)).map lift := by
  have newest : List.Forall₂ (fun (first : Entry Row) (second : Entry IncidentRow) =>
      first.id = second.id ∧ Reads first.row (incidentData second.row))
      ((store.rows .incidents).entries.reverse.take 200) (db.listIncidents 200) :=
    List.forall₂_take 200 (List.rel_reverse represents.incidents.entries)
  rw [windows]
  generalize (store.rows .incidents).entries.reverse.take 200 = rows at newest ⊢
  have found : ∃ windows, rows.mapM (fun entry => windowOf entry.row) = .ok windows ∧
      windows.filterMap id = (Retention.protectedWindows (db.listIncidents 200)).map lift := by
    generalize db.listIncidents 200 = incidents at newest
    induction newest with
    | nil => exact ⟨[], rfl, rfl⟩
    | @cons row incident rows incidents both _ ih =>
      obtain ⟨window, first, own⟩ := windowOf_reads both.2
      obtain ⟨windows, rest, others⟩ := ih
      have split : Retention.protectedWindows (incident :: incidents) =
          Retention.protectedWindows [incident] ++ Retention.protectedWindows incidents := by
        rw [← List.singleton_append]
        exact List.filterMap_append
      refine ⟨window :: windows, ?_, ?_⟩
      · rw [List.mapM_cons, first, ok_bind, rest]
        rfl
      · rw [split, List.map_append, ← own, ← others]
        cases window <;> rfl
  obtain ⟨windows, collected, same⟩ := found
  rw [collected]
  exact same

theorem lt_finite {first second : ℚ} :
    (PyFloat.finite first).lt (.finite second) = true ↔ first < second := by
  rw [PyFloat.lt_iff, lt_iff_le_not_ge]
  simp [PyFloat.le]

/-- The statements delete the rows that retention deletes. -/
theorem expires_iff {row : Row} {typed : MetricRow} (reads : Reads row (metricData typed))
    (cutoff : Epoch) (windows : List (Epoch × Epoch)) :
    Expires (.finite cutoff) (windows.map lift) row = true ↔
      Retention.Expired cutoff windows typed := by
  have means : (cellOf row "timestamp").datum = some (.number typed.timestamp) :=
    reads "timestamp"
  rw [Expires, (time_of_number means).1]
  simp only [Bool.and_eq_true, lt_finite, List.all_map, List.all_eq_true]
  refine and_congr_right fun _ => forall₂_congr fun window _ => ?_
  simp [lift, PyFloat.le, imp_iff_not_or]

/-- Retention in one table. -/
def pruneRows (db : Database) (cutoff : Epoch) (windows : List (Epoch × Epoch))
    (table : MetricTable) : Database :=
  { db with
    metrics := Function.update db.metrics table
      ((db.metrics table).filter fun row => ¬ Retention.Expired cutoff windows row) }

section Prune

variable {stateText : StateValue → PyStr} {connection : Connection Store} {db : Database}

/-- The expired rows of a table are deleted on both sides. -/
theorem rows_represents {rows : List Row} {typed : List MetricRow}
    (all : List.Forall₂ (fun row typed => Reads row (metricData typed)) rows typed)
    (cutoff : Epoch) (windows : List (Epoch × Epoch)) :
    List.Forall₂ (fun row typed => Reads row (metricData typed))
      (rows.filter fun row => !Expires (.finite cutoff) (windows.map lift) row)
      (typed.filter fun row => ¬ Retention.Expired cutoff windows row) := by
  induction all with
  | nil => exact .nil
  | @cons row given rows rest first _ ih =>
    have same := expires_iff first cutoff windows
    by_cases old : Retention.Expired cutoff windows given
    · rw [List.filter_cons_of_neg (by simpa using same.mpr old),
        List.filter_cons_of_neg (by simpa using old)]
      exact ih
    · rw [List.filter_cons_of_pos (by simpa using mt same.mp old),
        List.filter_cons_of_pos (by simpa using old)]
      exact .cons first ih

theorem pruneTable_represents (settled : connection.disk = connection.working)
    (represents : Represents stateText connection.disk db) (cutoff : Epoch)
    (windows : List (Epoch × Epoch)) (table : MetricTable) :
    let after := pruneTable (.finite cutoff) (windows.map lift) connection table
    after.disk = after.working ∧
      Represents stateText after.disk (pruneRows db cutoff windows table) := by
  have kept := rows_represents (represents.metrics table) cutoff windows
  rw [settled] at represents kept
  simp only [pruneTable]
  split
  · rename_i nothing
    refine ⟨settled, ?_⟩
    have whole : (connection.working.rows (.metric table)).rows.filter
        (fun row => !Expires (.finite cutoff) (windows.map lift) row) =
          (connection.working.rows (.metric table)).rows := by
      refine List.filter_eq_self.mpr fun row member => ?_
      simpa using List.countP_eq_zero.mp nothing row member
    rw [whole] at kept
    rw [settled]
    refine { represents with metrics := fun other => ?_ }
    by_cases same : other = table
    · subst same
      simpa only [pruneRows, Function.update_self] using kept
    · simpa only [pruneRows, Function.update_of_ne same] using represents.metrics other
  · refine ⟨rfl, ?_⟩
    exact
      { sessions := represents.sessions
        events := represents.events
        incidents := represents.incidents
        findings := represents.findings
        metrics := fun other => by
          by_cases same : other = table
          · subst same
            simpa only [deleteFrom, pruneRows, Function.update_self, AutoTable.rows_filter]
              using kept
          · have named : TableName.metric other ≠ .metric table :=
              fun equal => same (TableName.metric.inj equal)
            simpa only [deleteFrom, pruneRows, Function.update_of_ne same,
              Function.update_of_ne named] using represents.metrics other
        heartbeat := represents.heartbeat
        agentState := represents.agentState }

theorem pruneTables_represents (settled : connection.disk = connection.working)
    (represents : Represents stateText connection.disk db) (cutoff : Epoch)
    (windows : List (Epoch × Epoch)) (tables : List MetricTable) :
    let after := tables.foldl (pruneTable (.finite cutoff) (windows.map lift)) connection
    after.disk = after.working ∧
      Represents stateText after.disk
        (tables.foldl (fun db table => pruneRows db cutoff windows table) db) := by
  induction tables generalizing connection db with
  | nil => exact ⟨settled, represents⟩
  | cons table tables ih =>
    obtain ⟨next, after⟩ := pruneTable_represents settled represents cutoff windows table
    exact ih next after

theorem pruneRows_tables (db : Database) (cutoff : Epoch) (windows : List (Epoch × Epoch))
    {tables : List MetricTable} (once : tables.Nodup) :
    tables.foldl (fun db table => pruneRows db cutoff windows table) db =
      { db with
        metrics := fun table =>
          if table ∈ tables then
            (db.metrics table).filter fun row => ¬ Retention.Expired cutoff windows row
          else db.metrics table } := by
  induction tables generalizing db with
  | nil => simp
  | cons first tables ih =>
    obtain ⟨absent, rest⟩ := List.nodup_cons.mp once
    rw [List.foldl_cons, ih _ rest]
    refine congrArg (fun metrics => { db with metrics }) (funext fun table => ?_)
    by_cases same : table = first
    · subst same
      rw [if_neg absent, if_pos List.mem_cons_self]
      exact Function.update_self ..
    · have kept : (pruneRows db cutoff windows first).metrics table = db.metrics table :=
        Function.update_of_ne same ..
      simp only [List.mem_cons, same, false_or, kept]

/-- Table by table is all tables at once. -/
theorem pruneRows_all (db : Database) (cutoff : Epoch) (windows : List (Epoch × Epoch)) :
    MetricTable.all.foldl (fun db table => pruneRows db cutoff windows table) db =
      (Retention.deleteExpired db cutoff windows).1 := by
  rw [pruneRows_tables db cutoff windows (by decide)]
  refine congrArg (fun metrics => { db with metrics }) (funext fun table => if_pos ?_)
  cases table <;> decide

/-- **`prune_metrics` on cells is `prune_metrics` of the database they represent.** -/
theorem prune_represents (settled : connection.disk = connection.working)
    (represents : Represents stateText connection.disk db) (now retentionHours : ℚ) :
    (pruneMetrics connection now retentionHours).disk =
        (pruneMetrics connection now retentionHours).working ∧
      Represents stateText (pruneMetrics connection now retentionHours).disk
        (Retention.pruneMetrics db now retentionHours).1 := by
  rw [pruneMetrics, Retention.pruneMetrics]
  split
  · exact ⟨settled, represents⟩
  · rw [windows_represents (settled ▸ represents), ← pruneRows_all]
    exact pruneTables_represents settled represents ..

/-! ## All that happens to the database -/

/-- A write operation, or retention at a clock reading. -/
inductive Action where
  | write (op : Write)
  | prune (now retentionHours : ℚ)

def Action.run (rendering : Rendering) (connection : Connection Store) :
    Action → Connection Store
  | .write op => (op.run rendering connection).1
  | .prune now retentionHours => pruneMetrics connection now retentionHours

inductive TypedAction where
  | write (op : TypedWrite)
  | prune (now : Epoch) (retentionHours : ℚ)

def TypedAction.apply (db : Database) : TypedAction → Database
  | .write op => op.apply db
  | .prune now retentionHours => (Retention.pruneMetrics db now retentionHours).1

/-- The arguments of the action mean those of a typed action. -/
inductive Does (stateText : StateValue → PyStr) : Action → TypedAction → Prop
  | write {op : Write} {typed : TypedWrite} (carries : Carries stateText op typed) :
      Does stateText (.write op) (.write typed)
  | prune (now retentionHours : ℚ) :
      Does stateText (.prune now retentionHours) (.prune now retentionHours)

/-- **Whatever writes and prunings come in whatever order, the disk represents the
database after the typed ones.** -/
theorem run_actions_represents {rendering : Rendering} (dumps : DumpsTexts rendering)
    {actions : List Action} {typed : List TypedAction}
    (done : List.Forall₂ (Does stateText) actions typed)
    (settled : connection.disk = connection.working)
    (represents : Represents stateText connection.disk db) :
    (Runs.run (Action.run rendering) connection actions).disk =
        (Runs.run (Action.run rendering) connection actions).working ∧
      Represents stateText (Runs.run (Action.run rendering) connection actions).disk
        (Runs.run TypedAction.apply db typed) := by
  induction done generalizing connection db with
  | nil => exact ⟨settled, represents⟩
  | cons first _ ih =>
    cases first with
    | write carries =>
      obtain ⟨next, after, -⟩ := carries.run dumps settled represents
      exact ih next after
    | prune now retentionHours =>
      obtain ⟨next, after⟩ := prune_represents settled represents now retentionHours
      exact ih next after

end Prune

end Connection

end PcDiagnosticAgent
