import PcDiagnosticAgent.Agent.Config
import PcDiagnosticAgent.Agent.LowCycle
import PcDiagnosticAgent.Storage.StoredRetention

/-!
# How old the metrics get

The low-frequency cycles of a service prune the metrics, but not each of them:
`collect_low` remembers when it last did so, a restart of the service forgets it,
and a cycle whose insertion raises ends before it. A pass of retention that cannot
read the incidents goes on without them, and a table in which a statement raises is
passed over.

Retention is an action with a least distance. After a cycle that stores its
snapshot less than that distance has passed since it last ran, and then it left
nothing older than the retention time outside of the windows around incidents, in
every table that it did not pass over. So after such a cycle, on a clock that is
not set back to before the last pass, a row of one of these tables is older than
the retention time and that distance only if it lies around a stored incident
(`metrics_bounded`).

The runs are those of a connection with its open transaction: cycles may raise and
leave a part of their rows to the next commit, and a restart loses what was not
committed. Events are never deleted.
-/

set_option autoImplicit false

namespace PcDiagnosticAgent

open AutoTables Connection HighCycle LowCycle RateLimits Transactions

namespace RetainedAge

/-! ## Retention that fails -/

/-- What a pass of retention meets: the clock it reads, whether reading the
incidents raises, and the tables in which a statement does. -/
structure Pass where
  clock : ℚ
  listRaises : Bool := false
  raises : MetricTable → Bool := fun _ => false

/-- The windows that the pass goes on with. -/
def Pass.windows (pass : Pass) (store : Store) : List (PyFloat × PyFloat) :=
  if pass.listRaises then [] else Connection.windows store

/-- `prune_metrics`. A table in which a statement raises stays as it is. -/
def prune (retentionHours : ℚ) (pass : Pass) (connection : Connection Store) : Connection Store :=
  if retentionHours ≤ 0 then connection
  else
    (MetricTable.all.filter fun table => !pass.raises table).foldl
      (pruneTable (.finite (pass.clock - retentionHours * 3600))
        (pass.windows connection.working)) connection

/-- Without errors this is `prune_metrics` on cells. -/
theorem prune_of_calm (retentionHours clock : ℚ) (connection : Connection Store) :
    prune retentionHours { clock } connection = pruneMetrics connection clock retentionHours := by
  have all : MetricTable.all.filter (fun _ => !false) = MetricTable.all :=
    List.filter_eq_self.mpr fun _ _ => rfl
  simp only [prune, pruneMetrics, all, Pass.windows, Bool.false_eq_true, if_false]

/-! ## The service -/

/-- The write inserts no metrics. -/
def SparesMetrics : Write → Prop
  | .insertSnapshot .. => False
  | _ => True

/-- What happens in a low-frequency cycle. The writes are those of the event
collector. -/
structure LowInputs where
  gpu : Outcome
  temperature : Outcome
  events : List Write
  spares : ∀ write ∈ events, SparesMetrics write
  now : ℚ
  sessionId : ℤ
  pass : Pass

def LowInputs.cycle (config : Config) (inputs : LowInputs) : Cycle where
  gpu := inputs.gpu
  temperature := inputs.temperature
  events := inputs.events
  now := inputs.now
  sessionId := inputs.sessionId
  retention := prune config.retentionHours inputs.pass

/-- What happens to a service. A restart writes what its analysis writes. -/
inductive Step where
  | high (outcomes : HighOutcomes) (now : ℚ) (sessionId : ℤ)
  | low (inputs : LowInputs)
  | restart (writes : List Write)

/-- A service, with the tables that the last pass of retention passed over. -/
structure Service extends LowCycle.State where
  passedOver : MetricTable → Bool

/-- A service after its analysis; retention has not run yet. -/
def Service.started (connection : Connection Store) : Service where
  toState := .initial connection
  passedOver := fun _ => false

def Service.step (rendering : Rendering) (config : Config) (service : Service) : Step → Service
  | .high outcomes now sessionId =>
    { service with connection := (collectHigh service.connection outcomes now sessionId).1 }
  | .low inputs =>
    let later := collectLow rendering config service.toState (inputs.cycle config)
    { toState := later
      passedOver :=
        if later.retentions = service.retentions then service.passedOver else inputs.pass.raises }
  -- the process ends, and its connection rolls back
  | .restart writes =>
    .started (writes.foldl (fun connection write => (write.run rendering connection).1)
      ⟨service.connection.disk, service.connection.disk⟩)

/-! ## The age of a row -/

/-- The timestamp of the row is a number before the moment. -/
def OlderThan (moment : ℚ) (row : Row) : Prop :=
  ∃ time ∈ (cellOf row "timestamp").time?, time.lt (.finite moment) = true

/-- The row lies in the window of a stored incident. -/
def Around (store : Store) (row : Row) : Prop :=
  ∃ incident ∈ (store.rows .incidents).rows, ∃ window, windowOf incident = .ok (some window) ∧
    ∃ time ∈ (cellOf row "timestamp").time?,
      window.1.le time = true ∧ time.le window.2 = true

/-- The rows of the table that are older than the moment lie around incidents. -/
def Bounded (store : Store) (table : MetricTable) (moment : ℚ) : Prop :=
  ∀ row ∈ (store.rows (.metric table)).rows, OlderThan moment row → Around store row

theorem OlderThan.mono {earlier later : ℚ} (order : earlier ≤ later) {row : Row}
    (old : OlderThan earlier row) : OlderThan later row := by
  obtain ⟨time, stamp, before⟩ := old
  refine ⟨time, stamp, ?_⟩
  cases time with
  | finite value => exact lt_finite.mpr ((lt_finite.mp before).trans_le order)
  | infinite negative =>
    cases negative with
    | true => rfl
    | false => cases before
  | nan => cases before

/-- The row carries the reading of the clock. -/
def StampedAt (now : ℚ) (row : Row) : Prop :=
  cellOf row "timestamp" = .real (.finite now)

theorem StampedAt.not_olderThan {now moment : ℚ} {row : Row} (stamped : StampedAt now row)
    (order : moment ≤ now) : ¬ OlderThan moment row := by
  rintro ⟨time, stamp, before⟩
  rw [stamped] at stamp
  obtain rfl : PyFloat.finite now = time := Option.some.inj stamp
  exact absurd (lt_finite.mp before) (not_lt.mpr order)

/-! ## What is added -/

/-- The metrics come with rows of one reading of the clock, and no incident goes. -/
structure Adds (now : ℚ) (before after : Store) : Prop where
  metrics : ∀ table, ∀ row ∈ (after.rows (.metric table)).rows,
    row ∈ (before.rows (.metric table)).rows ∨ StampedAt now row
  incidents : (before.rows .incidents).rows ⊆ (after.rows .incidents).rows

theorem Adds.refl (now : ℚ) (store : Store) : Adds now store store :=
  ⟨fun _ _ member => .inl member, fun _ member => member⟩

theorem Adds.trans {now : ℚ} {first second third : Store} (before : Adds now first second)
    (after : Adds now second third) : Adds now first third where
  metrics table row member := by
    rcases after.metrics table row member with old | new
    · exact before.metrics table row old
    · exact .inr new
  incidents := fun _ member => after.incidents (before.incidents member)

theorem Around.mono {before after : Store}
    (incidents : (before.rows .incidents).rows ⊆ (after.rows .incidents).rows) {row : Row}
    (around : Around before row) : Around after row := by
  obtain ⟨incident, member, rest⟩ := around
  exact ⟨incident, incidents member, rest⟩

theorem Bounded.adds {now moment : ℚ} {before after : Store} {table : MetricTable}
    (bounded : Bounded before table moment) (order : moment ≤ now) (adds : Adds now before after) :
    Bounded after table moment := by
  intro row member old
  rcases adds.metrics table row member with stored | new
  · exact (bounded row stored old).mono adds.incidents
  · exact absurd old (new.not_olderThan order)

theorem Bounded.mono {store : Store} {table : MetricTable} {earlier later : ℚ}
    (bounded : Bounded store table later) (order : earlier ≤ later) :
    Bounded store table earlier :=
  fun row member old => bounded row member (old.mono order)

/-- Changes take no incident away. -/
theorem incidents_apply (store : Store) (change : Change) :
    (store.rows .incidents).rows ⊆ ((change.apply store).rows .incidents).rows := by
  cases change with
  | row table cells =>
    rw [Change.apply, rows_addRow]
    exact List.subset_append_left _ _
  | finding cells =>
    rw [Change.apply, addFinding, rows_addRow]
    exact List.subset_append_left _ _
  | session sessionId cells => simp [Change.apply, setColumns]
  | heartbeat cells => exact List.Subset.refl _
  | state key cells => exact List.Subset.refl _

theorem adds_foldl {now : ℚ} {changes : List Change}
    (stamped : ∀ change ∈ changes, ∀ table, ∀ row ∈ addedRow? table change, StampedAt now row)
    (store : Store) : Adds now store (changes.foldl Change.apply store) where
  metrics table row member := by
    rw [rows_foldl, List.mem_append] at member
    refine member.imp_right fun new => ?_
    obtain ⟨change, among, added⟩ := List.mem_filterMap.mp new
    exact stamped change among table row added
  incidents := by
    clear stamped
    induction changes generalizing store with
    | nil => exact List.Subset.refl _
    | cons change changes ih => exact List.Subset.trans (incidents_apply store change) (ih _)

/-- The parameters of a row begin with the clock of its cycle. -/
theorem stampedAt_of_bindRow {now : ℚ} {sessionId : PyValue} {columns notNull : List String}
    {values : List PyValue} {row : Row}
    (bound : bindRow ("timestamp" :: columns) notNull (clock now :: sessionId :: values) =
      .ok row) : StampedAt now row := by
  obtain ⟨cells, binds, checked⟩ := bind_ok_iff.mp bound
  rw [List.mapM_cons, bind_ok_iff] at binds
  obtain ⟨first, clocked, rest⟩ := binds
  obtain ⟨others, -, same⟩ := bind_ok_iff.mp rest
  obtain rfl : .real (.finite now) = first := Except.ok.inj clocked
  obtain rfl : Cell.real (.finite now) :: others = cells := Except.ok.inj same
  dsimp only at checked
  split at checked
  · cases checked
  · obtain rfl := Except.ok.inj checked
    rfl

/-- The rows of a snapshot carry the clock of its cycle. -/
theorem stampedAt_attempts {now : ℚ} {sessionId : ℤ} {tables : Tables} :
    ∀ change ∈ stored (attempts now sessionId tables), ∀ table, ∀ row ∈ addedRow? table change,
      StampedAt now row := by
  intro change member table row added
  obtain ⟨⟨name, rows⟩, -, among⟩ := List.mem_flatMap.mp (mem_stored member)
  split at among
  · cases among
  · rename_i known isKnown
    obtain ⟨value, -, stores⟩ := List.mem_map.mp among
    obtain ⟨_, bound, parameters, binds, rfl⟩ := stores_of_rowAttempt stores
    obtain ⟨others, -, same⟩ := bind_ok_iff.mp parameters
    obtain rfl := Except.ok.inj same
    rw [addedRow?] at added
    split at added
    · obtain rfl := Option.some.inj added
      exact stampedAt_of_bindRow binds
    · cases added

/-! ## The writes of a cycle -/

/-- No other write changes a metric table. -/
theorem addedRow_of_spares (rendering : Rendering) {write : Write} (spares : SparesMetrics write)
    {change : Change} (member : change ∈ stored (write.script rendering).attempts)
    (table : MetricTable) : addedRow? table change = none := by
  have among := mem_stored member
  cases write with
  | insertSnapshot snapshot timestamp sessionId => exact spares.elim
  | insertEvents rows sessionId =>
    obtain ⟨row, -, stores⟩ := List.mem_map.mp among
    obtain ⟨_, _, -, -, rfl⟩ := stores_of_rowAttempt stores
    rfl
  | createSession bootTime createdAt =>
    obtain ⟨_, rfl⟩ := stores_of_attempt (List.mem_singleton.mp among).symm
    rfl
  | updateSession sessionId fields =>
    simp only [Write.script] at among
    split at among
    · cases among
    · obtain ⟨_, rfl⟩ := stores_of_attempt (List.mem_singleton.mp among).symm
      rfl
  | createIncident incident findings =>
    rcases List.mem_cons.mp among with stores | later
    · obtain ⟨_, rfl⟩ := stores_of_attempt stores.symm
      rfl
    · obtain ⟨finding, -, stores⟩ := List.mem_map.mp later
      obtain ⟨_, rfl⟩ := stores_of_attempt stores
      rfl
  | updateHeartbeat timestamp =>
    obtain ⟨_, rfl⟩ := stores_of_attempt (List.mem_singleton.mp among).symm
    rfl
  | setState key value now =>
    obtain ⟨_, rfl⟩ := stores_of_attempt (List.mem_singleton.mp among).symm
    rfl

theorem adds_write (now : ℚ) (rendering : Rendering) {write : Write}
    (spares : SparesMetrics write) (connection : Connection Store) :
    Adds now connection.working (write.run rendering connection).1.working := by
  rw [(write.run_eq rendering connection).1]
  refine adds_foldl (fun change member table row added => ?_) connection.working
  rw [addedRow_of_spares rendering spares member table] at added
  cases added

theorem adds_performWrites (now : ℚ) (rendering : Rendering) {writes : List Write}
    (spares : ∀ write ∈ writes, SparesMetrics write) (connection : Connection Store) :
    Adds now connection.working (performWrites rendering connection writes).working := by
  induction writes generalizing connection with
  | nil => exact .refl now _
  | cons write writes ih =>
    obtain ⟨first, rest⟩ := List.forall_mem_cons.mp spares
    have own := adds_write now rendering first connection
    rw [performWrites]
    split
    · exact own
    · exact own.trans (ih rest _)

theorem adds_insertTables (cycle : Cycle) (connection : Connection Store) :
    Adds cycle.now connection.working (insertTables connection cycle).1.working := by
  rw [LowCycle.insertTables]
  split
  · exact .refl _ _
  · have done := (performs_insertTables (clock cycle.now) (.int cycle.sessionId)
      cycle.tables.entries connection).committed.1
    rw [insertSnapshot, done]
    exact adds_foldl stampedAt_attempts connection.working

theorem adds_collectHigh (connection : Connection Store) (outcomes : HighOutcomes) (now : ℚ)
    (sessionId : ℤ) :
    Adds now connection.working (collectHigh connection outcomes now sessionId).1.working := by
  have done := (performs_insertTables (clock now) (.int sessionId)
    (snapshot outcomes.inOrder).entries connection).committed.1
  have inserted : Adds now connection.working (insertSnapshot connection
      (snapshot outcomes.inOrder).entries (clock now) (.int sessionId)).1.working := by
    rw [insertSnapshot, done]
    exact adds_foldl stampedAt_attempts connection.working
  rw [collectHigh]
  dsimp only
  split
  · exact inserted
  · exact inserted.trans (@adds_write now ⟨fun _ => none, fun _ => none⟩
      (.updateHeartbeat (clock now)) trivial _)

/-! ## What retention leaves -/

section Prune

variable {store : Store} {pass : Pass} {cutoff : PyFloat} {windows : List (PyFloat × PyFloat)}

/-- The windows of a pass belong to stored incidents. -/
theorem windowOf_of_mem {window : PyFloat × PyFloat} (member : window ∈ pass.windows store) :
    ∃ incident ∈ (store.rows .incidents).rows, windowOf incident = .ok (some window) := by
  rw [Pass.windows] at member
  split at member
  · cases member
  · rw [Connection.windows] at member
    split at member
    · rename_i gathered done
      obtain ⟨found, among, given⟩ := List.mem_filterMap.mp member
      obtain rfl : found = some window := given
      obtain ⟨entry, newest, same⟩ := exists_of_mem_mapM done among
      have stored := List.mem_reverse.mp (List.mem_of_mem_take newest)
      exact ⟨entry.row, List.mem_map_of_mem stored, same⟩
    · cases member

/-- An old row that retention keeps lies in one of its windows. -/
theorem around_of_not_expires {moment : ℚ} {row : Row}
    (kept : Expires (.finite moment) (pass.windows store) row = false)
    (old : OlderThan moment row) : Around store row := by
  obtain ⟨time, stamp, before⟩ := old
  rw [Expires, Option.mem_def.mp stamp] at kept
  simp only [before, Bool.true_and, List.all_eq_false] at kept
  obtain ⟨window, member, inside⟩ := kept
  obtain ⟨incident, stored, same⟩ := windowOf_of_mem member
  simp only [Bool.not_eq_true, Bool.not_eq_false', Bool.and_eq_true] at inside
  exact ⟨incident, stored, window, same, time, stamp, inside⟩

/-- Pruning a table leaves the others, and its own rows that do not expire. -/
theorem pruneTable_rows (connection : Connection Store) (table other : MetricTable) :
    ((pruneTable cutoff windows connection table).working.rows (.metric other)).rows =
      if other = table then
        (connection.working.rows (.metric other)).rows.filter fun row =>
          !Expires cutoff windows row
      else (connection.working.rows (.metric other)).rows := by
  rw [pruneTable]
  split
  · rename_i none
    split
    · rename_i same
      subst same
      refine (List.filter_eq_self.mpr fun row member => ?_).symm
      simpa using List.countP_eq_zero.mp none row member
    · rfl
  · split
    · rename_i same
      subst same
      simp only [deleteFrom, Function.update_self, AutoTable.rows_filter]
    · rename_i different
      have named : TableName.metric other ≠ .metric table := by simpa using different
      simp only [deleteFrom, Function.update_of_ne named]

theorem pruneTable_incidents (connection : Connection Store) (table : MetricTable) :
    (pruneTable cutoff windows connection table).working.rows .incidents =
      connection.working.rows .incidents := by
  rw [pruneTable]
  split
  · rfl
  · have named : TableName.incidents ≠ .metric table := TableName.noConfusion
    simp only [deleteFrom, Function.update_of_ne named]

theorem pruneTables_rows (connection : Connection Store) (tables : List MetricTable)
    (other : MetricTable) {row : Row}
    (member : row ∈ ((tables.foldl (pruneTable cutoff windows) connection).working.rows
      (.metric other)).rows) :
    row ∈ (connection.working.rows (.metric other)).rows ∧
      (other ∈ tables → Expires cutoff windows row = false) := by
  induction tables generalizing connection with
  | nil => exact ⟨member, fun among => absurd among List.not_mem_nil⟩
  | cons table tables ih =>
    obtain ⟨stored, kept⟩ := ih _ member
    rw [pruneTable_rows] at stored
    split at stored
    · obtain ⟨stored, survives⟩ := List.mem_filter.mp stored
      exact ⟨stored, fun _ => by simpa using survives⟩
    · rename_i different
      exact ⟨stored, fun among => kept ((List.mem_cons.mp among).resolve_left different)⟩

theorem pruneTables_incidents (connection : Connection Store) (tables : List MetricTable) :
    (tables.foldl (pruneTable cutoff windows) connection).working.rows .incidents =
      connection.working.rows .incidents := by
  induction tables generalizing connection with
  | nil => rfl
  | cons table tables ih => exact (ih _).trans (pruneTable_incidents connection table)

end Prune

/-- **A pass of retention leaves no old row outside of the windows in a table that
it does not pass over.** -/
theorem bounded_prune {retentionHours : ℚ} (positive : 0 < retentionHours) {pass : Pass}
    {table : MetricTable} (answered : pass.raises table = false)
    (connection : Connection Store) :
    Bounded (prune retentionHours pass connection).working table
      (pass.clock - retentionHours * 3600) := by
  intro row member old
  rw [prune, if_neg (not_le.mpr positive)] at member ⊢
  obtain ⟨-, survives⟩ := pruneTables_rows connection _ table member
  have among : table ∈ MetricTable.all.filter fun table => !pass.raises table := by
    refine List.mem_filter.mpr ⟨by cases table <;> decide, ?_⟩
    rw [answered]
    rfl
  have around := around_of_not_expires (survives among) old
  refine around.mono ?_
  rw [pruneTables_incidents]
  exact List.Subset.refl _

/-! ## Runs -/

/-- The clock of a cycle is not before the last pass of retention, and a pass reads
a clock that is not before its cycle. -/
def ClockForward (config : Config) (service : Service) : Step → Prop
  | .high _ now _ => service.lastRetention ≤ now
  | .low inputs => service.lastRetention ≤ inputs.now ∧ inputs.now ≤ inputs.pass.clock ∧
      retentionInterval config ≤ inputs.now
  | .restart _ => True

instance (config : Config) (service : Service) (step : Step) :
    Decidable (ClockForward config service step) :=
  match step with
  | .high .. => inferInstanceAs (Decidable (_ ≤ _))
  | .low _ => inferInstanceAs (Decidable (_ ∧ _))
  | .restart _ => isTrue trivial

/-- Retention has not run since the start, or left nothing older than its time in
the tables that it did not pass over. -/
def Pruned (config : Config) (service : Service) : Prop :=
  service.lastRetention = 0 ∨ ∀ table, service.passedOver table = false →
    Bounded service.connection.working table
      (service.lastRetention - config.retentionHours * 3600)

variable {rendering : Rendering} {config : ValidConfig} {service : Service}

/-- What a cycle of low frequency inserts comes before retention. -/
theorem low_inserts (rendering : Rendering) (config : Config) (service : Service)
    (inputs : LowInputs) :
    ∃ inserted : Connection Store,
      Adds inputs.now service.connection.working inserted.working ∧
      collectLow rendering config service.toState (inputs.cycle config) =
        if (inputs.cycle config).Stores ∧
            Due (retentionInterval config) service.lastRetention inputs.now then
          { connection := prune config.retentionHours inputs.pass inserted
            lastRetention := inputs.now
            retentions := service.retentions ++ [inputs.now] }
        else { service.toState with connection := inserted } :=
  ⟨_, (adds_performWrites inputs.now rendering inputs.spares service.connection).trans
    (adds_insertTables (inputs.cycle config) _), collectLow_eq ..⟩

/-- A cycle that raises, or in which retention is not due, only adds. -/
theorem low_adds (inputs : LowInputs)
    (rests : ¬ ((inputs.cycle config.toConfig).Stores ∧
      Due (retentionInterval config.toConfig) service.lastRetention inputs.now)) :
    let later := service.step rendering config.toConfig (.low inputs)
    Adds inputs.now service.connection.working later.connection.working ∧
      later.lastRetention = service.lastRetention ∧ later.passedOver = service.passedOver := by
  obtain ⟨inserted, adds, result⟩ := low_inserts rendering config.toConfig service inputs
  rw [if_neg rests] at result
  simp only [Service.step, result, if_true, and_self, and_true]
  exact adds

/-- A cycle that stores its snapshot when retention is due ends with a pass. -/
theorem low_prunes (inputs : LowInputs) (stores : (inputs.cycle config.toConfig).Stores)
    (due : Due (retentionInterval config.toConfig) service.lastRetention inputs.now) :
    let later := service.step rendering config.toConfig (.low inputs)
    (∃ connection, later.connection = prune config.retentionHours inputs.pass connection) ∧
      later.lastRetention = inputs.now ∧ later.passedOver = inputs.pass.raises := by
  obtain ⟨inserted, -, result⟩ := low_inserts rendering config.toConfig service inputs
  rw [if_pos ⟨stores, due⟩] at result
  have ran : service.retentions ++ [inputs.now] ≠ service.retentions := by simp
  simp only [Service.step, result, if_neg ran, and_self, and_true]
  exact ⟨inserted, rfl⟩

theorem Pruned.low (pruned : Pruned config.toConfig service) {inputs : LowInputs}
    (forward : ClockForward config.toConfig service (.low inputs)) :
    Pruned config.toConfig (service.step rendering config.toConfig (.low inputs)) := by
  obtain ⟨order, clock, -⟩ := forward
  have time : 0 < config.retentionHours * 3600 := mul_pos config.retention_pos (by norm_num)
  by_cases runs : (inputs.cycle config.toConfig).Stores ∧
      Due (retentionInterval config.toConfig) service.lastRetention inputs.now
  · obtain ⟨⟨connection, left⟩, mark, passed⟩ :=
      @low_prunes rendering config service inputs runs.1 runs.2
    refine .inr fun table answered => ?_
    rw [passed] at answered
    rw [left, mark]
    exact (bounded_prune config.retention_pos answered connection).mono (by linarith)
  · obtain ⟨adds, mark, passed⟩ := @low_adds rendering config service inputs runs
    rw [Pruned, mark, passed]
    refine pruned.imp_right fun bounded table answered => ?_
    exact (bounded table answered).adds (by linarith) adds

theorem Pruned.step (pruned : Pruned config.toConfig service) {step : Step}
    (forward : ClockForward config.toConfig service step) :
    Pruned config.toConfig (service.step rendering config.toConfig step) := by
  cases step with
  | high outcomes now sessionId =>
    have order : service.lastRetention ≤ now := forward
    have time : 0 < config.retentionHours * 3600 := mul_pos config.retention_pos (by norm_num)
    refine pruned.imp_right fun bounded table answered => ?_
    exact (bounded table answered).adds (by linarith)
      (adds_collectHigh service.connection outcomes now sessionId)
  | low inputs => exact pruned.low forward
  | restart writes => exact .inl rfl

/-- After a cycle that stores its snapshot, retention ran less than its least
distance ago. -/
theorem low_recent {inputs : LowInputs} (stores : (inputs.cycle config.toConfig).Stores)
    (late : retentionInterval config.toConfig ≤ inputs.now) :
    let later := service.step rendering config.toConfig (.low inputs)
    later.lastRetention ≠ 0 ∧
      inputs.now - later.lastRetention < retentionInterval config.toConfig := by
  intro later
  have positive : 0 < retentionInterval config.toConfig :=
    lt_of_lt_of_le (by norm_num) (le_max_left (300 : ℚ) _)
  have mark : later.lastRetention = advance (retentionInterval config.toConfig)
      service.lastRetention inputs.now :=
    (collectLow_retention rendering config.toConfig service.toState
      (inputs.cycle config.toConfig)).1.trans (if_pos stores)
  rw [mark, advance]
  split
  · rw [sub_self]
    exact ⟨(positive.trans_le late).ne', positive⟩
  · rename_i notDue
    have recent := not_le.mp notDue
    refine ⟨?_, recent⟩
    linarith

/-- **After every low-frequency cycle of a run that stores its snapshot, in every
table that the last pass of retention did not pass over, a row is older than the
retention time and the least distance of retention only if it lies around a stored
incident.** -/
theorem metrics_bounded (rendering : Rendering) (config : ValidConfig)
    (connection : Connection Store) (steps : List Step)
    (forward : Runs.Guarded (Service.step rendering config.toConfig)
      (ClockForward config.toConfig) (.started connection) steps) :
    ∀ done inputs rest, steps = done ++ .low inputs :: rest →
      (inputs.cycle config.toConfig).Stores →
      let later := Runs.run (Service.step rendering config.toConfig) (.started connection)
        (done ++ [.low inputs])
      ∀ table, later.passedOver table = false →
        Bounded later.connection.working table
          (inputs.now - retentionInterval config.toConfig - config.retentionHours * 3600) := by
  intro done inputs rest split stores later table answered
  rw [split, Runs.guarded_append] at forward
  obtain ⟨before, allowed, -⟩ := forward
  have pruned := before.invariant (Pruned config.toConfig) (fun _ _ legal kept => kept.step legal)
    (.inl rfl)
  have last : later = (Runs.run (Service.step rendering config.toConfig) (.started connection)
      done).step rendering config.toConfig (.low inputs) := Runs.run_append ..
  obtain ⟨ran, recent⟩ := @low_recent rendering config _ inputs stores allowed.2.2
  have after := @Pruned.step rendering config _ pruned _ allowed
  rw [← last] at ran recent after
  exact (after.resolve_left ran table answered).mono (by linarith)

/-- A cycle that stores an uptime. -/
def uptimeCycle (now : ℚ) : Step :=
  .high { cpu := .ok none, memory := .ok none, disk := .ok none, processes := .ok none
          uptime := answer .uptime [[("uptime_seconds", .int 10)]] } now 1

/-- A low-frequency cycle with a graphics card of so much memory, which cannot count
the rows of the processors. -/
def cardCycle (memory : ℤ) (now : ℚ) : LowInputs where
  gpu := answer .gpu [[("memory_total", .int memory)]]
  temperature := .ok none
  events := []
  spares := fun _ member => absurd member List.not_mem_nil
  now := now
  sessionId := 1
  pass := { clock := now + 1, raises := fun table => table = .cpu }

/-- Of two uptimes retention deletes the one that is months old, once a cycle stores
its snapshot. -/
theorem metrics_bounded_old_row :
    let done : List Step :=
      [uptimeCycle 1300, .low (cardCycle (2 ^ 64) 1400), uptimeCycle 9000000]
    let later := Runs.run (Service.step ⟨fun _ => none, fun _ => none⟩ ValidConfig.default.toConfig)
      (.started ⟨emptyStore, emptyStore⟩) (done ++ [.low (cardCycle 4096 9000000)])
    (later.connection.working.rows (.metric .uptime)).rows.length = 1 ∧
      ∀ table, later.passedOver table = false →
        Bounded later.connection.working table
          (9000000 - retentionInterval ValidConfig.default.toConfig -
            ValidConfig.default.retentionHours * 3600) := by
  intro done later
  refine ⟨by decide +kernel, ?_⟩
  exact metrics_bounded ⟨fun _ => none, fun _ => none⟩ .default ⟨emptyStore, emptyStore⟩
    (done ++ [.low (cardCycle 4096 9000000)]) (by decide +kernel) done (cardCycle 4096 9000000) []
    rfl (by decide +kernel)

end RetainedAge

end PcDiagnosticAgent
