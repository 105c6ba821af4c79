import PcDiagnosticAgent.Agent.HighCycle
import PcDiagnosticAgent.Agent.Scheduler
import PcDiagnosticAgent.Library.RateLimit

/-!
# Low-frequency cycles that fail

`Scheduler.collect_low` of `agent/scheduler.py` with any collectors that raise,
return nothing or return a dictionary of lists. The collectors are isolated, but the
insertion of what they return is not, and it comes before retention: a cycle in
which a row raises ends there, and its reading of the clock is lost for retention
as well.

So retention runs at the cycles that store their snapshot, as often as its
interval allows, and at no other (`retentions_eq`). A card that raises in every
cycle keeps retention from ever running.

What retention does to the database is left open here, and so is what the event
collector writes.
-/

set_option autoImplicit false

namespace PcDiagnosticAgent

open Connection Dicts HighCycle RateLimits Transactions

namespace LowCycle

/-! ## The cycle -/

/-- What happens in one cycle. The event collector returns nothing and writes to
the database by itself, until a write raises. -/
structure Cycle where
  gpu : Outcome
  temperature : Outcome
  events : List Write
  now : ℚ
  sessionId : ℤ
  retention : Connection Store → Connection Store

/-- The connection, when retention last ran, and all times at which it did. -/
structure State where
  connection : Connection Store
  lastRetention : ℚ
  retentions : List ℚ

def performWrites (rendering : Rendering) (connection : Connection Store) :
    List Write → Connection Store
  | [] => connection
  | write :: writes =>
    let done := write.run rendering connection
    if done.2 then done.1 else performWrites rendering done.1 writes

/-- What the collectors returned; the event collector returns an empty answer. -/
def Cycle.tables (cycle : Cycle) : Tables := snapshot [cycle.gpu, cycle.temperature]

/-- The least time between two runs of retention. -/
def retentionInterval (config : Config) : ℚ := max 300 config.lowFrequencyIntervalSeconds

/-- The snapshot is only inserted when there is one. -/
def insertTables (connection : Connection Store) (cycle : Cycle) :
    Connection Store × Except PyError ℕ :=
  if cycle.tables.entries = [] then (connection, .ok 0)
  else insertSnapshot connection cycle.tables.entries (clock cycle.now) (.int cycle.sessionId)

/-- An error of retention is caught, and retention then counts as run. -/
def collectLow (rendering : Rendering) (config : Config) (state : State) (cycle : Cycle) : State :=
  let inserted := insertTables (performWrites rendering state.connection cycle.events) cycle
  match inserted.2 with
  | .error _ => { state with connection := inserted.1 }
  | .ok _ =>
    if retentionInterval config ≤ cycle.now - state.lastRetention then
      { connection := cycle.retention inserted.1
        lastRetention := cycle.now
        retentions := state.retentions ++ [cycle.now] }
    else { state with connection := inserted.1 }

/-! ## What is stored -/

/-- No row of a known table raises. -/
def Cycle.Stores (cycle : Cycle) : Prop :=
  ∀ table rows, cycle.tables.lookup (MetricTable.name table) = some rows →
    ∀ value ∈ rows, ¬ Raises cycle.now cycle.sessionId table value

theorem Cycle.stores_iff {cycle : Cycle} :
    cycle.Stores ↔ fails (attempts cycle.now cycle.sessionId cycle.tables) = false := by
  rw [← Bool.not_eq_true, fails_attempts_iff]
  constructor
  · rintro stores ⟨table, rows, found, value, member, raises⟩
    exact stores table rows found value member raises
  · intro calm table rows found value member raises
    exact calm ⟨table, rows, found, value, member, raises⟩

instance (cycle : Cycle) : Decidable cycle.Stores := decidable_of_iff _ Cycle.stores_iff.symm

/-- The insertion raises exactly when a row does. -/
theorem insertTables_succeeds_iff {connection : Connection Store} {cycle : Cycle} :
    Succeeds (insertTables connection cycle).2 ↔ cycle.Stores := by
  rw [Cycle.stores_iff, insertTables]
  split
  · rename_i nothing
    have none : attempts cycle.now cycle.sessionId cycle.tables = [] := by
      rw [attempts, nothing]
      rfl
    exact iff_of_true ⟨0, rfl⟩ (by rw [none]; rfl)
  · have raising := (performs_insertTables (clock cycle.now) (.int cycle.sessionId)
      cycle.tables.entries connection).committed.2
    change raised (insertSnapshot _ _ _ _).2 = fails (attempts _ _ _) at raising
    rw [← raising]
    cases (insertSnapshot connection cycle.tables.entries (clock cycle.now)
      (.int cycle.sessionId)).2 with
    | ok count => exact iff_of_true ⟨count, rfl⟩ rfl
    | error error =>
      refine iff_of_false ?_ (by simp [raised])
      rintro ⟨count, done⟩
      cases done

/-! ## Runs -/

/-- The agent at its start. -/
def State.initial (connection : Connection Store) : State := ⟨connection, 0, []⟩

/-- Retention comes after the insertion, in the cycles that store their snapshot when
it is due. -/
theorem collectLow_eq (rendering : Rendering) (config : Config) (state : State) (cycle : Cycle) :
    let inserted := (insertTables (performWrites rendering state.connection cycle.events) cycle).1
    collectLow rendering config state cycle =
      if cycle.Stores ∧ Due (retentionInterval config) state.lastRetention cycle.now then
        { connection := cycle.retention inserted
          lastRetention := cycle.now
          retentions := state.retentions ++ [cycle.now] }
      else { state with connection := inserted } := by
  rw [collectLow]
  generalize performWrites rendering state.connection cycle.events = connection
  have stores := @insertTables_succeeds_iff connection cycle
  cases inserted : (insertTables connection cycle).2 with
  | error error =>
    have failed : ¬ cycle.Stores := by
      rw [← stores, inserted]
      rintro ⟨count, done⟩
      cases done
    exact (if_neg fun both => failed both.1).symm
  | ok count =>
    have stored : cycle.Stores := stores.mp ⟨count, inserted⟩
    by_cases due : Due (retentionInterval config) state.lastRetention cycle.now
    · have runs : retentionInterval config ≤ cycle.now - state.lastRetention := due
      simp only [if_pos runs, stored, due, and_self, if_true]
    · have rests : ¬ retentionInterval config ≤ cycle.now - state.lastRetention := due
      simp only [if_neg rests, due, and_false, if_false]

/-- What a cycle does to the times of retention. -/
theorem collectLow_retention (rendering : Rendering) (config : Config) (state : State)
    (cycle : Cycle) :
    (collectLow rendering config state cycle).lastRetention =
        (if cycle.Stores then advance (retentionInterval config) state.lastRetention cycle.now
          else state.lastRetention) ∧
      (collectLow rendering config state cycle).retentions = state.retentions ++
        if cycle.Stores then taken (retentionInterval config) state.lastRetention [cycle.now]
        else [] := by
  rw [collectLow_eq]
  by_cases stores : cycle.Stores
  · by_cases due : Due (retentionInterval config) state.lastRetention cycle.now
    · rw [if_pos ⟨stores, due⟩, if_pos stores, if_pos stores, advance, if_pos due,
        taken_of_due due, taken_nil]
      exact ⟨rfl, rfl⟩
    · rw [if_neg fun both => due both.2, if_pos stores, if_pos stores, advance, if_neg due,
        taken_of_not_due due, taken_nil, List.append_nil]
      exact ⟨rfl, rfl⟩
  · rw [if_neg fun both => stores both.1, if_neg stores, if_neg stores]
    exact ⟨rfl, (List.append_nil _).symm⟩

/-- From any state on. -/
theorem run_retentions (rendering : Rendering) (config : Config) (state : State)
    (cycles : List Cycle) :
    (Runs.run (collectLow rendering config) state cycles).retentions = state.retentions ++
      taken (retentionInterval config) state.lastRetention
        ((cycles.filter Cycle.Stores).map Cycle.now) := by
  induction cycles generalizing state with
  | nil => exact (List.append_nil _).symm
  | cons cycle cycles ih =>
    obtain ⟨mark, times⟩ := collectLow_retention rendering config state cycle
    rw [Runs.run_cons, ih, mark, times]
    by_cases stores : cycle.Stores
    · rw [if_pos stores, if_pos stores, List.filter_cons, if_pos (decide_eq_true stores),
        List.map_cons, List.append_assoc]
      congr 1
      by_cases due : Due (retentionInterval config) state.lastRetention cycle.now
      · rw [advance, if_pos due, taken_of_due due, taken_of_due due]
        rfl
      · rw [advance, if_neg due, taken_of_not_due due, taken_of_not_due due]
        rfl
    · rw [if_neg stores, if_neg stores, List.append_nil, List.filter_cons,
        if_neg (by simpa using stores)]

/-- **Retention runs at the cycles that store their snapshot, as often as its interval
allows.** -/
theorem retentions_eq (rendering : Rendering) (config : Config) (connection : Connection Store)
    (cycles : List Cycle) :
    (Runs.run (collectLow rendering config) (.initial connection) cycles).retentions =
      taken (retentionInterval config) 0 ((cycles.filter Cycle.Stores).map Cycle.now) :=
  (run_retentions rendering config (.initial connection) cycles).trans (List.nil_append _)

-- a card whose memory needs more than 64 bits, in two cycles an hour apart
example :
    let cycle (now : ℚ) : Cycle :=
      { gpu := answer .gpu [[("memory_total", .int (2 ^ 64))]], temperature := .ok none
        events := [], now, sessionId := 1, retention := id }
    (Runs.run (collectLow ⟨fun _ => none, fun _ => none⟩ {})
      (.initial ⟨emptyStore, emptyStore⟩) [cycle 1000, cycle 4600]).retentions = [] := by
  decide +kernel

end LowCycle

end PcDiagnosticAgent
