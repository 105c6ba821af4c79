import PcDiagnosticAgent.Diagnostics.ConfiguredVerdict
import PcDiagnosticAgent.Simulation.Scenarios

/-!
# The simulation harness

`simulation/runner.py`: a scenario is written to a fresh database as one session
with its events, snapshots and heartbeats, and then boot detection and diagnosis
run on it as they do in production, with whatever configuration was loaded.

The seeded database is described table by table. Every sample of the stream is one
row of each metric table that the scenario measures (`metrics_seed`), the
heartbeat is the last of the stream (`heartbeat_seed`), and so the activity that
the engine finds is the stream itself (`activityTimes_seed`).

The report, which is written from the finished result and does not change it, is
left out.
-/

set_option autoImplicit false

namespace PcDiagnosticAgent

open AutoTables EventAnalyzer Scenarios

namespace Simulation

/-! ## The harness -/

/-- `_seed`. -/
def seed (db : Database) (scenario : Scenario) : Database :=
  let (db, prevId) := db.createSession scenario.prevBoot scenario.prevBoot
  let db := db.insertEvents scenario.events prevId
  let db := scenario.snapshots.foldl
    (fun db sample => db.insertSnapshot sample.2 sample.1 prevId) db
  scenario.heartbeats.foldl Database.updateHeartbeat db

structure SimulationResult extends Diagnosis.DiagnosisResult where
  scenario : Scenario
  bootResult : BootResult

def runSimulation (scenarioType : String) (config : RawConfig) :
    Except PyError SimulationResult := do
  let scenario ← getScenario scenarioType
  let db := seed .empty scenario
  let (db, bootResult) := BootDetector.detectBoot db scenario.boot scenario.boot
  let (_, result) ← ConfiguredDiagnosis.runDiagnosis db bootResult.toTransition config true
  return { result with scenario, bootResult }

/-- The expected incident type and confidence of a scenario. -/
def expectedOutcome (scenarioType : String) :
    Except PyError (Option IncidentType × Option Level) := do
  let scenario ← getScenario scenarioType
  return (scenario.expectedType, scenario.expectedConfidence)

/-! ## Writing snapshots -/

/-- The rows that a snapshot adds to a table. -/
def storedRows (table : MetricTable) (sessionId : ℕ) (sample : Epoch × Snapshot) :
    List MetricRow :=
  sample.2.flatMap fun part =>
    if MetricTable.ofName? part.1 = some table then
      part.2.map (Database.snapshotRow table sample.1 sessionId)
    else []

theorem metrics_insertSnapshot (db : Database) (table : MetricTable) (sessionId : ℕ)
    (timestamp : Epoch) (snapshot : Snapshot) :
    (db.insertSnapshot snapshot timestamp sessionId).metrics table =
      db.metrics table ++ storedRows table sessionId (timestamp, snapshot) := by
  induction snapshot generalizing db with
  | nil => exact (List.append_nil _).symm
  | cons part snapshot ih =>
    refine (ih _).trans ?_
    have written : (Database.insertTable timestamp sessionId db part).metrics table =
        db.metrics table ++ if MetricTable.ofName? part.1 = some table then
          part.2.map (Database.snapshotRow table timestamp sessionId) else [] := by
      unfold Database.insertTable
      cases named : MetricTable.ofName? part.1 with
      | none => simp
      | some other =>
        by_cases same : other = table
        · subst same
          simp [Database.addMetrics]
        · simp [Database.addMetrics, same, Function.update_of_ne (Ne.symm same)]
    rw [written, List.append_assoc]
    rfl

theorem metrics_foldl_insertSnapshot (samples : List (Epoch × Snapshot)) (db : Database)
    (table : MetricTable) (sessionId : ℕ) :
    (samples.foldl (fun db sample => db.insertSnapshot sample.2 sample.1 sessionId) db).metrics
        table = db.metrics table ++ samples.flatMap (storedRows table sessionId) := by
  induction samples generalizing db with
  | nil => exact (List.append_nil _).symm
  | cons sample samples ih =>
    rw [List.foldl_cons, ih, metrics_insertSnapshot, List.append_assoc]
    rfl

theorem foldl_insertSnapshot_unchanged {Seen : Type} (observe : Database → Seen)
    (unchanged : ∀ db table rows, observe (Database.addMetrics db table rows) = observe db)
    (samples : List (Epoch × Snapshot)) (db : Database) (sessionId : ℕ) :
    observe (samples.foldl
      (fun db sample => db.insertSnapshot sample.2 sample.1 sessionId) db) = observe db := by
  induction samples generalizing db with
  | nil => rfl
  | cons sample samples ih =>
    rw [List.foldl_cons, ih]
    exact Database.insertSnapshot_unchanged observe unchanged db sample.2 sample.1 sessionId

/-! ## Writing heartbeats -/

theorem foldl_updateHeartbeat_unchanged {Seen : Type} (observe : Database → Seen)
    (unchanged : ∀ db timestamp, observe (Database.updateHeartbeat db timestamp) = observe db)
    (beats : List Epoch) (db : Database) :
    observe (beats.foldl Database.updateHeartbeat db) = observe db := by
  induction beats generalizing db with
  | nil => rfl
  | cons beat beats ih => rw [List.foldl_cons, ih, unchanged]

/-- The last heartbeat stays. -/
theorem heartbeat_foldl_updateHeartbeat (beats : List Epoch) (db : Database) :
    (beats.foldl Database.updateHeartbeat db).heartbeat = beats.getLast?.or db.heartbeat := by
  induction beats generalizing db with
  | nil => rfl
  | cons beat beats ih =>
    rw [List.foldl_cons, ih, List.getLast?_cons]
    cases beats.getLast? <;> rfl

/-! ## The seeded database -/

section Seed

variable (scenario : Scenario)

/-- The seeded events as they are stored. -/
def storedEvents : List EventRow := scenario.events.map (Database.eventRow 1)

theorem latestSession_seed :
    (seed .empty scenario).latestSession =
      some ⟨1, { bootTime := scenario.prevBoot, createdAt := scenario.prevBoot }⟩ := by
  unfold seed Database.latestSession
  rw [foldl_updateHeartbeat_unchanged (fun db => db.sessions.latest) (fun _ _ => rfl),
    foldl_insertSnapshot_unchanged (fun db => db.sessions.latest) (fun _ _ _ => rfl)]
  rfl

theorem events_seed : (seed .empty scenario).events.rows = storedEvents scenario := by
  unfold seed
  rw [foldl_updateHeartbeat_unchanged (fun db => db.events.rows) (fun _ _ => rfl),
    foldl_insertSnapshot_unchanged (fun db => db.events.rows) (fun _ _ _ => rfl)]
  exact (AutoTable.rows_insertAll _ _).trans (List.nil_append _)

/-- **A metric table holds what the samples say about it.** -/
theorem metrics_seed (table : MetricTable) :
    (seed .empty scenario).metrics table =
      scenario.snapshots.flatMap (storedRows table 1) := by
  unfold seed
  rw [foldl_updateHeartbeat_unchanged (fun db => db.metrics table) (fun _ _ => rfl),
    metrics_foldl_insertSnapshot]
  rfl

theorem heartbeat_seed : (seed .empty scenario).heartbeat = scenario.heartbeats.getLast? := by
  unfold seed
  rw [heartbeat_foldl_updateHeartbeat, foldl_insertSnapshot_unchanged Database.heartbeat
    (fun _ _ _ => rfl)]
  exact Option.or_none

end Seed

/-! ## Streamed scenarios -/

/-- The metrics and the heartbeats of a scenario are streams up to one time. -/
def Streamed (scenario : Scenario) : Prop :=
  ∃ stop cpuFn memFn diskFn tempFn,
    scenario.snapshots = metricStream scenario.prevBoot t0 stop cpuFn memFn diskFn tempFn ∧
      scenario.heartbeats = heartbeatStream t0 stop

/-- A table in which every sample has one row, with a number in the column. -/
def Measured (table : MetricTable) (column : String) : Prop :=
  ∀ prevBoot ts cpuPct memPct diskPct tempC, ∃ row,
    storedRows table 1 (ts, metricRows prevBoot ts cpuPct memPct diskPct tempC) = [row] ∧
      row.timestamp = ts ∧ (row.column column).number?.isSome

theorem measured_cpu : Measured .cpu "cpu_percent" := by
  intro prevBoot ts cpuPct memPct diskPct tempC
  exact ⟨_, rfl, rfl, rfl⟩

theorem measured_memory : Measured .memory "memory_percent" := by
  intro prevBoot ts cpuPct memPct diskPct tempC
  exact ⟨_, rfl, rfl, rfl⟩

section Streams

variable {scenario : Scenario} (streamed : Streamed scenario)

include streamed in
theorem samples_streamed : scenario.snapshots.map Prod.fst = scenario.heartbeats := by
  obtain ⟨stop, cpuFn, memFn, diskFn, tempFn, snapshots, heartbeats⟩ := streamed
  rw [snapshots, heartbeats, metricStream_times]

include streamed in
/-- What a sample stores in a measured table. -/
theorem storedRows_sample {table : MetricTable} {column : String}
    (measured : Measured table column) {sample : Epoch × Snapshot}
    (taken : sample ∈ scenario.snapshots) :
    ∃ row, storedRows table 1 sample = [row] ∧ row.timestamp = sample.1 ∧
      (row.column column).number?.isSome := by
  obtain ⟨stop, cpuFn, memFn, diskFn, tempFn, snapshots, -⟩ := streamed
  rw [snapshots, metricStream, SteppingLoop.collect_eq_map] at taken
  obtain ⟨ts, -, rfl⟩ := List.mem_map.mp taken
  exact measured ..

include streamed in
/-- Every heartbeat comes with a row of a measured table. -/
theorem row_of_heartbeat {table : MetricTable} {column : String}
    (measured : Measured table column) {time : Epoch} (beat : time ∈ scenario.heartbeats) :
    ∃ row ∈ (seed .empty scenario).metrics table,
      row.timestamp = time ∧ (row.column column).number?.isSome := by
  rw [← samples_streamed streamed] at beat
  obtain ⟨sample, taken, rfl⟩ := List.mem_map.mp beat
  obtain ⟨row, rows, stamped, number⟩ := storedRows_sample streamed measured taken
  refine ⟨row, ?_, stamped, number⟩
  rw [metrics_seed]
  refine List.mem_flatMap.mpr ⟨sample, taken, ?_⟩
  rw [rows]
  exact List.mem_singleton_self row

/-- Every stored row has the time of a sample. -/
theorem timestamp_mem_samples {table : MetricTable} {row : MetricRow}
    (stored : row ∈ (seed .empty scenario).metrics table) :
    row.timestamp ∈ scenario.snapshots.map Prod.fst := by
  rw [metrics_seed] at stored
  obtain ⟨sample, taken, part⟩ := List.mem_flatMap.mp stored
  obtain ⟨entry, -, member⟩ := List.mem_flatMap.mp part
  split at member
  · obtain ⟨values, -, rfl⟩ := List.mem_map.mp member
    exact List.mem_map_of_mem taken
  · exact (List.not_mem_nil member).elim

include streamed in
/-- **The activity is the stream.** -/
theorem activityTimes_seed :
    Diagnosis.activityTimes (seed .empty scenario) = {time | time ∈ scenario.heartbeats} := by
  ext time
  constructor
  · rintro (⟨table, -, row, stored, rfl⟩ | beat)
    · have sampled : row.timestamp ∈ scenario.snapshots.map Prod.fst :=
        timestamp_mem_samples stored
      rwa [samples_streamed streamed] at sampled
    · have last : scenario.heartbeats.getLast? = some time :=
        (heartbeat_seed scenario).symm.trans beat
      exact List.mem_of_getLast? last
  · intro beat
    obtain ⟨row, stored, stamped, -⟩ := row_of_heartbeat streamed measured_cpu beat
    exact .inl ⟨.cpu, by decide, row, stored, stamped⟩

include streamed in
/-- A measured table has no maximum exactly when no sample lies in the window. -/
theorem maxOf_seed_eq_none_iff {table : MetricTable} {column : String}
    (measured : Measured table column) (start stop : PyFloat) :
    ConfiguredDiagnosis.maxOf (seed .empty scenario) start stop table column = none ↔
      ∀ time ∈ scenario.heartbeats, ConfiguredDiagnosis.within start stop time = false := by
  rw [ConfiguredDiagnosis.maxOf, List.max?_eq_none_iff]
  constructor
  · intro empty time beat
    obtain ⟨row, stored, stamped, number⟩ := row_of_heartbeat streamed measured beat
    by_contra inside
    obtain ⟨value, isNumber⟩ := Option.isSome_iff_exists.mp number
    have found : value ∈ ([] : List ℚ) := by
      rw [← empty]
      refine List.mem_filterMap.mpr ⟨row, List.mem_filter.mpr ⟨stored, ?_⟩, isNumber⟩
      rw [stamped]
      simpa using inside
    exact List.not_mem_nil found
  · intro outside
    refine List.filterMap_eq_nil_iff.mpr fun row kept => ?_
    obtain ⟨stored, inside⟩ := List.mem_filter.mp kept
    have beat : row.timestamp ∈ scenario.heartbeats := by
      rw [← samples_streamed streamed]
      exact timestamp_mem_samples stored
    rw [outside row.timestamp beat] at inside
    cases inside

end Streams

end Simulation

end PcDiagnosticAgent
