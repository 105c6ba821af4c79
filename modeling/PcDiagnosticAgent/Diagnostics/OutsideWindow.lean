import PcDiagnosticAgent.Diagnostics.Reads
import PcDiagnosticAgent.Library.Runs

/-!
# Rows outside the incident window

What happened outside the configured minutes around a reboot does not reach the
account of it, unless it tells how the previous session ended or when it was
last active. Adding any number of such rows, in any order, leaves the incident,
the findings and the maxima as they are (`outside_rows_inert`).
-/

set_option autoImplicit false

namespace PcDiagnosticAgent

open AutoTables EventAnalyzer

namespace Diagnosis

/-- One more row in a table that the engine reads. -/
inductive Addition where
  | event (row : EventRow)
  | metric (table : MetricTable) (row : MetricRow)

def Addition.apply (db : Database) : Addition → Database
  | .event row => { db with events := db.events.insert row }
  | .metric table row => db.addMetrics table [row]

/-- The categories that tell how a session ended. -/
def TerminationSignal (category : Category) : Prop :=
  category = .kernelPower ∨ category = .bugcheck ∨ category = .shutdownClean ∨
    category = .shutdownUnexpected

instance (category : Category) : Decidable (TerminationSignal category) :=
  inferInstanceAs (Decidable (_ ∨ _))

/-- The configured times around the reboot. -/
def Around (transition : Transition) (config : Config) (time : Epoch) : Prop :=
  transition.bootTime - config.incidentWindowBeforeMinutes * 60 ≤ time ∧
    time ≤ transition.bootTime + config.incidentWindowAfterMinutes * 60

instance (transition : Transition) (config : Config) (time : Epoch) :
    Decidable (Around transition config time) :=
  inferInstanceAs (Decidable (_ ∧ _))

/-- A row outside the window: an event that is no termination signal, or a
metric row that is not newer than the last activity where its table (CPU, memory,
uptime, processes) counts as activity. -/
def Addition.Outside (db : Database) (transition : Transition) (config : Config) :
    Addition → Prop
  | .event row => ¬ Around transition config row.timestamp ∧
      ¬ TerminationSignal (classifyEvent row)
  | .metric table row => ¬ Around transition config row.timestamp ∧
      (table ∈ [MetricTable.cpu, .memory, .uptime, .process] →
        ∃ last ∈ lastMetricTimestamp db transition.bootTime, row.timestamp ≤ last)

/-! ## One row -/

section Row

variable {db : Database} {transition : Transition} {config : Config}

theorem eventsBetween_insert {start stop : Epoch} {row : EventRow}
    (outside : ¬ (start ≤ row.timestamp ∧ row.timestamp ≤ stop)) :
    Database.eventsBetween { db with events := db.events.insert row } start stop =
      db.eventsBetween start stop := by
  simp only [Database.eventsBetween, AutoTable.rows_insert, List.filter_append,
    List.filter_cons, outside, decide_false, Bool.false_eq_true, if_false, List.filter_nil,
    List.append_nil]

/-- An event of another category does not change which categories occur. -/
theorem holds_insert {start stop : Epoch} {row : EventRow} {category : Category}
    (other : classifyEvent row ≠ category) :
    Holds (Database.eventsBetween { db with events := db.events.insert row } start stop)
        category ↔ Holds (db.eventsBetween start stop) category := by
  simp only [Holds, Database.mem_eventsBetween, AutoTable.rows_insert, List.mem_append,
    List.mem_singleton]
  constructor
  · rintro ⟨event, ⟨stored | rfl, inside⟩, is⟩
    · exact ⟨event, ⟨stored, inside⟩, is⟩
    · exact absurd is other
  · rintro ⟨event, ⟨stored, inside⟩, is⟩
    exact ⟨event, ⟨.inl stored, inside⟩, is⟩

theorem crashSignals_insert {row : EventRow} (noSignal : ¬ TerminationSignal (classifyEvent row)) :
    crashSignals { db with events := db.events.insert row } transition config =
      crashSignals db transition config := by
  have same : ∀ category, TerminationSignal category →
      decide (Holds (transitionEvents { db with events := db.events.insert row } transition
        config) category) = decide (Holds (transitionEvents db transition config) category) :=
    fun category signal => decide_eq_decide.mpr
      (holds_insert fun named => noSignal (named ▸ signal))
  rw [crashSignals_eq, crashSignals_eq, same .bugcheck (by decide),
    same .kernelPower (by decide), same .shutdownUnexpected (by decide)]

theorem maxOf_addMetrics {start stop : Epoch} {row : MetricRow}
    (outside : ¬ (start ≤ row.timestamp ∧ row.timestamp ≤ stop)) (table read : MetricTable)
    (column : String) :
    maxOf (db.addMetrics table [row]) start stop read column =
      maxOf db start stop read column := by
  by_cases same : read = table
  · subst same
    simp only [maxOf, Database.addMetrics, Function.update_self, List.filter_append,
      List.filter_cons, outside, decide_false, Bool.false_eq_true, if_false, List.filter_nil,
      List.append_nil]
  · simp only [maxOf, Database.addMetrics, Function.update_of_ne same]

theorem activityTimes_addMetrics {table : MetricTable} {row : MetricRow} {time : Epoch} :
    time ∈ activityTimes (db.addMetrics table [row]) ↔
      time ∈ activityTimes db ∨ table ∈ activityTables ∧ row.timestamp = time := by
  have rows : ∀ read, ∀ other, other ∈ (db.addMetrics table [row]).metrics read ↔
      other ∈ db.metrics read ∨ read = table ∧ other = row := by
    intro read other
    by_cases same : read = table
    · subst same
      simp [Database.addMetrics]
    · simp [Database.addMetrics, same]
  simp only [activityTimes, metricTimes, Set.mem_union, Set.mem_ofPred_eq, rows]
  constructor
  · rintro (⟨read, active, other, stored | ⟨rfl, rfl⟩, rfl⟩ | beat)
    · exact .inl (.inl ⟨read, active, other, stored, rfl⟩)
    · exact .inr ⟨active, rfl⟩
    · exact .inl (.inr beat)
  · rintro ((⟨read, active, other, stored, rfl⟩ | beat) | ⟨active, rfl⟩)
    · exact .inl ⟨read, active, other, .inl stored, rfl⟩
    · exact .inr beat
    · exact .inl ⟨table, active, row, .inr ⟨rfl, rfl⟩, rfl⟩

/-- Activity that is not newer than the last one is not the last one. -/
theorem lastMetricTimestamp_addMetrics {before : Epoch} {table : MetricTable} {row : MetricRow}
    (old : table ∈ activityTables →
      ∃ last ∈ lastMetricTimestamp db before, row.timestamp ≤ last) :
    lastMetricTimestamp (db.addMetrics table [row]) before = lastMetricTimestamp db before := by
  have greatest := lastMetricTimestamp_greatest (db.addMetrics table [row]) before
  refine OptionalMax.Greatest.unique (OptionalMax.Greatest.of_matched ?_ ?_ greatest)
    (lastMetricTimestamp_greatest db before)
  · rintro time ⟨active, early⟩
    exact ⟨activityTimes_addMetrics.mpr (.inl active), early⟩
  · rintro time ⟨active, early⟩
    rcases activityTimes_addMetrics.mp active with known | ⟨counted, rfl⟩
    · exact ⟨time, ⟨known, early⟩, le_rfl⟩
    · obtain ⟨last, isLast, older⟩ := old counted
      have known := lastMetricTimestamp_greatest db before
      rw [Option.mem_def.mp isLast] at known
      exact ⟨last, known.1, older⟩

end Row

/-! ## Any number of rows -/

/-- A database from which the engine takes the same, with the same incidents
stored. -/
structure Unchanged (db later : Database) (transition : Transition) (config : Config) :
    Prop where
  reads : SameReads later db transition config
  incidents : later.incidents = db.incidents
  findings : later.findings = db.findings

namespace Unchanged

variable {db later : Database} {transition : Transition} {config : Config}

theorem refl (db : Database) (transition : Transition) (config : Config) :
    Unchanged db db transition config where
  reads := ⟨rfl, Alike.refl _, rfl, rfl⟩
  incidents := rfl
  findings := rfl

theorem apply (unchanged : Unchanged db later transition config) {addition : Addition}
    (outside : addition.Outside db transition config) :
    Unchanged db (addition.apply later) transition config := by
  obtain ⟨⟨signals, around, last, maxima⟩, incidents, findings⟩ := unchanged
  cases addition with
  | event row =>
    obtain ⟨away, noSignal⟩ := outside
    have events : incidentEvents (Addition.apply later (.event row)) transition config =
        incidentEvents later transition config := eventsBetween_insert away
    refine ⟨⟨?_, ?_, last, maxima⟩, incidents, findings⟩
    · exact (crashSignals_insert noSignal).trans signals
    · rw [events]
      exact around
  | metric table row =>
    obtain ⟨away, old⟩ := outside
    refine ⟨⟨signals, around, ?_, ?_⟩, incidents, findings⟩
    · rw [← last] at old
      exact (lastMetricTimestamp_addMetrics old).trans last
    · refine Eq.trans ?_ maxima
      simp only [Addition.apply, aggregates, maxOf_addMetrics away]

end Unchanged

/-- **Rows outside the incident window that are neither termination signals nor
newer activity leave the account of the reboot as it is.** -/
theorem outside_rows_inert (db : Database) (transition : Transition) (config : Config)
    (additions : List Addition)
    (outside : ∀ addition ∈ additions, addition.Outside db transition config) (persist : Bool) :
    let later := runDiagnosis (Runs.run Addition.apply db additions) transition config persist
    let before := runDiagnosis db transition config persist
    SameResult later.2 before.2 ∧ later.1.incidents = before.1.incidents ∧
      later.1.findings = before.1.findings := by
  have step : ∀ (later : Database) (addition : Addition),
      addition.Outside db transition config →
      Unchanged db later transition config →
      Unchanged db (addition.apply later) transition config :=
    fun _ _ away unchanged => unchanged.apply away
  have unchanged : Unchanged db (Runs.run Addition.apply db additions) transition config :=
    Runs.run_invariant (Unchanged db · transition config) step
      (Unchanged.refl db transition config) outside
  exact unchanged.reads.runDiagnosis unchanged.incidents unchanged.findings persist

/-- A disk error and a hot sensor, both hours before a power loss. -/
theorem outside_rows_inert_hours_before :
    let db := (BootDetector.oneSession [kernelPower41 90000]).updateHeartbeat 89990
    let disk : EventRow :=
      { timestamp := 50000, provider := some "disk", eventId := some 7, sessionId := 1 }
    let hot : MetricRow :=
      { timestamp := 50000, sessionId := 1, values := [("temperature_c", .number 99)] }
    SameResult
      (runDiagnosis (Runs.run Addition.apply db [.event disk, .metric .temperature hot])
        ⟨90000, some 1000, some 1, some false⟩ {} true).2
      (runDiagnosis db ⟨90000, some 1000, some 1, some false⟩ {} true).2 := by
  intro db disk hot
  refine (outside_rows_inert db ⟨90000, some 1000, some 1, some false⟩ {}
    [.event disk, .metric .temperature hot] ?_ true).1
  refine List.forall_mem_cons.mpr ⟨⟨by decide +kernel, by decide +kernel⟩, ?_⟩
  refine List.forall_mem_cons.mpr ⟨⟨by decide +kernel, fun counted => ?_⟩, by simp⟩
  exact absurd counted (by decide)

end Diagnosis

end PcDiagnosticAgent
