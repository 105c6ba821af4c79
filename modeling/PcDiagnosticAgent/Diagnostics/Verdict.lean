import PcDiagnosticAgent.Diagnostics.Diagnosis

/-!
# The verdict of the engine

What the engine concludes about a transition is a function of which
categories of events its window holds, of the clean flag and of the gap
between the last activity and the reboot. `verdict` states that function as
one table, and `diagnose_verdict` proves that the chain of decisions in
`diagnose` computes it.

The engine reads the events, the metrics and the heartbeat and nothing else
(`diagnose_congr`). The last activity is the latest timestamp before the boot
among the activity tables and the heartbeat
(`lastMetricTimestamp_greatest`).
-/

set_option autoImplicit false

namespace PcDiagnosticAgent

open AutoTables EventAnalyzer

namespace Diagnosis

/-! ## Activity -/

/-- The timestamps of the samples that are activity: CPU, memory, uptime and
processes. -/
def metricTimes (db : Database) : Set Epoch :=
  {time | ∃ table ∈ [MetricTable.cpu, .memory, .uptime, .process],
    ∃ row ∈ db.metrics table, row.timestamp = time}

/-- The times at which the agent is known to have worked: these and the heartbeat. -/
def activityTimes (db : Database) : Set Epoch :=
  metricTimes db ∪ {time | db.heartbeat = some time}

theorem maxTimestampBefore_greatest (db : Database) (before : Epoch) (table : MetricTable) :
    OptionalMax.Greatest
      {time | (∃ row ∈ db.metrics table, row.timestamp = time) ∧ time < before}
      (maxTimestampBefore db before table) := by
  have same : {time | (∃ row ∈ db.metrics table, row.timestamp = time) ∧ time < before} =
      {time | time ∈ ((db.metrics table).map MetricRow.timestamp).filter (· < before)} := by
    ext time
    simp [List.mem_filter, List.mem_map]
  rw [same]
  exact OptionalMax.Greatest.max? _

theorem metricTimes_greatest (db : Database) (before : Epoch) :
    OptionalMax.Greatest (metricTimes db ∩ Set.Iio before)
      (activityTables.foldl (fun best table =>
        OptionalMax.optMax best (maxTimestampBefore db before table)) none) := by
  -- the tables that the engine reads are the four of the specification
  have same : metricTimes db ∩ Set.Iio before = ∅ ∪ {time | ∃ table ∈ activityTables,
      time ∈ {time | (∃ row ∈ db.metrics table, row.timestamp = time) ∧ time < before}} := by
    ext time
    simp only [metricTimes, Set.mem_inter_iff, Set.mem_Iio, Set.mem_union,
      Set.mem_empty_iff_false, Set.mem_ofPred_eq, false_or]
    constructor
    · rintro ⟨⟨table, active, present⟩, early⟩
      exact ⟨table, active, present, early⟩
    · rintro ⟨table, active, present, early⟩
      exact ⟨⟨table, active, present⟩, early⟩
  rw [same]
  exact OptionalMax.Greatest.foldl (maxTimestampBefore_greatest db before) activityTables
    OptionalMax.Greatest.empty

/-- **The last activity is the latest activity before the boot.** -/
theorem lastMetricTimestamp_greatest (db : Database) (before : Epoch) :
    OptionalMax.Greatest (activityTimes db ∩ Set.Iio before) (lastMetricTimestamp db before) := by
  have metrics := metricTimes_greatest db before
  cases beat : db.heartbeat with
  | none =>
    have only : activityTimes db ∩ Set.Iio before = metricTimes db ∩ Set.Iio before := by
      simp [activityTimes, beat]
    rw [only]
    simpa only [lastMetricTimestamp, Database.getHeartbeat, beat] using metrics
  | some heartbeat =>
    have single : {time | some heartbeat = some time} = {heartbeat} := by
      ext time
      simp [eq_comm]
    rw [activityTimes, beat, single, Set.union_inter_distrib_right]
    by_cases early : heartbeat < before
    · have kept : {heartbeat} ∩ Set.Iio before = {heartbeat} := by
        simpa using early
      rw [kept]
      have beaten : OptionalMax.Greatest {heartbeat} (some heartbeat) := isGreatest_singleton
      simpa only [lastMetricTimestamp, Database.getHeartbeat, beat, if_pos early] using
        metrics.optMax beaten
    · have dropped : {heartbeat} ∩ Set.Iio before = ∅ := by
        simpa using early
      rw [dropped, Set.union_empty]
      simpa only [lastMetricTimestamp, Database.getHeartbeat, beat, if_neg early] using metrics

/-! ## Signals -/

/-- The signals say which categories the transition window holds. -/
theorem crashSignals_eq (db : Database) (transition : Transition) (config : Config) :
    crashSignals db transition config =
      { bugcheckDetected := decide (Holds (transitionEvents db transition config) .bugcheck)
        kernelPowerDetected :=
          decide (Holds (transitionEvents db transition config) .kernelPower)
        unexpectedShutdownEvent :=
          decide (Holds (transitionEvents db transition config) .shutdownUnexpected)
        cleanShutdown := transition.previousSessionClean.getD false
        unexpectedShutdown := !transition.previousSessionClean.getD false &&
          (decide (Holds (transitionEvents db transition config) .kernelPower) ||
            decide (Holds (transitionEvents db transition config) .shutdownUnexpected)) } := by
  obtain ⟨-, unexpected, kernelPower, bugcheck⟩ :=
    summarize_flags (transitionEvents db transition config)
  simp only [crashSignals, detectCrash, unexpected, kernelPower, bugcheck]

/-! ## The table -/

/-- What an incident says about the termination. -/
structure Verdict where
  type : IncidentType
  confidence : Level
  duration : Option ℚ
deriving DecidableEq, Repr

/-- The verdict of a gap, when Kernel-Power 41 was logged without a clean
shutdown and without a BugCheck. -/
def gapVerdict (interval : ℕ) : Option ℚ → Verdict
  | none => ⟨.hardHang, .low, none⟩
  | some gap =>
    if (interval : ℚ) * 5 ≤ gap then ⟨.hardHang, .high, some gap⟩
    else if (interval : ℚ) * 2 ≤ gap then ⟨.hardHang, .medium, some gap⟩
    else ⟨.powerLoss, .low, some gap⟩

/-- The verdict of a list of events with a clean flag and a gap. -/
def verdict (events : List EventRow) (clean : Bool) (gap : Option ℚ) (interval : ℕ) :
    Option Verdict :=
  if Holds events .bugcheck then some ⟨.bsod, .high, none⟩
  else if clean then none
  else if Holds events .kernelPower then some (gapVerdict interval gap)
  else if Holds events .shutdownUnexpected then some ⟨.hardHang, .low, gap⟩
  else none

/-- Only the categories that occur decide. -/
theorem verdict_congr {events other : List EventRow}
    (same : ∀ category, Holds events category ↔ Holds other category) (clean : Bool)
    (gap : Option ℚ) (interval : ℕ) :
    verdict events clean gap interval = verdict other clean gap interval := by
  unfold verdict
  simp only [same]

def verdictOf (incident : Incident) : Verdict :=
  ⟨incident.incidentType, incident.confidence, incident.durationEstimate⟩

/-- The verdict in terms of the decision functions. -/
theorem diagnose_verdictOf (db : Database) (transition : Transition) (config : Config) :
    (diagnose db transition config).incident.map verdictOf =
      let crash := crashSignals db transition config
      let inference := inferTermination crash (lastMetricTimestamp db transition.bootTime)
        transition.bootTime config.collectionIntervalSeconds
      if crash.unexpectedShutdown || crash.bugcheckDetected then
        some ⟨incidentType inference crash, incidentConfidence inference crash
          (buildFindings (summarize (incidentEvents db transition config))
            (aggregates db (transition.bootTime - config.incidentWindowBeforeMinutes * 60)
              (transition.bootTime + config.incidentWindowAfterMinutes * 60))
            inference config), inference.hangGapSeconds⟩
      else none := by
  simp only [diagnose]
  split <;> rfl

/-- **The engine computes the table.** -/
theorem diagnose_verdict (db : Database) (transition : Transition) (config : Config) :
    (diagnose db transition config).incident.map verdictOf =
      verdict (transitionEvents db transition config)
        (transition.previousSessionClean.getD false)
        (activityGap (lastMetricTimestamp db transition.bootTime) transition.bootTime)
        config.collectionIntervalSeconds := by
  rw [diagnose_verdictOf, crashSignals_eq]
  generalize lastMetricTimestamp db transition.bootTime = last
  generalize transition.previousSessionClean.getD false = clean
  by_cases bugcheck : Holds (transitionEvents db transition config) .bugcheck
  · cases clean <;>
      simp [verdict, bugcheck, incidentType, incidentConfidence, inferTermination]
  cases clean with
  | true => simp [verdict, bugcheck]
  | false =>
    by_cases kernelPower : Holds (transitionEvents db transition config) .kernelPower
    · -- the gap decides
      simp only [inferTermination_kernelPower, bugcheck, kernelPower, decide_true, decide_false,
        Bool.not_false, Bool.true_or, Bool.and_true, if_true, verdict, if_false,
        Bool.false_eq_true, gapVerdict]
      cases activityGap last transition.bootTime with
      | none => rfl
      | some gap =>
        simp only
        split
        · rfl
        · split <;> rfl
    · by_cases unexpected : Holds (transitionEvents db transition config) .shutdownUnexpected
      · simp only [inferTermination_unexpectedOnly, bugcheck, kernelPower, unexpected,
          decide_true, decide_false, Bool.not_false, Bool.false_or, Bool.and_true, Bool.true_or,
          if_true, verdict, if_false, Bool.false_eq_true]
        rfl
      · simp [verdict, bugcheck, kernelPower, unexpected]

/-! ### The type -/

/-- The last activity is less than two intervals before the boot. -/
def shortGap (interval : ℕ) (gap : Option ℚ) : Bool := gap.any (· < (interval : ℚ) * 2)

/-- The type of the verdict. -/
def verdictType (events : List EventRow) (clean short : Bool) : Option IncidentType :=
  if Holds events .bugcheck then some .bsod
  else if clean then none
  else if Holds events .kernelPower then some (if short then .powerLoss else .hardHang)
  else if Holds events .shutdownUnexpected then some .hardHang
  else none

theorem gapVerdict_type (interval : ℕ) (gap : Option ℚ) :
    (gapVerdict interval gap).type = if shortGap interval gap then .powerLoss else .hardHang := by
  have nonneg : (0 : ℚ) ≤ interval := Nat.cast_nonneg _
  cases gap with
  | none => rfl
  | some gap =>
    simp only [gapVerdict, shortGap, Option.any_some, decide_eq_true_eq]
    split
    · rename_i long
      have notShort : ¬ gap < (interval : ℚ) * 2 := by linarith
      rw [if_neg notShort]
    · split
      · rename_i middle
        rw [if_neg (not_lt.mpr middle)]
      · rename_i short
        rw [if_pos (not_le.mp short)]

theorem verdict_type (events : List EventRow) (clean : Bool) (gap : Option ℚ) (interval : ℕ) :
    (verdict events clean gap interval).map Verdict.type =
      verdictType events clean (shortGap interval gap) := by
  unfold verdict verdictType
  split
  · rfl
  · split
    · rfl
    · split
      · rw [Option.map_some, gapVerdict_type]
      · split <;> rfl

theorem diagnose_type (db : Database) (transition : Transition) (config : Config) :
    (diagnose db transition config).incident.map Incident.incidentType =
      verdictType (transitionEvents db transition config)
        (transition.previousSessionClean.getD false)
        (shortGap config.collectionIntervalSeconds
          (activityGap (lastMetricTimestamp db transition.bootTime) transition.bootTime)) := by
  rw [← verdict_type, ← diagnose_verdict, Option.map_map]
  rfl

/-- An unknown clean flag counts as unclean. -/
theorem getD_false_iff {clean : Option Bool} : clean.getD false = true ↔ clean = some true := by
  cases clean <;> simp

/-- An incident follows exactly when a BugCheck was logged, or Kernel-Power 41
or 6008 without a clean flag. -/
theorem diagnose_isSome_iff (db : Database) (transition : Transition) (config : Config) :
    (diagnose db transition config).incident.isSome ↔
      Holds (transitionEvents db transition config) .bugcheck ∨
        transition.previousSessionClean ≠ some true ∧
          (Holds (transitionEvents db transition config) .kernelPower ∨
            Holds (transitionEvents db transition config) .shutdownUnexpected) := by
  have table := congrArg Option.isSome (diagnose_verdict db transition config)
  rw [Option.isSome_map] at table
  rw [table, ne_eq, ← getD_false_iff]
  unfold verdict
  split_ifs <;> simp_all

/-! ## What the engine reads -/

/-- The last activity is read from the metrics and the heartbeat. -/
theorem lastMetricTimestamp_congr {db other : Database} (metrics : db.metrics = other.metrics)
    (heartbeat : db.heartbeat = other.heartbeat) (before : Epoch) :
    lastMetricTimestamp db before = lastMetricTimestamp other before := by
  simp only [lastMetricTimestamp, maxTimestampBefore, Database.getHeartbeat, metrics, heartbeat]

/-- The engine reads the events, the metrics and the heartbeat only. -/
theorem diagnose_congr {db other : Database} (events : db.events = other.events)
    (metrics : db.metrics = other.metrics) (heartbeat : db.heartbeat = other.heartbeat)
    (transition : Transition) (config : Config) :
    diagnose db transition config = diagnose other transition config := by
  have windows : db.eventsBetween = other.eventsBetween := by
    funext start stop
    exact Database.eventsBetween_congr events start stop
  have last : lastMetricTimestamp db = lastMetricTimestamp other := by
    funext before
    exact lastMetricTimestamp_congr metrics heartbeat before
  have maxima : aggregates db = aggregates other := by
    funext start stop
    simp only [aggregates, maxOf, metrics]
  have signals : crashSignals db transition config = crashSignals other transition config := by
    simp only [crashSignals, transitionEvents, windows]
  have around : incidentEvents db transition config = incidentEvents other transition config := by
    simp only [incidentEvents, windows]
  unfold diagnose
  rw [signals, around, last, maxima]

/-! ## Persisting -/

/-- A result without the id the database gave to its incident. -/
def DiagnosisResult.withoutId (result : DiagnosisResult) : DiagnosisResult :=
  { result with incident := result.incident.map ({ · with incidentId := none }) }

theorem diagnose_incidentId {db : Database} {transition : Transition} {config : Config}
    {incident : Incident} (found : (diagnose db transition config).incident = some incident) :
    incident.incidentId = none := by
  simp only [diagnose] at found
  split at found
  · rw [← Option.some.inj found]
  · cases found

/-- Persisting changes nothing in the result but the id. -/
theorem runDiagnosis_withoutId (db : Database) (transition : Transition) (config : Config)
    (persist : Bool) :
    (runDiagnosis db transition config persist).2.withoutId = diagnose db transition config := by
  have id := @diagnose_incidentId db transition config
  simp only [runDiagnosis]
  generalize diagnose db transition config = result at id ⊢
  obtain ⟨incident, findings, summary, aggregates, inference⟩ := result
  cases incident with
  | none => rfl
  | some incident =>
    have fresh : incident.incidentId = none := id rfl
    have same : { incident with incidentId := none } = incident := by rw [← fresh]
    simp only
    split <;> simp only [DiagnosisResult.withoutId, Option.map_some, same]

/-- What `run_diagnosis` reports about the termination. -/
def reported (db : Database) (transition : Transition) (config : Config) (persist : Bool) :
    Option Verdict :=
  (runDiagnosis db transition config persist).2.incident.map verdictOf

/-- **`run_diagnosis` reports the verdict of the table.** -/
theorem reported_eq (db : Database) (transition : Transition) (config : Config)
    (persist : Bool) :
    reported db transition config persist =
      verdict (transitionEvents db transition config)
        (transition.previousSessionClean.getD false)
        (activityGap (lastMetricTimestamp db transition.bootTime) transition.bootTime)
        config.collectionIntervalSeconds := by
  rw [← diagnose_verdict, ← runDiagnosis_withoutId db transition config persist]
  simp only [reported, DiagnosisResult.withoutId, Option.map_map]
  rfl

theorem runDiagnosis_isSome (db : Database) (transition : Transition) (config : Config)
    (persist : Bool) :
    (runDiagnosis db transition config persist).2.incident.isSome =
      (diagnose db transition config).incident.isSome := by
  rw [← runDiagnosis_withoutId db transition config persist]
  simp only [DiagnosisResult.withoutId, Option.isSome_map]

/-- Without persisting the result is the diagnosis itself. -/
theorem runDiagnosis_dry (db : Database) (transition : Transition) (config : Config) :
    runDiagnosis db transition config false = (db, diagnose db transition config) := by
  simp only [runDiagnosis, Bool.false_and, Bool.false_eq_true, if_false]
  split <;> rfl

/-- The stored incidents after a diagnosis. -/
theorem runDiagnosis_incidents (db : Database) (transition : Transition) (config : Config)
    (persist : Bool) :
    (runDiagnosis db transition config persist).1.incidents =
      match (diagnose db transition config).incident with
      | none => db.incidents
      | some incident =>
        if persist && !incidentExists db transition.previousSessionId transition.bootTime then
          db.incidents.insert (Database.incidentRow incident)
        else db.incidents := by
  simp only [runDiagnosis]
  cases (diagnose db transition config).incident with
  | none => rfl
  | some incident =>
    simp only
    split <;> rfl

/-- The types of the stored incidents after a diagnosis. -/
theorem runDiagnosis_storedTypes (db : Database) (transition : Transition) (config : Config) :
    (runDiagnosis db transition config true).1.incidents.rows.map IncidentRow.incidentType =
      db.incidents.rows.map IncidentRow.incidentType ++
        if incidentExists db transition.previousSessionId transition.bootTime then []
        else ((diagnose db transition config).incident.map Incident.incidentType).toList.map
          some := by
  rw [runDiagnosis_incidents]
  cases found : (diagnose db transition config).incident with
  | none => simp
  | some incident =>
    by_cases stored : incidentExists db transition.previousSessionId transition.bootTime
    · simp [stored]
    · simp [stored, AutoTable.rows_insert, Database.incidentRow]

/-- A reported incident that is not stored yet is stored as one more row. -/
theorem runDiagnosis_raises {db : Database} {transition : Transition} {config : Config}
    (reported : (diagnose db transition config).incident.isSome)
    (absent : incidentExists db transition.previousSessionId transition.bootTime = false) :
    (runDiagnosis db transition config true).1.incidents.entries.length =
      db.incidents.entries.length + 1 := by
  obtain ⟨incident, found⟩ := Option.isSome_iff_exists.mp reported
  rw [runDiagnosis_incidents, found]
  simp [absent]

/-- Otherwise the incidents stay as they are. -/
theorem runDiagnosis_keeps {db : Database} {transition : Transition} {config : Config}
    (other : ¬ ((diagnose db transition config).incident.isSome ∧
      incidentExists db transition.previousSessionId transition.bootTime = false)) :
    (runDiagnosis db transition config true).1.incidents = db.incidents := by
  rw [runDiagnosis_incidents]
  split
  · rfl
  · rename_i incident found
    rw [found] at other
    have stored : incidentExists db transition.previousSessionId transition.bootTime = true := by
      simpa using other
    simp [stored]

/-- A new row of the incidents is the row of the diagnosed incident. -/
theorem runDiagnosis_stored {db : Database} {transition : Transition} {config : Config}
    {persist : Bool} {entry : Entry IncidentRow}
    (member : entry ∈ (runDiagnosis db transition config persist).1.incidents.entries)
    (fresh : entry ∉ db.incidents.entries) :
    ∃ incident, (diagnose db transition config).incident = some incident ∧
      entry.row = Database.incidentRow incident := by
  rw [runDiagnosis_incidents] at member
  split at member
  · exact absurd member fresh
  · rename_i incident found
    split at member
    · rcases List.mem_append.mp member with old | new
      · exact absurd old fresh
      · exact ⟨incident, found, congrArg Entry.row (List.mem_singleton.mp new)⟩
    · exact absurd member fresh

/-- The diagnosis writes incidents and findings only. -/
theorem runDiagnosis_unchanged {Seen : Type} (observe : Database → Seen)
    (unchanged : ∀ db incident findings,
      observe (Database.createIncident db incident findings).1 = observe db)
    (db : Database) (transition : Transition) (config : Config) (persist : Bool) :
    observe (runDiagnosis db transition config persist).1 = observe db := by
  simp only [runDiagnosis]
  split
  · rfl
  · split
    · exact unchanged ..
    · rfl

@[simp] theorem runDiagnosis_sessions (db : Database) (transition : Transition)
    (config : Config) (persist : Bool) :
    (runDiagnosis db transition config persist).1.sessions = db.sessions :=
  runDiagnosis_unchanged (·.sessions) (fun _ _ _ => rfl) db transition config persist

@[simp] theorem runDiagnosis_events (db : Database) (transition : Transition)
    (config : Config) (persist : Bool) :
    (runDiagnosis db transition config persist).1.events = db.events :=
  runDiagnosis_unchanged (·.events) (fun _ _ _ => rfl) db transition config persist

@[simp] theorem runDiagnosis_metrics (db : Database) (transition : Transition)
    (config : Config) (persist : Bool) :
    (runDiagnosis db transition config persist).1.metrics = db.metrics :=
  runDiagnosis_unchanged (·.metrics) (fun _ _ _ => rfl) db transition config persist

@[simp] theorem runDiagnosis_heartbeat (db : Database) (transition : Transition)
    (config : Config) (persist : Bool) :
    (runDiagnosis db transition config persist).1.heartbeat = db.heartbeat :=
  runDiagnosis_unchanged (·.heartbeat) (fun _ _ _ => rfl) db transition config persist

end Diagnosis

end PcDiagnosticAgent
