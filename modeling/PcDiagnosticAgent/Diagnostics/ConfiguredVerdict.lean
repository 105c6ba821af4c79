import PcDiagnosticAgent.Diagnostics.ConfiguredDiagnosis
import PcDiagnosticAgent.Diagnostics.Verdict

/-!
# The verdict with any configuration

What an engine with whatever values were loaded reports about the termination,
and when it reports anything. The interval is the only value that decides about
the verdict (`diagnose_verdict`); the windows and the thresholds decide about the
findings, and whether an exception comes first (`diagnose_succeeds_iff`). A
threshold that is no number is harmless as long as no maximum is compared with
it.
-/

set_option autoImplicit false

namespace PcDiagnosticAgent

open AutoTables EventAnalyzer

namespace ConfiguredDiagnosis

open Diagnosis (Verdict verdictOf)

/-! ## The interval -/

/-- The interval counts as the given number of seconds. -/
structure Counts (config : RawConfig) (seconds : ℕ) : Prop where
  five : config.collectionIntervalSeconds.times 5 = .ok (.finite (seconds * 5))
  two : config.collectionIntervalSeconds.times 2 = .ok (.finite (seconds * 2))

/-- No product with an allowed interval is rounded. -/
theorem mul_allowed : ∀ seconds ∈ allowedIntervals, ∀ factor ∈ [(5 : ℤ), 2],
    (PyFloat.finite seconds).mul (.finite factor) = .finite (seconds * factor) := by
  decide +kernel

theorem times_allowed {value : PyValue} {seconds : ℕ} (allowed : seconds ∈ allowedIntervals)
    (number : value.number? = some (.finite seconds)) {factor : ℤ}
    (used : factor ∈ [(5 : ℤ), 2]) :
    value.times factor = .ok (.finite (seconds * factor)) := by
  cases value with
  | bool flag =>
    -- a truth value is at most one
    have large : ∀ seconds ∈ allowedIntervals, 1 < seconds := by decide
    have beyond : (1 : ℚ) < seconds := by exact_mod_cast large seconds allowed
    have same : (if flag then (1 : ℚ) else 0) = seconds :=
      PyFloat.finite.inj (Option.some.inj number)
    split at same <;> linarith
  | int integer =>
    have same : (integer : ℚ) = seconds := PyFloat.finite.inj (Option.some.inj number)
    simp only [PyValue.times, PyValue.integer?, same]
  | float value =>
    obtain rfl : value = .finite seconds := Option.some.inj number
    exact congrArg Except.ok (mul_allowed seconds allowed factor used)
  | _ => cases number

/-- An allowed interval counts as its seconds, also where it is a float. -/
theorem Counts.of_allowed {config : RawConfig} {seconds : ℕ}
    (allowed : seconds ∈ allowedIntervals)
    (number : config.collectionIntervalSeconds.number? = some (.finite seconds)) :
    Counts config seconds where
  five := by exact_mod_cast @times_allowed _ _ allowed number 5 (by decide)
  two := by exact_mod_cast @times_allowed _ _ allowed number 2 (by decide)

/-! ## The verdict of a result -/

theorem resultOf_verdict (transition : Transition) (summary : Summary) (crash : CrashSignals)
    (last : Option Epoch) (maxima : Diagnosis.Aggregates) (inference : TerminationInference)
    (findings : List Finding) :
    (resultOf transition summary crash last maxima inference findings).incident.map verdictOf =
      if crash.unexpectedShutdown || crash.bugcheckDetected then
        some ⟨Diagnosis.incidentType inference crash,
          Diagnosis.incidentConfidence inference crash findings, inference.hangGapSeconds⟩
      else none := by
  unfold resultOf
  split <;> rfl

/-- Where there is an incident, the inference has decided about its confidence. -/
theorem incidentConfidence_findings {summary : Summary} {clean : Option Bool}
    (warranted : ((detectCrash summary clean).unexpectedShutdown ||
      (detectCrash summary clean).bugcheckDetected) = true)
    (last : Option Epoch) (reboot : Epoch) (seconds : ℕ) (first second : List Finding) :
    let crash := detectCrash summary clean
    let inference := PcDiagnosticAgent.inferTermination crash last reboot seconds
    Diagnosis.incidentConfidence inference crash first =
      Diagnosis.incidentConfidence inference crash second := by
  intro crash inference
  by_cases bugcheck : crash.bugcheckDetected = true
  · simp only [Diagnosis.incidentConfidence, bugcheck, if_true]
  · have noBugcheck : crash.bugcheckDetected = false := by simpa using bugcheck
    have unexpected : crash.unexpectedShutdown = true := by
      simpa [crash, noBugcheck] using warranted
    have unclean : crash.cleanShutdown = false := by
      simp only [crash, detectCrash, Bool.and_eq_true, Bool.not_eq_true'] at unexpected
      exact unexpected.1
    have decided : (inference.probableHardHang || inference.probablePowerLoss) = true :=
      inferTermination_decides last reboot seconds unclean noBugcheck unexpected
    simp only [Diagnosis.incidentConfidence, decided, if_true]

/-! ## Exceptions -/

/-- Every maximum there is has a number to be compared with. -/
structure Comparable (config : RawConfig) (maxima : Diagnosis.Aggregates) : Prop where
  temperature : maxima.maxTemperature = none ∨ config.temperatureCriticalCelsius.number?.isSome
  memory : maxima.maxMemoryPercent = none ∨ config.memoryWarningPercent.number?.isSome
  cpu : maxima.maxCpuPercent = none ∨ config.cpuWarningPercent.number?.isSome

theorem buildFindings_succeeds_iff (summary : Summary) (maxima : Diagnosis.Aggregates)
    (inference : TerminationInference) (config : RawConfig) :
    Succeeds (buildFindings summary maxima inference config) ↔ Comparable config maxima := by
  unfold buildFindings
  simp only [Succeeds.bind_iff]
  constructor
  · rintro ⟨thermal, first, memory, second, cpu, third, -⟩
    exact ⟨(reached_succeeds_iff ..).mp ⟨_, first⟩, (reached_succeeds_iff ..).mp ⟨_, second⟩,
      (reached_succeeds_iff ..).mp ⟨_, third⟩⟩
  · rintro ⟨temperature, memory, cpu⟩
    obtain ⟨thermal, first⟩ := (reached_succeeds_iff _ _ _).mpr temperature
    obtain ⟨pressure, second⟩ := (reached_succeeds_iff _ _ _).mpr memory
    obtain ⟨load, third⟩ := (reached_succeeds_iff _ _ _).mpr cpu
    exact ⟨thermal, first, pressure, second, load, third, _, rfl⟩

/-! ## The engine -/

/-- A transition whose previous boot is known and whose end is not rounded. -/
structure Bounded (transition : Transition) (previous : Epoch) : Prop where
  start : transition.previousBootTime = some previous
  stop : (PyFloat.finite transition.bootTime).add (.finite 120) =
    .finite (transition.bootTime + 120)

section Engine

variable {db : Database} {transition : Transition} {config : RawConfig} {seconds : ℕ}
  {previous : Epoch} (counts : Counts config seconds) (bounded : Bounded transition previous)

/-- The events that decide about the transition. -/
abbrev deciding (db : Database) (transition : Transition) (previous : Epoch) : List EventRow :=
  db.eventsBetween previous (transition.bootTime + 120)

include counts bounded in
/-- What is left of the engine: the windows and the findings. -/
theorem diagnose_eq :
    diagnose db transition config = do
      let windowStart ← incidentStart transition config
      let windowEnd ← incidentEnd transition config
      let summary := summarize (eventsBetween db windowStart windowEnd)
      let crash := detectCrash (summarize (deciding db transition previous))
        transition.previousSessionClean
      let last := Diagnosis.lastMetricTimestamp db transition.bootTime
      let maxima := aggregates db windowStart windowEnd
      let inference := PcDiagnosticAgent.inferTermination crash last transition.bootTime seconds
      let findings ← buildFindings summary maxima inference config
      return resultOf transition summary crash last maxima inference findings := by
  simp only [diagnose, transitionStart, bounded.start, bounded.stop, ok_bind,
    eventsBetween_finite, inferTermination_of_times counts.five counts.two]

include counts bounded in
/-- **Whatever the other values are, the verdict is the one of the table.** -/
theorem diagnose_verdict {result : Diagnosis.DiagnosisResult}
    (computed : diagnose db transition config = .ok result) :
    result.incident.map verdictOf =
      Diagnosis.verdict (deciding db transition previous)
        (transition.previousSessionClean.getD false)
        (activityGap (Diagnosis.lastMetricTimestamp db transition.bootTime) transition.bootTime)
        seconds := by
  let plain : Config := { collectionIntervalSeconds := seconds }
  have table := Diagnosis.diagnose_verdict db transition plain
  have window : Diagnosis.transitionEvents db transition plain =
      deciding db transition previous := by
    simp only [Diagnosis.transitionEvents, Diagnosis.transitionStart, bounded.start,
      Option.getD_some]
  rw [window, Diagnosis.diagnose_verdictOf, Diagnosis.crashSignals, window] at table
  rw [← table]
  simp only [diagnose_eq counts bounded, bind_ok_iff] at computed
  obtain ⟨windowStart, -, windowEnd, -, findings, -, same⟩ := computed
  obtain rfl := Except.ok.inj same
  rw [resultOf_verdict]
  split
  · rename_i warranted
    rw [if_pos warranted, incidentConfidence_findings warranted]
  · rename_i unwarranted
    rw [if_neg unwarranted]

include counts bounded in
/-- **The diagnosis returns when the windows become floats and no maximum is
compared with something that is no number.** -/
theorem diagnose_succeeds_iff :
    Succeeds (diagnose db transition config) ↔
      ∃ windowStart windowEnd, incidentStart transition config = .ok windowStart ∧
        incidentEnd transition config = .ok windowEnd ∧
        Comparable config (aggregates db windowStart windowEnd) := by
  rw [diagnose_eq counts bounded]
  simp only [Succeeds.bind_iff]
  constructor
  · rintro ⟨windowStart, opened, windowEnd, closed, findings, found, -⟩
    exact ⟨windowStart, windowEnd, opened, closed,
      (buildFindings_succeeds_iff ..).mp ⟨findings, found⟩⟩
  · rintro ⟨windowStart, windowEnd, opened, closed, comparable⟩
    obtain ⟨findings, found⟩ := (buildFindings_succeeds_iff _ _ _ _).mpr comparable
    exact ⟨windowStart, opened, windowEnd, closed, findings, found, _, rfl⟩

end Engine

/-- Persisting neither raises nor changes the verdict. -/
theorem runDiagnosis_shows_iff {db : Database} {transition : Transition} {config : RawConfig}
    {persist : Bool} {shown : Option Verdict} :
    (∃ answer, runDiagnosis db transition config persist = .ok answer ∧
        answer.2.incident.map verdictOf = shown) ↔
      ∃ result, diagnose db transition config = .ok result ∧
        result.incident.map verdictOf = shown := by
  unfold runDiagnosis
  simp only [bind_ok_iff]
  constructor
  · rintro ⟨answer, ⟨result, diagnosed, stored⟩, rfl⟩
    refine ⟨result, diagnosed, ?_⟩
    cases found : result.incident with
    | none =>
      rw [found] at stored
      obtain rfl := Except.ok.inj stored
      rw [found]
    | some incident =>
      simp only [found] at stored
      split at stored
      · obtain rfl := Except.ok.inj stored
        rfl
      · obtain rfl := Except.ok.inj stored
        rw [found]
  · rintro ⟨result, diagnosed, rfl⟩
    cases found : result.incident with
    | none => exact ⟨(db, result), ⟨result, diagnosed, by rw [found]; rfl⟩, by rw [found]⟩
    | some incident =>
      by_cases stores : (persist && !Diagnosis.incidentExists db transition.previousSessionId
          transition.bootTime) = true
      · exact ⟨_, ⟨result, diagnosed, by simp only [found, stores, if_true]; rfl⟩, rfl⟩
      · exact ⟨(db, result), ⟨result, diagnosed, by simp only [found, stores]; rfl⟩,
          by rw [found]⟩

end ConfiguredDiagnosis

end PcDiagnosticAgent
