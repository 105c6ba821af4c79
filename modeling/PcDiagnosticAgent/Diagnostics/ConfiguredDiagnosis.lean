import PcDiagnosticAgent.Agent.LoadConfig
import PcDiagnosticAgent.Diagnostics.Diagnosis

/-!
# The diagnosis with any configuration

`run_diagnosis` with a configuration whose values are whatever was loaded. What
it computes from them may raise: a product with the retention or with a window,
and a comparison with a threshold or with the interval. The windows may be
infinite or no number; SQLite compares no timestamp with the latter.

What does not depend on the configuration is the engine of
`Diagnostics/Diagnosis`. The two engines agree where the windows come out exact
(`runDiagnosis_eq`).
-/

set_option autoImplicit false

namespace PcDiagnosticAgent

open AutoTables EventAnalyzer

namespace ConfiguredDiagnosis

/-! ## Reads -/

/-- `timestamp >= ? AND timestamp <= ?`. -/
def within (start stop : PyFloat) (timestamp : Epoch) : Bool :=
  start.le (.finite timestamp) && (PyFloat.finite timestamp).le stop

def eventsBetween (db : Database) (start stop : PyFloat) : List EventRow :=
  (db.events.rows.filter fun event => within start stop event.timestamp).insertionSort
    fun earlier later => earlier.timestamp ≤ later.timestamp

def maxOf (db : Database) (start stop : PyFloat) (table : MetricTable) (column : String) :
    Option ℚ :=
  (((db.metrics table).filter fun row => within start stop row.timestamp).filterMap
    fun row => (row.column column).number?).max?

def aggregates (db : Database) (start stop : PyFloat) : Diagnosis.Aggregates where
  maxCpuPercent := maxOf db start stop .cpu "cpu_percent"
  maxMemoryPercent := maxOf db start stop .memory "memory_percent"
  maxTemperature := maxOf db start stop .temperature "temperature_c"
  maxDiskPercent := maxOf db start stop .disk "percent"

/-! ## Windows -/

def transitionStart (transition : Transition) (config : RawConfig) : Except PyError PyFloat :=
  match transition.previousBootTime with
  | some previous => .ok (.finite previous)
  | none => do
    let hours ← config.retentionHours.operand
    return (PyFloat.finite transition.bootTime).sub (hours.mul (.finite 3600))

def incidentStart (transition : Transition) (config : RawConfig) : Except PyError PyFloat := do
  let minutes ← config.incidentWindowBeforeMinutes.operand
  return (PyFloat.finite transition.bootTime).sub (minutes.mul (.finite 60))

def incidentEnd (transition : Transition) (config : RawConfig) : Except PyError PyFloat := do
  let minutes ← config.incidentWindowAfterMinutes.operand
  return (PyFloat.finite transition.bootTime).add (minutes.mul (.finite 60))

/-! ## Inference and findings -/

/-- The end of `infer_termination`: Kernel-Power 41 and a gap. -/
def inferFromGap (seconds : ℚ) (collectionInterval : PyValue) :
    Except PyError TerminationInference := do
  if (← collectionInterval.times 5).le (.finite seconds) then
    return { probableHardHang := true, confidence := .high, hangGapSeconds := some seconds }
  else if (← collectionInterval.times 2).le (.finite seconds) then
    return { probableHardHang := true, confidence := .medium, hangGapSeconds := some seconds }
  else
    return { probablePowerLoss := true, confidence := .low, hangGapSeconds := some seconds }

def inferTermination (crash : CrashSignals) (lastActivityTimestamp : Option Epoch)
    (rebootTimestamp : Epoch) (collectionInterval : PyValue) :
    Except PyError TerminationInference :=
  if crash.cleanShutdown then
    .ok { probableNormalShutdown := true, confidence := .high }
  else if crash.bugcheckDetected then
    .ok { probableCrash := true, confidence := .high }
  else if !crash.unexpectedShutdown then
    .ok {}
  else
    let gap := activityGap lastActivityTimestamp rebootTimestamp
    if crash.kernelPowerDetected then
      match gap with
      | none => .ok { probableHardHang := true, confidence := .low, hangGapSeconds := gap }
      | some seconds => inferFromGap seconds collectionInterval
    else
      .ok { probableHardHang := true, confidence := .low, hangGapSeconds := gap }

/-- The findings about a maximum that reaches a threshold. -/
def reached (maximum : Option ℚ) (threshold : PyValue) (findings : ℚ → List Finding) :
    Except PyError (List Finding) :=
  match maximum with
  | none => .ok []
  | some value =>
    match threshold.number? with
    | none => .error .other
    | some bound => .ok (if bound.le (.finite value) then findings value else [])

/-- `_build_findings`; a finding about a maximum is the one for a threshold that
is this maximum. -/
def buildFindings (summary : Summary) (maxima : Diagnosis.Aggregates)
    (inference : TerminationInference) (config : RawConfig) : Except PyError (List Finding) := do
  let thermal ← reached maxima.maxTemperature config.temperatureCriticalCelsius fun value =>
    Diagnosis.thermalFindings maxima { temperatureCriticalCelsius := value }
  let memory ← reached maxima.maxMemoryPercent config.memoryWarningPercent fun value =>
    Diagnosis.memoryFindings maxima { memoryWarningPercent := value }
  let cpu ← reached maxima.maxCpuPercent config.cpuWarningPercent fun value =>
    Diagnosis.cpuFindings maxima { cpuWarningPercent := value }
  let findings := Diagnosis.hardwareFindings summary ++ Diagnosis.diskFindings summary ++
    Diagnosis.displayFindings summary ++ thermal ++ memory ++ cpu ++
    Diagnosis.terminationFindings inference
  let findings := if findings = [] then [Diagnosis.insufficientFinding] else findings
  return findings.insertionSort fun first second =>
    Diagnosis.severityRank second.severity ≤ Diagnosis.severityRank first.severity

/-! ## The engine -/

/-- The result, from what was computed for it. -/
def resultOf (transition : Transition) (summary : Summary) (crash : CrashSignals)
    (lastActivity : Option Epoch) (maxima : Diagnosis.Aggregates)
    (inference : TerminationInference) (findings : List Finding) : Diagnosis.DiagnosisResult :=
  if crash.unexpectedShutdown || crash.bugcheckDetected then
    { incident := some
        { detectedAt := transition.bootTime
          incidentType := Diagnosis.incidentType inference crash
          confidence := Diagnosis.incidentConfidence inference crash findings
          previousSessionId := transition.previousSessionId
          lastMetricTimestamp := lastActivity
          rebootTimestamp := transition.bootTime
          durationEstimate := inference.hangGapSeconds
          findings := findings.map Finding.type
          evidence := Diagnosis.evidence summary maxima inference crash }
      findings := findings
      summary := some summary
      aggregates := maxima
      inference := some inference }
  else
    { incident := none
      findings := []
      summary := some summary
      aggregates := maxima
      inference := none }

def diagnose (db : Database) (transition : Transition) (config : RawConfig) :
    Except PyError Diagnosis.DiagnosisResult := do
  let start ← transitionStart transition config
  let stop := (PyFloat.finite transition.bootTime).add (.finite 120)
  let windowStart ← incidentStart transition config
  let windowEnd ← incidentEnd transition config
  let summary := summarize (eventsBetween db windowStart windowEnd)
  let crash := detectCrash (summarize (eventsBetween db start stop))
    transition.previousSessionClean
  let lastActivity := Diagnosis.lastMetricTimestamp db transition.bootTime
  let maxima := aggregates db windowStart windowEnd
  let inference ← inferTermination crash lastActivity transition.bootTime
    config.collectionIntervalSeconds
  let findings ← buildFindings summary maxima inference config
  return resultOf transition summary crash lastActivity maxima inference findings

def runDiagnosis (db : Database) (transition : Transition) (config : RawConfig)
    (persist : Bool) : Except PyError (Database × Diagnosis.DiagnosisResult) := do
  let result ← diagnose db transition config
  match result.incident with
  | none => return (db, result)
  | some incident =>
    if persist &&
        !Diagnosis.incidentExists db transition.previousSessionId transition.bootTime then
      let created := db.createIncident incident result.findings
      return (created.1, { result with
        incident := some { incident with incidentId := some created.2 } })
    else return (db, result)

/-! ## When nothing is raised -/

/-- The values that the engine computes with are numbers, and those that it
multiplies by a float are not too large. -/
structure Computes (config : RawConfig) : Prop where
  interval : ∀ factor, Succeeds (config.collectionIntervalSeconds.times factor)
  retention : Succeeds config.retentionHours.operand
  before : Succeeds config.incidentWindowBeforeMinutes.operand
  after : Succeeds config.incidentWindowAfterMinutes.operand
  temperature : config.temperatureCriticalCelsius.number?.isSome
  memory : config.memoryWarningPercent.number?.isSome
  cpu : config.cpuWarningPercent.number?.isSome

theorem inferTermination_succeeds {interval : PyValue}
    (number : ∀ factor, Succeeds (interval.times factor)) (crash : CrashSignals)
    (last : Option Epoch) (reboot : Epoch) :
    Succeeds (inferTermination crash last reboot interval) := by
  have fromGap : ∀ seconds, Succeeds (inferFromGap seconds interval) := by
    intro seconds
    refine (number 5).bind fun long _ => ?_
    split
    · exact ⟨_, rfl⟩
    · refine (number 2).bind fun short _ => ?_
      split <;> exact ⟨_, rfl⟩
  unfold inferTermination
  split
  · exact ⟨_, rfl⟩
  split
  · exact ⟨_, rfl⟩
  split
  · exact ⟨_, rfl⟩
  cases activityGap last reboot with
  | none => split <;> exact ⟨_, rfl⟩
  | some seconds =>
    split
    · exact fromGap seconds
    · exact ⟨_, rfl⟩

/-- A comparison with a threshold raises exactly when there is a maximum and the
threshold is no number. -/
theorem reached_succeeds_iff (maximum : Option ℚ) (threshold : PyValue)
    (findings : ℚ → List Finding) :
    Succeeds (reached maximum threshold findings) ↔
      maximum = none ∨ threshold.number?.isSome := by
  cases maximum with
  | none => exact iff_of_true ⟨_, rfl⟩ (.inl rfl)
  | some value =>
    cases number : threshold.number? with
    | none =>
      refine iff_of_false ?_ (by simp)
      rintro ⟨result, done⟩
      simp only [reached, number] at done
      cases done
    | some bound =>
      refine iff_of_true ⟨if bound.le (.finite value) then findings value else [], ?_⟩ (.inr rfl)
      rw [reached, number]

section Engine

variable {config : RawConfig} (db : Database) (transition : Transition)

/-- **With such a configuration the diagnosis raises nothing.** -/
theorem Computes.runDiagnosis (computes : Computes config) (persist : Bool) :
    Succeeds (runDiagnosis db transition config persist) := by
  have start : Succeeds (transitionStart transition config) := by
    unfold transitionStart
    split
    · exact ⟨_, rfl⟩
    · exact computes.retention.bind fun hours _ => ⟨_, rfl⟩
  have windowStart : Succeeds (incidentStart transition config) :=
    computes.before.bind fun minutes _ => ⟨_, rfl⟩
  have windowEnd : Succeeds (incidentEnd transition config) :=
    computes.after.bind fun minutes _ => ⟨_, rfl⟩
  have diagnosed : Succeeds (diagnose db transition config) := by
    refine start.bind fun _ _ => windowStart.bind fun _ _ => windowEnd.bind fun _ _ => ?_
    refine (inferTermination_succeeds computes.interval _ _ _).bind fun inference _ => ?_
    refine Succeeds.bind ?_ fun findings _ => ⟨_, rfl⟩
    refine ((reached_succeeds_iff ..).mpr (.inr computes.temperature)).bind fun thermal _ => ?_
    refine ((reached_succeeds_iff ..).mpr (.inr computes.memory)).bind fun memory _ => ?_
    exact ((reached_succeeds_iff ..).mpr (.inr computes.cpu)).bind fun cpu _ => ⟨_, rfl⟩
  refine diagnosed.bind fun result _ => ?_
  split
  · exact ⟨_, rfl⟩
  · split <;> exact ⟨_, rfl⟩

variable {db transition}

/-- A diagnosis that raises nothing has computed its windows. -/
theorem windows_of_runDiagnosis {persist : Bool}
    (succeeds : Succeeds (ConfiguredDiagnosis.runDiagnosis db transition config persist)) :
    Succeeds (transitionStart transition config) ∧
      Succeeds config.incidentWindowBeforeMinutes.operand ∧
        Succeeds config.incidentWindowAfterMinutes.operand := by
  have diagnosed := succeeds.first
  obtain ⟨start, started⟩ := diagnosed.first
  have windowed := diagnosed.next started
  obtain ⟨windowStart, opened⟩ := windowed.first
  exact ⟨⟨start, started⟩, windowed.first.first, (windowed.next opened).first.first⟩

end Engine

/-! ## Agreement with the engine over exact numbers -/

/-- The values are the numbers of a configuration, and no window of a
transition is rounded. -/
structure Represents (raw : RawConfig) (config : Config) (transition : Transition) : Prop where
  interval : ∀ factor, raw.collectionIntervalSeconds.times factor =
    .ok (.finite (config.collectionIntervalSeconds * factor))
  temperature : raw.temperatureCriticalCelsius.number? =
    some (.finite config.temperatureCriticalCelsius)
  memory : raw.memoryWarningPercent.number? = some (.finite config.memoryWarningPercent)
  cpu : raw.cpuWarningPercent.number? = some (.finite config.cpuWarningPercent)
  start : transitionStart transition raw =
    .ok (.finite (Diagnosis.transitionStart transition config))
  stop : (PyFloat.finite transition.bootTime).add (.finite 120) =
    .finite (transition.bootTime + 120)
  windowStart : incidentStart transition raw =
    .ok (.finite (transition.bootTime - config.incidentWindowBeforeMinutes * 60))
  windowEnd : incidentEnd transition raw =
    .ok (.finite (transition.bootTime + config.incidentWindowAfterMinutes * 60))

theorem within_finite (start stop timestamp : Epoch) :
    within (.finite start) (.finite stop) timestamp =
      decide (start ≤ timestamp ∧ timestamp ≤ stop) := by
  simp [within, PyFloat.le, Bool.decide_and]

theorem eventsBetween_finite (db : Database) (start stop : Epoch) :
    eventsBetween db (.finite start) (.finite stop) = db.eventsBetween start stop := by
  simp only [eventsBetween, within_finite, Database.eventsBetween]

theorem aggregates_finite (db : Database) (start stop : Epoch) :
    aggregates db (.finite start) (.finite stop) = Diagnosis.aggregates db start stop := by
  simp only [aggregates, maxOf, within_finite, Diagnosis.aggregates, Diagnosis.maxOf]

theorem reached_finite {maximum : Option ℚ} {threshold : PyValue} {bound : ℚ}
    (number : threshold.number? = some (.finite bound)) (finding : ℚ → Finding) :
    (reached maximum threshold fun value => Diagnosis.thresholdFinding maximum value finding) =
      .ok (Diagnosis.thresholdFinding maximum bound finding) := by
  cases maximum with
  | none => rfl
  | some value =>
    simp only [reached, number, PyFloat.le, Diagnosis.thresholdFinding, le_refl, if_true]
    split <;> simp_all

/-- Only the fivefold and the double of the interval are compared with. -/
theorem inferTermination_of_times {interval : PyValue} {seconds : ℕ}
    (five : interval.times 5 = .ok (.finite (seconds * 5)))
    (two : interval.times 2 = .ok (.finite (seconds * 2)))
    (crash : CrashSignals) (last : Option Epoch) (reboot : Epoch) :
    inferTermination crash last reboot interval =
      .ok (PcDiagnosticAgent.inferTermination crash last reboot seconds) := by
  have fromGap : ∀ gap, inferFromGap gap interval = .ok
      (if (seconds : ℚ) * 5 ≤ gap then
        { probableHardHang := true, confidence := .high, hangGapSeconds := some gap }
      else if (seconds : ℚ) * 2 ≤ gap then
        { probableHardHang := true, confidence := .medium, hangGapSeconds := some gap }
      else
        { probablePowerLoss := true, confidence := .low, hangGapSeconds := some gap }) := by
    intro gap
    rw [inferFromGap, five, two, ok_bind, ok_bind]
    simp only [PyFloat.le, decide_eq_true_eq, apply_ite Except.ok]
    rfl
  unfold inferTermination PcDiagnosticAgent.inferTermination
  cases activityGap last reboot with
  | none => simp only [apply_ite Except.ok]
  | some gap => simp only [fromGap, apply_ite Except.ok]

theorem inferTermination_finite {interval : PyValue} {seconds : ℕ}
    (number : ∀ factor, interval.times factor = .ok (.finite (seconds * factor)))
    (crash : CrashSignals) (last : Option Epoch) (reboot : Epoch) :
    inferTermination crash last reboot interval =
      .ok (PcDiagnosticAgent.inferTermination crash last reboot seconds) := by
  refine inferTermination_of_times ?_ ?_ crash last reboot
  · exact_mod_cast number 5
  · exact_mod_cast number 2

section Agreement

variable {raw : RawConfig} {config : Config} {transition : Transition}

theorem Represents.buildFindings (represents : Represents raw config transition)
    (summary : Summary) (maxima : Diagnosis.Aggregates) (inference : TerminationInference) :
    buildFindings summary maxima inference raw =
      .ok (Diagnosis.buildFindings summary maxima inference config) := by
  simp only [ConfiguredDiagnosis.buildFindings, Diagnosis.thermalFindings,
    Diagnosis.memoryFindings, Diagnosis.cpuFindings, reached_finite represents.temperature,
    reached_finite represents.memory, reached_finite represents.cpu]
  rfl

theorem Represents.diagnose (represents : Represents raw config transition) (db : Database) :
    diagnose db transition raw = .ok (Diagnosis.diagnose db transition config) := by
  simp only [ConfiguredDiagnosis.diagnose, represents.start, represents.stop,
    represents.windowStart, represents.windowEnd, ok_bind, eventsBetween_finite,
    aggregates_finite, inferTermination_finite represents.interval, represents.buildFindings]
  rfl

/-- **Where the windows come out exact, the diagnosis is the one over exact
numbers.** -/
theorem runDiagnosis_eq (represents : Represents raw config transition) (db : Database)
    (persist : Bool) : runDiagnosis db transition raw persist =
      .ok (Diagnosis.runDiagnosis db transition config persist) := by
  rw [runDiagnosis, represents.diagnose, Diagnosis.runDiagnosis, ok_bind]
  cases (Diagnosis.diagnose db transition config).incident with
  | none => rfl
  | some incident =>
    simp only
    split <;> rfl

end Agreement

end ConfiguredDiagnosis

end PcDiagnosticAgent
