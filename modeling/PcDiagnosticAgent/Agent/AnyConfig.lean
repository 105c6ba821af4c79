import PcDiagnosticAgent.Diagnostics.ConfiguredDiagnosis

/-!
# A bad configuration

What `load_config` makes of any file, and which files keep the service from
starting. Whatever the document has under the interval of the high frequency
and under the interval of the low frequency, the loaded value is in range. Other
values slip through. The temperatures are converted without a handler, and ten
degrees may vanish in rounding. No number passes a check that rejects what is too
small. A long integer passes it as well and fails where it becomes a float. The
thresholds of the diagnosis are not checked at all. The text of a log level may
not exist, and not every exception of the parser is one of YAML.

Without these, the loaded configuration is in range, loading it again changes
nothing, and the diagnosis raises nothing (`starts_iff`).
-/

set_option autoImplicit false

namespace PcDiagnosticAgent

namespace RawConfig

open ConfiguredDiagnosis

/-! ## In range -/

/-- The value is a number in the given range. -/
def NumberIn (range : PyFloat → Prop) (value : PyValue) : Prop :=
  ∃ number, value.number? = some number ∧ range number

theorem NumberIn.mono {first second : PyFloat → Prop} {value : PyValue}
    (within : NumberIn first value) (wider : ∀ number, first number → second number) :
    NumberIn second value := by
  obtain ⟨number, isNumber, inFirst⟩ := within
  exact ⟨number, isNumber, wider number inFirst⟩

/-- A range holds of the number that a value is known to be. -/
theorem NumberIn.of_eq {range : PyFloat → Prop} {value : PyValue} {number : PyFloat}
    (inRange : NumberIn range value) (isNumber : value.number? = some number) : range number := by
  obtain ⟨other, isOther, holds⟩ := inRange
  obtain rfl : other = number := Option.some.inj (isOther.symm.trans isNumber)
  exact holds

/-- The configuration is in range, validating it again changes nothing, and the
diagnosis raises nothing with it. -/
structure Sound (python : Runtime) (config : RawConfig) : Prop where
  interval : NumberIn (fun number => ∃ seconds ∈ allowedIntervals, number = .finite seconds)
    config.collectionIntervalSeconds
  lowFrequency : NumberIn (fun number => PyFloat.le (.finite 30) number = true)
    config.lowFrequencyIntervalSeconds
  retention : NumberIn (fun number => PyFloat.lt (.finite 0) number = true) config.retentionHours
  before : NumberIn (fun number => PyFloat.le (.finite 0) number = true)
    config.incidentWindowBeforeMinutes
  after : NumberIn (fun number => PyFloat.le (.finite 0) number = true)
    config.incidentWindowAfterMinutes
  temperature : NumberIn (fun critical =>
    NumberIn (fun warning => warning.lt critical = true) config.temperatureWarningCelsius)
    config.temperatureCriticalCelsius
  memory : NumberIn (fun _ => True) config.memoryWarningPercent
  cpu : NumberIn (fun _ => True) config.cpuWarningPercent
  level : ∃ level ∈ allowedLogLevels, config.loggingLevel = .str level
  stable : config.validated python = .ok config
  diagnoses : ∀ db transition persist, Succeeds (runDiagnosis db transition config persist)

end RawConfig

open RawConfig ConfiguredDiagnosis

/-- Loading the file returns, and the configuration is sound. -/
def Starts (python : Runtime) (file : ConfigFile) : Prop :=
  ∃ config, loadConfig python file = .ok config ∧ config.Sound python

/-! ## What a document may hold -/

/-- What a value that is not rejected must be: a number that becomes a float. -/
def Fits (reject : PyFloat → Bool) (value : PyValue) : Prop :=
  ∀ number, value.number? = some number → reject number = false →
    number ≠ .nan ∧ Succeeds value.operand

/-- The critical temperature is above the warning, or ten degrees put it there. -/
def Apart (warning critical : PyFloat) : Prop :=
  warning.lt critical = true ∨
    critical.le warning = true ∧ warning.lt (warning.add (.finite 10)) = true

/-- The value has a text, and only a text has the name of a level as its text. -/
def Writes (python : Runtime) (level : PyValue) : Prop :=
  ∃ text, python.str level = .ok text ∧
    (text.upper ∈ allowedLogLevels → ∃ same, level = .str same)

/-- What is asked of the values under the keys of a document. -/
structure Tolerated (python : Runtime) (items : List (PyValue × PyValue)) : Prop where
  temperature : ∃ warning critical,
    python.float (present (section? items "temperature") "warning_celsius"
      (.float (.finite 85))) = .ok warning ∧
    python.float (present (section? items "temperature") "critical_celsius"
      (.float (.finite 95))) = .ok critical ∧ Apart warning critical
  retention : Fits nonpositive (given items "retention_hours" (.int 24))
  before : Fits negative (given items "incident_window_before_minutes" (.int 30))
  after : Fits negative (given items "incident_window_after_minutes" (.int 5))
  memory : (given (section? items "thresholds") "memory_warning_percent"
    (.float (.finite 90))).number?.isSome
  cpu : (given (section? items "thresholds") "cpu_warning_percent"
    (.float (.finite 90))).number?.isSome
  level : Writes python (present (section? items "logging") "level" (PyValue.text "INFO"))

/-- There is no file, or it cannot be read or parsed, or the document is
tolerated. -/
def ConfigFile.Tolerated (python : Runtime) : ConfigFile → Prop
  | .missing => True
  | .unreadable => True
  | .content bytes =>
    match python.safeLoad bytes with
    | .ok (.dict items) => PcDiagnosticAgent.Tolerated python items
    | .ok _ => True
    | .error error => error = .os ∨ error = .yaml

/-! ## Checked values -/

section Checked

variable {value : PyValue} {reject : PyFloat → Bool} {default : ℤ}

theorem checked_of_kept {number : PyFloat} (isNumber : value.number? = some number)
    (kept : reject number = false) : checked value reject default = value := by
  simp [checked, isNumber, kept]

/-- A value that is not kept is replaced by the default. -/
theorem checked_cases (value : PyValue) (reject : PyFloat → Bool) (default : ℤ) :
    (∃ number, value.number? = some number ∧ reject number = false ∧
      checked value reject default = value) ∨ checked value reject default = .int default := by
  unfold checked
  cases value.number? with
  | none => exact .inr rfl
  | some number =>
    cases rejected : reject number with
    | true => exact .inr (by simp [rejected])
    | false => exact .inl ⟨number, rfl, rejected, by simp [rejected]⟩

theorem checked_checked (sound : reject (.finite default) = false) :
    checked (checked value reject default) reject default = checked value reject default := by
  rcases checked_cases value reject default with ⟨number, isNumber, kept, same⟩ | replaced
  · rw [same, same]
  · rw [replaced]
    exact checked_of_kept rfl sound

/-- A checked value that fits is a number that is not rejected and becomes a
float. -/
theorem Fits.checked (fits : Fits reject value) (sound : reject (.finite default) = false)
    (converts : Succeeds (PyFloat.ofInt default)) :
    NumberIn (fun number => reject number = false ∧ number ≠ .nan)
        (checked value reject default) ∧
      Succeeds (RawConfig.checked value reject default).operand := by
  rcases checked_cases value reject default with ⟨number, isNumber, kept, same⟩ | replaced
  · rw [same]
    obtain ⟨notNan, operand⟩ := fits number isNumber kept
    exact ⟨⟨number, isNumber, kept, notNan⟩, operand⟩
  · rw [replaced]
    exact ⟨⟨_, rfl, sound, by simp⟩, converts⟩

/-- Only a value that fits is a number and becomes a float once it is checked. -/
theorem Fits.of_checked
    (number : NumberIn (fun number => number ≠ .nan) (RawConfig.checked value reject default))
    (operand : Succeeds (RawConfig.checked value reject default).operand) : Fits reject value := by
  intro other isNumber kept
  rw [checked_of_kept isNumber kept] at number operand
  obtain ⟨same, isSame, notNan⟩ := number
  obtain rfl : same = other := Option.some.inj (isSame.symm.trans isNumber)
  exact ⟨notNan, operand⟩

end Checked

theorem ofInt_24 : Succeeds (PyFloat.ofInt 24) := ⟨.finite 24, by decide +kernel⟩

theorem ofInt_30 : Succeeds (PyFloat.ofInt 30) := ⟨.finite 30, by decide +kernel⟩

theorem ofInt_5 : Succeeds (PyFloat.ofInt 5) := ⟨.finite 5, by decide +kernel⟩

/-! ## Intervals, temperatures and the level -/

/-- Whatever was loaded, the interval is allowed. -/
theorem collectionInterval_allowed (value : PyValue) :
    NumberIn (fun number => ∃ seconds ∈ allowedIntervals, number = .finite seconds)
      (collectionInterval value) := by
  unfold collectionInterval
  split
  · rename_i allowed
    obtain ⟨seconds, member, same⟩ := List.any_eq_true.mp allowed
    exact ⟨_, of_decide_eq_true same, seconds, member, rfl⟩
  · exact ⟨_, rfl, 30, by decide, rfl⟩

theorem collectionInterval_twice (value : PyValue) :
    collectionInterval (collectionInterval value) = collectionInterval value := by
  obtain ⟨number, isNumber, seconds, member, rfl⟩ := collectionInterval_allowed value
  rw [collectionInterval, if_pos]
  exact List.any_eq_true.mpr ⟨seconds, member, decide_eq_true isNumber⟩

/-- Whatever was loaded, the interval of the low frequency is at least 30. -/
theorem lowFrequencyInterval_cases (value : PyValue) :
    ∃ seconds, (lowFrequencyInterval value).integer? = some seconds ∧ 30 ≤ seconds := by
  unfold lowFrequencyInterval
  cases found : value.integer? with
  | none => exact ⟨300, rfl, by decide⟩
  | some seconds =>
    by_cases short : seconds < 30
    · exact ⟨300, by simp [short, PyValue.integer?], by decide⟩
    · exact ⟨seconds, by simp [short, found], not_lt.mp short⟩

theorem lowFrequencyInterval_twice (value : PyValue) :
    lowFrequencyInterval (lowFrequencyInterval value) = lowFrequencyInterval value := by
  obtain ⟨seconds, isInteger, long⟩ := lowFrequencyInterval_cases value
  rw [lowFrequencyInterval, isInteger]
  exact if_neg (not_lt.mpr long)

theorem number_of_integer {value : PyValue} {number : ℤ}
    (isInteger : value.integer? = some number) :
    value.number? = some (.finite number) := by
  cases value with
  | bool flag =>
    obtain rfl : (if flag then 1 else 0) = number := Option.some.inj isInteger
    cases flag <;> simp [PyValue.number?]
  | int integer =>
    obtain rfl : integer = number := Option.some.inj isInteger
    rfl
  | _ => cases isInteger

/-- A number can be multiplied by an integer. -/
theorem times_succeeds {value : PyValue} (number : value.number?.isSome) (factor : ℤ) :
    Succeeds (value.times factor) := by
  cases value with
  | bool flag => exact ⟨_, rfl⟩
  | int integer => exact ⟨_, rfl⟩
  | float number => exact ⟨_, rfl⟩
  | _ => cases number

theorem lt_criticalTemperature_iff {warning critical : PyFloat} :
    warning.lt (criticalTemperature warning critical) = true ↔ Apart warning critical := by
  unfold criticalTemperature Apart
  cases order : critical.le warning with
  | true => simp [PyFloat.lt, order]
  | false => simp

theorem criticalTemperature_twice {warning critical : PyFloat} (apart : Apart warning critical) :
    criticalTemperature warning (criticalTemperature warning critical) =
      criticalTemperature warning critical := by
  have above := (PyFloat.lt_iff.mp (lt_criticalTemperature_iff.mpr apart)).2
  rw [criticalTemperature, above]
  rfl

/-- A level is settled on exactly when the value can be written. -/
theorem logLevel_iff {python : Runtime} {value : PyValue} :
    (∃ level, logLevel python value = .ok level ∧
      ∃ name ∈ allowedLogLevels, level = .str name) ↔ Writes python value := by
  simp only [logLevel, bind_ok_iff]
  constructor
  · rintro ⟨level, ⟨text, written, settled⟩, name, allowed, rfl⟩
    refine ⟨text, written, fun named => ?_⟩
    rw [if_pos named] at settled
    cases value with
    | str same => exact ⟨same, rfl⟩
    | bytes bytes => cases settled
    | _ => cases settled
  · rintro ⟨text, written, only⟩
    by_cases named : text.upper ∈ allowedLogLevels
    · obtain ⟨same, rfl⟩ := only named
      obtain rfl : same = text := Except.ok.inj written
      exact ⟨_, ⟨same, written, if_pos named⟩, _, named, rfl⟩
    · exact ⟨_, ⟨text, written, if_neg named⟩, _, by decide +kernel, rfl⟩

theorem logLevel_allowed {python : Runtime} {name : PyStr} (allowed : name ∈ allowedLogLevels) :
    logLevel python (.str name) = .ok (.str name) := by
  have upper := upper_allowed name allowed
  change (if name.upper ∈ allowedLogLevels then _ else _) = _
  rw [upper, if_pos allowed, Runtime.upper, upper]

/-! ## A validated configuration -/

section Validated

variable {python : Runtime} {config : RawConfig} {warning critical : PyFloat} {name : PyStr}

/-- Validating a validated configuration again changes nothing. -/
theorem settled_stable (apart : Apart warning critical) (allowed : name ∈ allowedLogLevels) :
    (config.settled warning critical (.str name)).validated python =
      .ok (config.settled warning critical (.str name)) := by
  have level : logLevel python (config.settled warning critical (.str name)).loggingLevel =
      .ok (.str name) := logLevel_allowed allowed
  rw [validated, level]
  change Except.ok (RawConfig.settled _ warning (criticalTemperature warning critical) _) = _
  simp only [settled, criticalTemperature_twice apart, collectionInterval_twice,
    lowFrequencyInterval_twice,
    checked_checked (show nonpositive (.finite ((24 : ℤ) : ℚ)) = false by decide +kernel),
    checked_checked (show negative (.finite ((30 : ℤ) : ℚ)) = false by decide +kernel),
    checked_checked (show negative (.finite ((5 : ℤ) : ℚ)) = false by decide +kernel)]

/-- The conditions under which a validated configuration is sound. -/
structure Passes (config : RawConfig) : Prop where
  retention : Fits nonpositive config.retentionHours
  before : Fits negative config.incidentWindowBeforeMinutes
  after : Fits negative config.incidentWindowAfterMinutes
  memory : config.memoryWarningPercent.number?.isSome
  cpu : config.cpuWarningPercent.number?.isSome

theorem sound_settled (passes : Passes config) (apart : Apart warning critical)
    (allowed : name ∈ allowedLogLevels) :
    (config.settled warning critical (.str name)).Sound python := by
  obtain ⟨retention, hours⟩ :=
    @Fits.checked _ _ 24 passes.retention (by decide +kernel) ofInt_24
  obtain ⟨before, earlier⟩ := @Fits.checked _ _ 30 passes.before (by decide +kernel) ofInt_30
  obtain ⟨after, later⟩ := @Fits.checked _ _ 5 passes.after (by decide +kernel) ofInt_5
  have nonnegative : ∀ number, negative number = false ∧ number ≠ .nan →
      PyFloat.le (.finite 0) number = true := fun number kept =>
    PyFloat.le_of_not_lt kept.2 (by simp) kept.1
  obtain ⟨seconds, isInteger, long⟩ :=
    lowFrequencyInterval_cases config.lowFrequencyIntervalSeconds
  have interval := collectionInterval_allowed config.collectionIntervalSeconds
  refine
    { interval
      lowFrequency := ⟨_, number_of_integer isInteger, ?_⟩
      retention := retention.mono fun number kept => PyFloat.lt_of_not_le kept.2 (by simp) kept.1
      before := before.mono nonnegative
      after := after.mono nonnegative
      temperature := ⟨_, rfl, _, rfl, lt_criticalTemperature_iff.mpr apart⟩
      memory := ?_
      cpu := ?_
      level := ⟨name, allowed, rfl⟩
      stable := settled_stable apart allowed
      diagnoses := fun db transition persist => ?_ }
  · have large : (30 : ℚ) ≤ seconds := by exact_mod_cast long
    exact decide_eq_true large
  · obtain ⟨number, isNumber⟩ := Option.isSome_iff_exists.mp passes.memory
    exact ⟨number, isNumber, trivial⟩
  · obtain ⟨number, isNumber⟩ := Option.isSome_iff_exists.mp passes.cpu
    exact ⟨number, isNumber, trivial⟩
  · refine Computes.runDiagnosis db transition ?_ persist
    obtain ⟨number, isNumber, -⟩ := interval
    exact
      { interval := times_succeeds (Option.isSome_iff_exists.mpr ⟨number, isNumber⟩)
        retention := hours
        before := earlier
        after := later
        temperature := rfl
        memory := passes.memory
        cpu := passes.cpu }

/-- A transition without a previous boot. -/
def firstBoot : Transition where
  bootTime := 0
  previousBootTime := none
  previousSessionId := none
  previousSessionClean := none

theorem passes_of_sound {level : PyValue}
    (sound : (config.settled warning critical level).Sound python) : Passes config := by
  obtain ⟨start, before, after⟩ := windows_of_runDiagnosis (sound.diagnoses .empty firstBoot false)
  have number : ∀ {number bound : PyFloat}, PyFloat.le bound number = true → number ≠ .nan :=
    fun order => (PyFloat.ne_nan_of_le order).2
  exact
    { retention := .of_checked
        (sound.retention.mono fun _ order => number (PyFloat.lt_iff.mp order).1) start.first
      before := .of_checked (sound.before.mono fun _ order => number order) before
      after := .of_checked (sound.after.mono fun _ order => number order) after
      memory := by
        obtain ⟨found, isNumber, -⟩ := sound.memory
        exact Option.isSome_iff_exists.mpr ⟨found, isNumber⟩
      cpu := by
        obtain ⟨found, isNumber, -⟩ := sound.cpu
        exact Option.isSome_iff_exists.mpr ⟨found, isNumber⟩ }

theorem validated_ok_iff {result : RawConfig} : config.validated python = .ok result ↔
    ∃ warning critical level, python.float config.temperatureWarningCelsius = .ok warning ∧
      python.float config.temperatureCriticalCelsius = .ok critical ∧
      logLevel python config.loggingLevel = .ok level ∧
      result = config.settled warning critical level := by
  simp only [validated, bind_ok_iff]
  constructor
  · rintro ⟨warning, warned, critical, criticised, level, levelled, done⟩
    exact ⟨warning, critical, level, warned, criticised, levelled, (Except.ok.inj done).symm⟩
  · rintro ⟨warning, critical, level, warned, criticised, levelled, rfl⟩
    exact ⟨warning, warned, critical, criticised, level, levelled, rfl⟩

end Validated

/-! ## Exact configurations -/

/-- The values are the numbers of an exact configuration. -/
structure ReadsAs (raw : RawConfig) (config : Config) : Prop where
  interval : raw.collectionIntervalSeconds.number? =
    some (.finite config.collectionIntervalSeconds)
  lowFrequency : raw.lowFrequencyIntervalSeconds.integer? =
    some config.lowFrequencyIntervalSeconds
  retention : raw.retentionHours.number? = some (.finite config.retentionHours)
  before : raw.incidentWindowBeforeMinutes.number? =
    some (.finite config.incidentWindowBeforeMinutes)
  after : raw.incidentWindowAfterMinutes.number? =
    some (.finite config.incidentWindowAfterMinutes)
  warning : raw.temperatureWarningCelsius.number? =
    some (.finite config.temperatureWarningCelsius)
  critical : raw.temperatureCriticalCelsius.number? =
    some (.finite config.temperatureCriticalCelsius)
  memory : raw.memoryWarningPercent.number? = some (.finite config.memoryWarningPercent)
  cpu : raw.cpuWarningPercent.number? = some (.finite config.cpuWarningPercent)

/-- No value is an infinity. -/
structure Finite (raw : RawConfig) : Prop where
  retention : NumberIn (fun number => ∃ hours, number = .finite hours) raw.retentionHours
  before : NumberIn (fun number => ∃ minutes, number = .finite minutes)
    raw.incidentWindowBeforeMinutes
  after : NumberIn (fun number => ∃ minutes, number = .finite minutes)
    raw.incidentWindowAfterMinutes
  warning : NumberIn (fun number => ∃ celsius, number = .finite celsius)
    raw.temperatureWarningCelsius
  critical : NumberIn (fun number => ∃ celsius, number = .finite celsius)
    raw.temperatureCriticalCelsius
  memory : NumberIn (fun number => ∃ percent, number = .finite percent) raw.memoryWarningPercent
  cpu : NumberIn (fun number => ∃ percent, number = .finite percent) raw.cpuWarningPercent

/-- **A sound configuration without infinities is a valid one.** -/
theorem RawConfig.Sound.readsAs {python : Runtime} {raw : RawConfig} (sound : raw.Sound python)
    (finite : Finite raw) : ∃ config : ValidConfig, ReadsAs raw config.toConfig := by
  obtain ⟨_, interval, seconds, allowed, rfl⟩ := sound.interval
  obtain ⟨_, _, _, -, -, -, unchanged⟩ := validated_ok_iff.mp sound.stable
  obtain ⟨low, lowFrequency, long⟩ := lowFrequencyInterval_cases raw.lowFrequencyIntervalSeconds
  have same : raw.lowFrequencyIntervalSeconds =
      lowFrequencyInterval raw.lowFrequencyIntervalSeconds :=
    congrArg RawConfig.lowFrequencyIntervalSeconds unchanged
  rw [← same] at lowFrequency
  obtain ⟨_, retention, hours, rfl⟩ := finite.retention
  obtain ⟨_, before, beforeMinutes, rfl⟩ := finite.before
  obtain ⟨_, after, afterMinutes, rfl⟩ := finite.after
  obtain ⟨_, warning, warningCelsius, rfl⟩ := finite.warning
  obtain ⟨_, critical, criticalCelsius, rfl⟩ := finite.critical
  obtain ⟨_, memory, memoryPercent, rfl⟩ := finite.memory
  obtain ⟨_, cpu, cpuPercent, rfl⟩ := finite.cpu
  have positive : 0 < hours := by
    simpa [PyFloat.le] using (PyFloat.lt_iff.mp (sound.retention.of_eq retention)).2
  have apart : warningCelsius < criticalCelsius := by
    have above := (sound.temperature.of_eq critical).of_eq warning
    simpa [PyFloat.le] using (PyFloat.lt_iff.mp above).2
  exact
    ⟨{ collectionIntervalSeconds := seconds
       lowFrequencyIntervalSeconds := low
       retentionHours := hours
       incidentWindowBeforeMinutes := beforeMinutes
       incidentWindowAfterMinutes := afterMinutes
       temperatureWarningCelsius := warningCelsius
       temperatureCriticalCelsius := criticalCelsius
       memoryWarningPercent := memoryPercent
       cpuWarningPercent := cpuPercent
       interval_allowed := allowed
       low_frequency_bound := long
       retention_pos := positive
       before_nonneg := of_decide_eq_true (sound.before.of_eq before)
       after_nonneg := of_decide_eq_true (sound.after.of_eq after)
       critical_above_warning := apart },
      ⟨interval, lowFrequency, retention, before, after, warning, critical, memory, cpu⟩⟩

/-! ## The result -/

/-- What comes out of a document is sound exactly when the document is
tolerated. -/
theorem sound_document_iff (python : Runtime) (items : List (PyValue × PyValue)) :
    (∃ config, (fromDict (.dict items)).validated python = .ok config ∧ config.Sound python) ↔
      Tolerated python items := by
  constructor
  · rintro ⟨config, done, sound⟩
    obtain ⟨warning, critical, level, warned, criticised, levelled, rfl⟩ :=
      validated_ok_iff.mp done
    obtain ⟨retention, before, after, memory, cpu⟩ := passes_of_sound sound
    obtain ⟨_, same, _, sameWarning, above⟩ := sound.temperature
    cases same
    cases sameWarning
    exact
      { temperature :=
          ⟨warning, critical, warned, criticised, lt_criticalTemperature_iff.mp above⟩
        retention, before, after, memory, cpu
        level := logLevel_iff.mp ⟨level, levelled, sound.level⟩ }
  · rintro ⟨⟨warning, critical, warned, criticised, apart⟩, retention, before, after, memory, cpu,
      level⟩
    obtain ⟨_, levelled, name, allowed, rfl⟩ := logLevel_iff.mpr level
    refine ⟨_, validated_ok_iff.mpr ⟨_, _, _, warned, criticised, levelled, rfl⟩, ?_⟩
    exact sound_settled ⟨retention, before, after, memory, cpu⟩ apart allowed

/-- The defaults are tolerated. -/
theorem tolerated_empty (python : Runtime) : Tolerated python [] where
  temperature := ⟨_, _, rfl, rfl, .inl (by decide +kernel)⟩
  retention := by
    rintro number ⟨⟩ -
    exact ⟨by simp, ofInt_24⟩
  before := by
    rintro number ⟨⟩ -
    exact ⟨by simp, ofInt_30⟩
  after := by
    rintro number ⟨⟩ -
    exact ⟨by simp, ofInt_5⟩
  memory := rfl
  cpu := rfl
  level := ⟨_, rfl, fun _ => ⟨_, rfl⟩⟩

/-- **The service starts with a sound configuration exactly when the file is
tolerated.** -/
theorem starts_iff (python : Runtime) (file : ConfigFile) :
    Starts python file ↔ file.Tolerated python := by
  have defaults : ∃ config, (fromDict (.dict [])).validated python = .ok config ∧
      config.Sound python := (sound_document_iff python []).mpr (tolerated_empty python)
  cases file with
  | missing => exact iff_of_true defaults trivial
  | unreadable => exact iff_of_true defaults trivial
  | content bytes =>
    unfold Starts loadConfig ConfigFile.Tolerated ConfigFile.loaded
    simp only
    cases python.safeLoad bytes with
    | ok loaded =>
      cases loaded with
      | dict items => exact sound_document_iff python items
      | _ => exact iff_of_true defaults trivial
    | error error =>
      cases error with
      | os => exact iff_of_true defaults (.inl rfl)
      | yaml => exact iff_of_true defaults (.inr rfl)
      | sqlite => exact iff_of_false (by simp) (by simp)
      | other => exact iff_of_false (by simp) (by simp)

/-! ## A temperature without a value -/

def nullWarning : List UInt8 := "temperature:\n  warning_celsius: null\n".toUTF8.toList

/-- The parser on this file, where nothing else is called. -/
def parsesNullWarning : Runtime where
  floatOfText := fun _ => none
  floatOfBytes := fun _ => none
  strOf := fun _ => none
  safeLoad := fun bytes =>
    if bytes = nullWarning then
      .ok (.ofItems [("temperature", .ofItems [("warning_celsius", .none)])])
    else .error .yaml

/-- A null is not a temperature, and the service does not start. -/
theorem not_starts_null_warning : ¬ Starts parsesNullWarning (.content nullWarning) := by
  rintro ⟨config, loaded, -⟩
  have parsed : parsesNullWarning.safeLoad nullWarning =
      .ok (.ofItems [("temperature", .ofItems [("warning_celsius", .none)])]) := if_pos rfl
  have raised : loadConfig parsesNullWarning (.content nullWarning) = .error .other := by
    rw [loadConfig, ConfigFile.loaded, parsed]
    rfl
  rw [raised] at loaded
  cases loaded

end PcDiagnosticAgent
