import PcDiagnosticAgent.Text

/-!
# Configuration

The numeric settings of `agent/config.py` with their defaults, as exact numbers.
A `ValidConfig` carries what `Config.validated` leaves true of them. The values
of a document need not be numbers; `Agent/AnyConfig` says which documents are
loaded as a valid configuration.
-/

set_option autoImplicit false

namespace PcDiagnosticAgent

structure Config where
  collectionIntervalSeconds : ℕ := 30
  lowFrequencyIntervalSeconds : ℤ := 300
  retentionHours : ℚ := 24
  incidentWindowBeforeMinutes : ℚ := 30
  incidentWindowAfterMinutes : ℚ := 5
  temperatureWarningCelsius : ℚ := 85
  temperatureCriticalCelsius : ℚ := 95
  cpuWarningPercent : ℚ := 90
  cpuCriticalPercent : ℚ := 98
  memoryWarningPercent : ℚ := 90
  memoryCriticalPercent : ℚ := 95
  diskWarningPercent : ℚ := 90
  diskFreeGbWarning : ℚ := 5
deriving DecidableEq, Repr

/-- `ALLOWED_INTERVALS`. -/
def allowedIntervals : List ℕ := [10, 30, 60]

/-- A configuration of numbers as `Config.validated` returns it. -/
structure ValidConfig extends Config where
  interval_allowed : collectionIntervalSeconds ∈ allowedIntervals
  low_frequency_bound : 30 ≤ lowFrequencyIntervalSeconds
  retention_pos : 0 < retentionHours
  before_nonneg : 0 ≤ incidentWindowBeforeMinutes
  after_nonneg : 0 ≤ incidentWindowAfterMinutes
  critical_above_warning : temperatureWarningCelsius < temperatureCriticalCelsius

/-- Every allowed interval is positive. -/
theorem ValidConfig.interval_pos (config : ValidConfig) :
    0 < config.collectionIntervalSeconds := by
  have positive : ∀ interval ∈ allowedIntervals, 0 < interval := by decide
  exact positive _ config.interval_allowed

/-- The defaults pass their own validation. -/
def ValidConfig.default : ValidConfig where
  toConfig := {}
  interval_allowed := by decide
  low_frequency_bound := by decide
  retention_pos := by decide +kernel
  before_nonneg := by decide +kernel
  after_nonneg := by decide +kernel
  critical_above_warning := by decide +kernel

end PcDiagnosticAgent
