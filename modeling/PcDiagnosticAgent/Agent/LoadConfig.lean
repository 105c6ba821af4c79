import PcDiagnosticAgent.Agent.Config
import PcDiagnosticAgent.PyFloat

/-!
# Loading the configuration

`agent/config.py` on any document. `from_dict` copies what the document has
under the known keys, `validated` checks and converts what was copied, and
`load_config` falls back to an empty document when there is no file or when it
cannot be read or parsed.

Reading a file and parsing it as YAML is a parameter, and so are `float` on texts
and `str` on values that are no texts. The path, which nothing here reads again,
is left out.
-/

set_option autoImplicit false

namespace PcDiagnosticAgent

/-! ## Log levels -/

/-- The upper case of one character, as far as a comparison with an ASCII text
can see it.

Besides the small ASCII letters only these characters have an upper case that
contains an ASCII character: the dotless i, the long s, the letters with a mark
that follows them and the ligatures. -/
def upperCode (code : ℕ) : List ℕ :=
  if 0x61 ≤ code ∧ code ≤ 0x7A then [code - 32]
  else
    match code with
    | 0xDF => [0x53, 0x53]
    | 0x131 => [0x49]
    | 0x149 => [0x2BC, 0x4E]
    | 0x17F => [0x53]
    | 0x1F0 => [0x4A, 0x30C]
    | 0x1E96 => [0x48, 0x331]
    | 0x1E97 => [0x54, 0x308]
    | 0x1E98 => [0x57, 0x30A]
    | 0x1E99 => [0x59, 0x30A]
    | 0x1E9A => [0x41, 0x2BE]
    | 0xFB00 => [0x46, 0x46]
    | 0xFB01 => [0x46, 0x49]
    | 0xFB02 => [0x46, 0x4C]
    | 0xFB03 => [0x46, 0x46, 0x49]
    | 0xFB04 => [0x46, 0x46, 0x4C]
    | 0xFB05 => [0x53, 0x54]
    | 0xFB06 => [0x53, 0x54]
    | other => [other]

/-- `str.upper`, for texts that are compared with ASCII texts. -/
def PyStr.upper (text : PyStr) : PyStr := text.flatMap upperCode

/-- `ALLOWED_LOG_LEVELS`. -/
def allowedLogLevels : List PyStr := ["DEBUG", "INFO", "WARNING", "ERROR"].map PyStr.ofString

/-- The levels are written in upper case. -/
theorem upper_allowed : ∀ level ∈ allowedLogLevels, level.upper = level := by decide +kernel

/-! ## The configuration -/

/-- `Config` while nothing is known about its values. -/
structure RawConfig where
  collectionIntervalSeconds : PyValue := .int 30
  lowFrequencyIntervalSeconds : PyValue := .int 300
  retentionHours : PyValue := .int 24
  incidentWindowBeforeMinutes : PyValue := .int 30
  incidentWindowAfterMinutes : PyValue := .int 5
  temperatureWarningCelsius : PyValue := .float (.finite 85)
  temperatureCriticalCelsius : PyValue := .float (.finite 95)
  cpuWarningPercent : PyValue := .float (.finite 90)
  cpuCriticalPercent : PyValue := .float (.finite 98)
  memoryWarningPercent : PyValue := .float (.finite 90)
  memoryCriticalPercent : PyValue := .float (.finite 95)
  diskWarningPercent : PyValue := .float (.finite 90)
  diskFreeGbWarning : PyValue := .float (.finite 5)
  loggingLevel : PyValue := PyValue.text "INFO"

namespace RawConfig

/-- The value under a key that is there and not null. -/
def given (items : List (PyValue × PyValue)) (key : String) (default : PyValue) : PyValue :=
  match PyValue.item? items key with
  | none => default
  | some .none => default
  | some value => value

/-- The value under a key that is there, null or not. -/
def present (items : List (PyValue × PyValue)) (key : String) (default : PyValue) : PyValue :=
  (PyValue.item? items key).getD default

/-- The items of a section; what is missing, falsy or no dictionary has none. -/
def section? (items : List (PyValue × PyValue)) (key : String) : List (PyValue × PyValue) :=
  match PyValue.item? items key with
  | some (.dict nested) => nested
  | _ => []

def fromDict (data : PyValue) : RawConfig :=
  let cfg : RawConfig := {}
  match data with
  | .dict items =>
    let temperature := section? items "temperature"
    let thresholds := section? items "thresholds"
    let logging := section? items "logging"
    { collectionIntervalSeconds :=
        given items "collection_interval_seconds" cfg.collectionIntervalSeconds
      lowFrequencyIntervalSeconds :=
        given items "low_frequency_interval_seconds" cfg.lowFrequencyIntervalSeconds
      retentionHours := given items "retention_hours" cfg.retentionHours
      incidentWindowBeforeMinutes :=
        given items "incident_window_before_minutes" cfg.incidentWindowBeforeMinutes
      incidentWindowAfterMinutes :=
        given items "incident_window_after_minutes" cfg.incidentWindowAfterMinutes
      temperatureWarningCelsius :=
        present temperature "warning_celsius" cfg.temperatureWarningCelsius
      temperatureCriticalCelsius :=
        present temperature "critical_celsius" cfg.temperatureCriticalCelsius
      cpuWarningPercent := given thresholds "cpu_warning_percent" cfg.cpuWarningPercent
      cpuCriticalPercent := given thresholds "cpu_critical_percent" cfg.cpuCriticalPercent
      memoryWarningPercent := given thresholds "memory_warning_percent" cfg.memoryWarningPercent
      memoryCriticalPercent :=
        given thresholds "memory_critical_percent" cfg.memoryCriticalPercent
      diskWarningPercent := given thresholds "disk_warning_percent" cfg.diskWarningPercent
      diskFreeGbWarning := given thresholds "disk_free_gb_warning" cfg.diskFreeGbWarning
      loggingLevel := present logging "level" cfg.loggingLevel }
  | _ => cfg

end RawConfig

/-! ## Validation -/

/-- What the configuration code calls: `float` on texts and on bytes and `str` on
values that are no texts, each of which may raise, and `yaml.safe_load` on the
bytes of a file that is opened as UTF-8. -/
structure Runtime where
  floatOfText : PyStr → Option PyFloat
  floatOfBytes : List UInt8 → Option PyFloat
  strOf : PyValue → Option PyStr
  safeLoad : List UInt8 → Except PyError PyValue

namespace Runtime

variable (python : Runtime)

/-- What a call answers, or its exception. -/
def answered {Result : Type} (answer : Option Result) : Except PyError Result :=
  match answer with
  | some result => .ok result
  | none => .error .other

/-- `float(value)`. -/
def float : PyValue → Except PyError PyFloat
  | .str text => answered (python.floatOfText text)
  | .bytes value => answered (python.floatOfBytes value)
  | value => value.operand

/-- `str(value)`. -/
def str : PyValue → Except PyError PyStr
  | .str text => .ok text
  | value => answered (python.strOf value)

/-- `value.upper()`; of the values that are no texts only bytes have it. -/
def upper : PyValue → Except PyError PyValue
  | .str text => .ok (.str text.upper)
  | .bytes value =>
    .ok (.bytes (value.map fun byte => if 0x61 ≤ byte ∧ byte ≤ 0x7A then byte - 32 else byte))
  | _ => .error .other

end Runtime

namespace RawConfig

/-- A number that is not rejected, or the default. -/
def checked (value : PyValue) (reject : PyFloat → Bool) (default : ℤ) : PyValue :=
  match value.number? with
  | none => .int default
  | some number => if reject number then .int default else value

def collectionInterval (value : PyValue) : PyValue :=
  if allowedIntervals.any fun seconds => value.number? = some (.finite seconds) then value
  else .int 30

def lowFrequencyInterval (value : PyValue) : PyValue :=
  match value.integer? with
  | none => .int 300
  | some seconds => if seconds < 30 then .int 300 else value

def nonpositive (number : PyFloat) : Bool := number.le (.finite 0)

def negative (number : PyFloat) : Bool := number.lt (.finite 0)

/-- The critical temperature, raised when it is not above the warning. -/
def criticalTemperature (warning critical : PyFloat) : PyFloat :=
  if critical.le warning then warning.add (.finite 10) else critical

def logLevel (python : Runtime) (level : PyValue) : Except PyError PyValue := do
  if (← python.str level).upper ∈ allowedLogLevels then Runtime.upper level
  else return PyValue.text "INFO"

/-- The fields after validation, with the converted temperatures and the level. -/
def settled (config : RawConfig) (warning critical : PyFloat) (level : PyValue) : RawConfig :=
  { config with
    collectionIntervalSeconds := collectionInterval config.collectionIntervalSeconds
    lowFrequencyIntervalSeconds := lowFrequencyInterval config.lowFrequencyIntervalSeconds
    retentionHours := checked config.retentionHours nonpositive 24
    incidentWindowBeforeMinutes := checked config.incidentWindowBeforeMinutes negative 30
    incidentWindowAfterMinutes := checked config.incidentWindowAfterMinutes negative 5
    temperatureWarningCelsius := .float warning
    temperatureCriticalCelsius := .float (criticalTemperature warning critical)
    loggingLevel := level }

def validated (python : Runtime) (config : RawConfig) : Except PyError RawConfig := do
  let warning ← python.float config.temperatureWarningCelsius
  let critical ← python.float config.temperatureCriticalCelsius
  let level ← logLevel python config.loggingLevel
  return config.settled warning critical level

end RawConfig

/-! ## Loading -/

/-- The file at the path of the configuration. -/
inductive ConfigFile where
  | missing
  | unreadable
  | content (bytes : List UInt8)

/-- What is read from the file; without one the data is empty. -/
def ConfigFile.loaded (python : Runtime) : ConfigFile → Except PyError PyValue
  | .missing => .ok (.dict [])
  | .unreadable => .error .os
  | .content bytes => python.safeLoad bytes

/-- The document; what is no dictionary counts as empty. -/
def documentOf : PyValue → PyValue
  | .dict items => .dict items
  | _ => .dict []

def loadConfig (python : Runtime) (file : ConfigFile) : Except PyError RawConfig :=
  match file.loaded python with
  | .ok loaded => (RawConfig.fromDict (documentOf loaded)).validated python
  | .error .os => (RawConfig.fromDict (.dict [])).validated python
  | .error .yaml => (RawConfig.fromDict (.dict [])).validated python
  | .error error => .error error

end PcDiagnosticAgent
