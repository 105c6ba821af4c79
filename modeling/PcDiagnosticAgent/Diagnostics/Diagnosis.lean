import PcDiagnosticAgent.Agent.Config
import PcDiagnosticAgent.Diagnostics.BootDetector
import PcDiagnosticAgent.Diagnostics.TerminationInference
import PcDiagnosticAgent.Library.OptionalMax

/-!
# The diagnostic engine

`diagnostics/diagnosis.py`. `diagnose` is everything `run_diagnosis` computes
before it persists; `runDiagnosis` stores the incident unless one is stored
within five seconds of the boot time; `diagnoseLatest` rebuilds the transition
from the session rows.

The engine reads two windows. The transition window decides whether there is
an incident and of which type; the incident window feeds the findings, the
counts in the evidence and the summary it returns.
-/

set_option autoImplicit false

namespace PcDiagnosticAgent

open AutoTables EventAnalyzer

namespace Diagnosis

/-! ## Reads -/

/-- The metric tables whose timestamps count as activity. -/
def activityTables : List MetricTable := [.cpu, .memory, .uptime, .process]

/-- `SELECT MAX(timestamp) FROM table WHERE timestamp < ?`. -/
def maxTimestampBefore (db : Database) (before : Epoch) (table : MetricTable) : Option Epoch :=
  (((db.metrics table).map MetricRow.timestamp).filter (· < before)).max?

def lastMetricTimestamp (db : Database) (before : Epoch) : Option Epoch :=
  let metrics := activityTables.foldl
    (fun best table => OptionalMax.optMax best (maxTimestampBefore db before table)) none
  match db.getHeartbeat with
  | none => metrics
  | some heartbeat =>
    if heartbeat < before then OptionalMax.optMax metrics (some heartbeat) else metrics

structure Aggregates where
  maxCpuPercent : Option ℚ := none
  maxMemoryPercent : Option ℚ := none
  maxTemperature : Option ℚ := none
  maxDiskPercent : Option ℚ := none
deriving DecidableEq, Repr

/-- `SELECT MAX(column) FROM table WHERE timestamp >= ? AND timestamp <= ?`, for
a column of numbers and `NULL`s. -/
def maxOf (db : Database) (start stop : Epoch) (table : MetricTable) (column : String) :
    Option ℚ :=
  (((db.metrics table).filter fun row => start ≤ row.timestamp ∧ row.timestamp ≤ stop).filterMap
    fun row => (row.column column).number?).max?

def aggregates (db : Database) (start stop : Epoch) : Aggregates where
  maxCpuPercent := maxOf db start stop .cpu "cpu_percent"
  maxMemoryPercent := maxOf db start stop .memory "memory_percent"
  maxTemperature := maxOf db start stop .temperature "temperature_c"
  maxDiskPercent := maxOf db start stop .disk "percent"

/-! ## Findings -/

/-- The earliest timestamp; a zero timestamp is falsy and skipped. -/
def firstTs (events : List EventRow) : Option Epoch :=
  ((events.map (·.timestamp)).filter (· ≠ 0)).min?

/-- A finding that is reported when events were counted. -/
def countFinding (count : ℕ) (finding : Finding) : List Finding :=
  if 0 < count then [finding] else []

/-- A finding that is reported when a maximum reaches a threshold. -/
def thresholdFinding (maximum : Option ℚ) (threshold : ℚ) (finding : ℚ → Finding) :
    List Finding :=
  match maximum with
  | none => []
  | some value => if threshold ≤ value then [finding value] else []

def hardwareFindings (summary : Summary) : List Finding :=
  let level : Level := if 3 ≤ summary.wheaCount then .high else .medium
  countFinding summary.wheaCount
    { type := .hardware
      severity := level
      confidence := level
      evidence := [toString summary.wheaCount ++ " WHEA hardware error event(s) detected"]
      timestamp := firstTs summary.wheaEvents
      explanation := "Windows Hardware Error Architecture (WHEA) events occurred " ++
        "around the incident window. This points to a hardware-level " ++
        "fault and warrants hardware diagnostics." }

def diskFindings (summary : Summary) : List Finding :=
  countFinding summary.diskErrorCount
    { type := .disk
      severity := .medium
      confidence := .medium
      evidence := [toString summary.diskErrorCount ++ " disk/storage error event(s) detected"]
      timestamp := firstTs summary.diskEvents
      explanation := "Disk or filesystem/storage driver error events were logged. " ++
        "Storage problems can cause freezes." }

def displayFindings (summary : Summary) : List Finding :=
  countFinding summary.displayErrorCount
    { type := .gpu
      severity := .medium
      confidence := .medium
      evidence := [toString summary.displayErrorCount ++
        " display/graphics driver error event(s)"]
      timestamp := firstTs summary.displayEvents
      explanation := "Display driver errors were logged. A failing or buggy GPU " ++
        "driver can cause hard hangs." }

def thermalFindings (aggregates : Aggregates) (config : Config) : List Finding :=
  thresholdFinding aggregates.maxTemperature config.temperatureCriticalCelsius fun value =>
    { type := .thermal
      severity := .high
      confidence := .medium
      evidence := ["Maximum temperature reached " ++ Text.formatFixed 1 value ++ "°C"]
      timestamp := none
      explanation := "A critical temperature threshold was exceeded. Overheating " ++
        "can trigger sudden shutdowns or throttling-induced hangs." }

def memoryFindings (aggregates : Aggregates) (config : Config) : List Finding :=
  thresholdFinding aggregates.maxMemoryPercent config.memoryWarningPercent fun value =>
    { type := .memory
      severity := .medium
      confidence := .low
      evidence := ["Memory usage peaked at " ++ Text.formatFixed 1 value ++ "%"]
      timestamp := none
      explanation := "Sustained high memory pressure was observed. This is " ++
        "evidence, not proof of a defect." }

def cpuFindings (aggregates : Aggregates) (config : Config) : List Finding :=
  thresholdFinding aggregates.maxCpuPercent config.cpuWarningPercent fun value =>
    { type := .cpu
      severity := .low
      confidence := .low
      evidence := ["CPU utilisation peaked at " ++ Text.formatFixed 1 value ++ "%"]
      timestamp := none
      explanation := "High CPU utilisation was observed before the incident." }

/-- The line about the gap, in the evidence of hangs and of incidents. -/
def gapEvidence (inference : TerminationInference) : List String :=
  match inference.hangGapSeconds with
  | none => []
  | some gap => ["Diagnostics stopped " ++ Text.formatFixed 0 gap ++ "s before reboot"]

def hangEvidence (inference : TerminationInference) : List String :=
  ["No clean shutdown event", "Unclean reboot detected", "No BugCheck"] ++ gapEvidence inference

def terminationFindings (inference : TerminationInference) : List Finding :=
  if inference.probableHardHang then
    [{ type := .hardHang
       severity := .high
       confidence := inference.confidence
       evidence := hangEvidence inference
       timestamp := none
       explanation := "The system stopped writing diagnostics before an unclean " ++
        "reboot with no BugCheck. This is consistent with a hard hang " ++
        "followed by a forced restart." }]
  else if inference.probablePowerLoss then
    [{ type := .powerLoss
       severity := .high
       confidence := inference.confidence
       evidence := ["Kernel-Power 41 present", "No clean shutdown"]
       timestamp := none
       explanation := "Abrupt power interruption is possible. Kernel-Power 41 alone " ++
        "does not prove a PSU failure." }]
  else if inference.probableCrash then
    [{ type := .crash
       severity := .high
       confidence := .high
       evidence := ["BugCheck event detected"]
       timestamp := none
       explanation := "A BugCheck (blue screen) was recorded." }]
  else []

def insufficientFinding : Finding where
  type := .insufficient
  severity := .low
  confidence := .low
  evidence := []
  timestamp := none
  explanation := "Not enough evidence to propose a cause."

def severityRank : Level → ℕ
  | .high => 3
  | .medium => 2
  | .low => 1

def buildFindings (summary : Summary) (aggregates : Aggregates)
    (inference : TerminationInference) (config : Config) : List Finding :=
  let findings := hardwareFindings summary ++ diskFindings summary ++ displayFindings summary ++
    thermalFindings aggregates config ++ memoryFindings aggregates config ++
    cpuFindings aggregates config ++ terminationFindings inference
  let findings := if findings = [] then [insufficientFinding] else findings
  -- a stable sort in descending order of severity
  findings.insertionSort fun first second =>
    severityRank second.severity ≤ severityRank first.severity

/-! ## The incident -/

/-- A line that is given when its condition holds. -/
def line (condition : Bool) (text : String) : List String := if condition then [text] else []

/-- A line about a maximum, when there is one. -/
def maximumLine (maximum : Option ℚ) (text : String) (unit : String) : List String :=
  match maximum with
  | none => []
  | some value => [text ++ Text.formatFixed 1 value ++ unit]

def kernelPowerLine : String := "Kernel-Power 41 detected"

def bugcheckLine : String := "BugCheck detected"

def uncleanLine : String := "No clean shutdown event"

def evidence (summary : Summary) (aggregates : Aggregates) (inference : TerminationInference)
    (crash : CrashSignals) : List String :=
  line crash.kernelPowerDetected kernelPowerLine ++
    line crash.bugcheckDetected bugcheckLine ++
    line (summary.wheaCount ≠ 0) (toString summary.wheaCount ++ " WHEA event(s)") ++
    line (summary.diskErrorCount ≠ 0)
      (toString summary.diskErrorCount ++ " disk error event(s)") ++
    line (summary.displayErrorCount ≠ 0)
      (toString summary.displayErrorCount ++ " display error event(s)") ++
    line (!crash.cleanShutdown) uncleanLine ++
    gapEvidence inference ++
    maximumLine aggregates.maxTemperature "Max temperature " "°C" ++
    maximumLine aggregates.maxMemoryPercent "Max RAM " "%" ++
    maximumLine aggregates.maxCpuPercent "Max CPU " "%"

def incidentType (inference : TerminationInference) (crash : CrashSignals) : IncidentType :=
  if crash.bugcheckDetected then .bsod
  else if inference.probableHardHang then .hardHang
  else if inference.probablePowerLoss then .powerLoss
  else if crash.unexpectedShutdown then .unexpectedReboot
  else .unknown

def incidentConfidence (inference : TerminationInference) (crash : CrashSignals)
    (findings : List Finding) : Level :=
  if crash.bugcheckDetected then .high
  else if inference.probableHardHang || inference.probablePowerLoss then inference.confidence
  else findings.foldl (fun best finding =>
    if severityRank best < severityRank finding.confidence then finding.confidence else best) .low

/-! ## The engine -/

structure DiagnosisResult where
  incident : Option Incident
  findings : List Finding
  summary : Option Summary
  aggregates : Aggregates
  inference : Option TerminationInference

/-- Without a previous boot the engine looks back over the retention time. -/
def transitionStart (transition : Transition) (config : Config) : Epoch :=
  transition.previousBootTime.getD (transition.bootTime - config.retentionHours * 3600)

/-- The events that decide about a transition. -/
def transitionEvents (db : Database) (transition : Transition) (config : Config) :
    List EventRow :=
  db.eventsBetween (transitionStart transition config) (transition.bootTime + 120)

/-- The events around the reboot, as configured. -/
def incidentEvents (db : Database) (transition : Transition) (config : Config) : List EventRow :=
  db.eventsBetween (transition.bootTime - config.incidentWindowBeforeMinutes * 60)
    (transition.bootTime + config.incidentWindowAfterMinutes * 60)

def crashSignals (db : Database) (transition : Transition) (config : Config) : CrashSignals :=
  detectCrash (summarize (transitionEvents db transition config)) transition.previousSessionClean

def diagnose (db : Database) (transition : Transition) (config : Config) : DiagnosisResult :=
  let bootTime := transition.bootTime
  let incidentSummary := summarize (incidentEvents db transition config)
  let crash := crashSignals db transition config
  let lastActivity := lastMetricTimestamp db bootTime
  let aggregates := aggregates db (bootTime - config.incidentWindowBeforeMinutes * 60)
    (bootTime + config.incidentWindowAfterMinutes * 60)
  let inference := inferTermination crash lastActivity bootTime config.collectionIntervalSeconds
  let findings := buildFindings incidentSummary aggregates inference config
  if crash.unexpectedShutdown || crash.bugcheckDetected then
    { incident := some
        { detectedAt := bootTime
          incidentType := incidentType inference crash
          confidence := incidentConfidence inference crash findings
          previousSessionId := transition.previousSessionId
          lastMetricTimestamp := lastActivity
          rebootTimestamp := bootTime
          durationEstimate := inference.hangGapSeconds
          findings := findings.map Finding.type
          evidence := evidence incidentSummary aggregates inference crash }
      findings := findings
      summary := some incidentSummary
      aggregates := aggregates
      inference := some inference }
  else
    { incident := none
      findings := []
      summary := some incidentSummary
      aggregates := aggregates
      inference := none }

/-- Some incident is stored within five seconds of the reboot, whatever its
previous session. -/
def incidentExists (db : Database) (_previousSessionId : Option ℕ) (rebootTimestamp : Epoch) :
    Bool :=
  db.incidents.rows.any fun row =>
    row.rebootTimestamp.any fun stored =>
      rebootTimestamp - 5 ≤ stored ∧ stored ≤ rebootTimestamp + 5

def runDiagnosis (db : Database) (transition : Transition) (config : Config)
    (persist : Bool) : Database × DiagnosisResult :=
  let result := diagnose db transition config
  match result.incident with
  | none => (db, result)
  | some incident =>
    if persist &&
        !incidentExists db transition.previousSessionId transition.bootTime then
      let (db, incidentId) := db.createIncident incident result.findings
      (db, { result with incident := some { incident with incidentId := some incidentId } })
    else (db, result)

/-- The transition that led to a session, read from its row and from the row
before it. -/
def latestTransition (db : Database) (latest : Entry SessionRow) : Transition :=
  let prev := db.earlierSession latest.id
  { bootTime := latest.row.bootTime
    previousBootTime :=
      match latest.row.previousBootTime with
      | some previous => if previous = 0 then prev.map (·.row.bootTime) else some previous
      | none => prev.map (·.row.bootTime)
    previousSessionId := prev.map (·.id)
    previousSessionClean := prev.bind fun entry => entry.row.previousSessionClean.map (· ≠ 0) }

def diagnoseLatest (db : Database) (config : Config) : DiagnosisResult :=
  match db.latestSession with
  | none =>
    { incident := none, findings := [], summary := none, aggregates := {}, inference := none }
  | some latest => (runDiagnosis db (latestTransition db latest) config false).2

end Diagnosis

end PcDiagnosticAgent
