import PcDiagnosticAgent.Agent.Config
import PcDiagnosticAgent.Library.Markup
import PcDiagnosticAgent.Library.StableSort
import PcDiagnosticAgent.PyValue
import PcDiagnosticAgent.Storage.Database

/-!
# The diagnostic report

`reports/report_generator.py` with its template and the time formats of
`common/time_utils.py`. A report is one text: the sections of the body are put
together from fixed markup and escaped texts, and the body is put into the
template. The text is encoded when it is written.

The report reads the database by rows whose text columns hold any text. The
evidence of a finding is a list of texts in JSON, which can name code points
that have no encoding. The local time zone, the clock, the machine and whether
the template can be read are the environment.

An entry of the timeline remembers the event it was made from; the report does
not look at that.
-/

set_option autoImplicit false

namespace PcDiagnosticAgent

open AutoTables Markup StableSort

namespace ReportGenerator

/-! ## What a report reads -/

structure StoredIncident where
  detectedAt : Epoch
  incidentType : Option String
  confidence : Option String
  previousSessionId : Option ℕ
  lastMetricTimestamp : Option Epoch
  rebootTimestamp : Option Epoch
  durationEstimate : Option ℚ

structure StoredFinding where
  incidentId : ℕ
  findingType : Option String
  severity : Option String
  confidence : Option String
  evidence : List PyStr
  explanation : Option String

structure ReportStore where
  sessions : AutoTable SessionRow
  events : AutoTable EventRow
  incidents : AutoTable StoredIncident
  findings : AutoTable StoredFinding
  metrics : MetricTable → List MetricRow

structure LocalTime where
  year : ℕ
  month : ℕ
  day : ℕ
  hour : ℕ
  minute : ℕ
  second : ℕ
deriving DecidableEq, Repr

/-- The local time where it is UTC, for whole seconds. A year begins in March
here, so that a leap day is its last one. -/
def utcTime (epoch : Epoch) : Except PyError LocalTime :=
  let seconds := epoch.floor
  let days := seconds / 86400 + 719468
  let dayOfEra := days % 146097
  let yearOfEra := (dayOfEra - dayOfEra / 1460 + dayOfEra / 36524 - dayOfEra / 146096) / 365
  let dayOfYear := dayOfEra - (365 * yearOfEra + yearOfEra / 4 - yearOfEra / 100)
  let fromMarch := (5 * dayOfYear + 2) / 153
  let month := if fromMarch < 10 then fromMarch + 3 else fromMarch - 9
  let year := yearOfEra + days / 146097 * 400 + (if month ≤ 2 then 1 else 0)
  if year < 1 ∨ 9999 < year then .error .other
  else .ok
    { year := year.toNat, month := month.toNat
      day := (dayOfYear - (153 * fromMarch + 2) / 5 + 1).toNat
      hour := (seconds % 86400 / 3600).toNat, minute := (seconds % 3600 / 60).toNat
      second := (seconds % 60).toNat }

example : utcTime 1787133600 = .ok ⟨2026, 8, 19, 10, 0, 0⟩ := by decide +kernel

/-- Markup that a caller puts before the report. -/
structure Fragment where
  text : String
  complete : Complete (PyStr.ofString text)

/-- `now` and `generatedAt` are the two readings of the clock. No moment outside
of the range of `datetime` has a local time. -/
structure Environment where
  localTime : Epoch → Except PyError LocalTime
  now : Epoch
  generatedAt : Epoch
  systemInfo : List (String × String)
  templateReadable : Bool
  prepend : Option Fragment

/-! ## Texts -/

/-- Fixed markup. -/
def html (text : String) : PyStr := PyStr.ofString text

/-- `_esc`. -/
def esc (text : PyStr) : PyStr := escape text

def twoDigits (value : ℕ) : PyStr := [48 + value / 10 % 10, 48 + value % 10]

/-- The format `%H:%M:%S`. -/
def LocalTime.clock (time : LocalTime) : PyStr :=
  twoDigits time.hour ++ [58] ++ twoDigits time.minute ++ [58] ++ twoDigits time.second

/-- The format `%Y-%m-%d %H:%M:%S`. -/
def LocalTime.full (time : LocalTime) : PyStr :=
  twoDigits (time.year / 100) ++ twoDigits time.year ++ [45] ++ twoDigits time.month ++ [45] ++
    twoDigits time.day ++ [32] ++ time.clock

def formatLocal (env : Environment) (epoch : Option Epoch) : Except PyError PyStr :=
  match epoch with
  | none => .ok (html "n/a")
  | some epoch => do return (← env.localTime epoch).full

def formatClock (env : Environment) (epoch : Epoch) : Except PyError PyStr := do
  return (← env.localTime epoch).clock

/-- The decimal digits of an integer. -/
def digits (value : ℤ) : PyStr := html (toString value)

/-- `int` of a float. -/
def truncate (value : ℚ) : ℤ := if value < 0 then -(-value).floor else value.floor

def fmtDuration (seconds : Option ℚ) : PyStr :=
  match seconds with
  | none => html "n/a"
  | some seconds =>
    let seconds := truncate seconds
    digits (seconds / 3600) ++ html "h " ++ digits (seconds % 3600 / 60) ++ html "m " ++
      digits (seconds % 3600 % 60) ++ html "s"

/-- `value or default`. -/
def orText (value : Option String) (default : String) : String :=
  match value with
  | some text => if text = "" then default else text
  | none => default

/-- A number that is true, which zero is not. -/
def truthy (value : Option ℚ) : Option ℚ := value.filter (· ≠ 0)

/-- `str` of a text column. -/
def textOf (value : Option String) : PyStr := html (value.getD "None")

/-! ## Tables and badges -/

/-- `_table`; only the keys are escaped here. -/
def table (rows : List (String × PyStr)) : PyStr :=
  html "<table>" ++
    rows.flatMap (fun row =>
      html "<tr><th>" ++ esc (html row.1) ++ html "</th><td>" ++ row.2 ++ html "</td></tr>") ++
    html "</table>"

def badgeClass (grade : String) : String :=
  if grade = "HIGH" then "high" else if grade = "MEDIUM" then "med" else "low"

/-- `<span class='badge {cls}'>`. -/
def badge (grade : String) : PyStr :=
  html "<span class='badge " ++ html (badgeClass grade) ++ html "'>"

/-! ## Summary and system -/

/-- The row about the last activity, when there was one. -/
def activityRow (env : Environment) (last : Option Epoch) :
    Except PyError (List (String × PyStr)) :=
  match truthy last with
  | none => .ok []
  | some last => do
    let text ← formatLocal env (some last)
    return [("Last activity", esc text)]

/-- The row about the duration, when there is an estimate. -/
def durationRow (duration : Option ℚ) : List (String × PyStr) :=
  match duration with
  | none => []
  | some seconds => [("Estimated hang duration", digits (truncate seconds) ++ html " seconds")]

def incidentSummary (env : Environment) (incident : Option StoredIncident) :
    Except PyError PyStr :=
  match incident with
  | none => .ok (html "<h2>Incident Summary</h2><div class='panel'>" ++
      html "No incident detected. The agent is running normally.</div>")
  | some incident => do
    let itype := orText incident.incidentType "UNKNOWN"
    let confidence := orText incident.confidence "LOW"
    let detected ← formatLocal env (some incident.detectedAt)
    let reboot ← formatLocal env incident.rebootTimestamp
    let activity ← activityRow env incident.lastMetricTimestamp
    let rows := [("Type", esc (html itype)),
      ("Confidence", badge confidence ++ esc (html confidence) ++ html "</span>"),
      ("Detected at", esc detected), ("Reboot at", esc reboot)] ++ activity ++
      durationRow incident.durationEstimate
    return html "<h2>Incident Summary</h2><div class='panel'>" ++ table rows ++ html "</div>"

def systemInfoSection (env : Environment) : PyStr :=
  let info (key default : String) : PyStr := html ((env.systemInfo.lookup key).getD default)
  html "<h2>System Information</h2><div class='panel'>" ++
    table [("Hostname", esc (info "hostname" "")), ("OS", esc (info "platform" "")),
      ("CPU", esc (info "cpu_model" "unknown")),
      ("Logical CPUs", esc (info "cpu_count_logical" "unknown")),
      ("Physical CPUs", esc (info "cpu_count_physical" "unknown")),
      ("Total RAM", esc (info "total_ram_gb" "unknown" ++ html " GB"))] ++
    html "</div>"

/-! ## Timeline -/

/-- An entry of the timeline, with the id of the event it was made from. -/
structure TimelineEntry where
  timestamp : Epoch
  label : PyStr
  detail : PyStr
  event : Option ℕ

/-- An entry together with the markup that shows it. -/
structure TimelineLine where
  entry : TimelineEntry
  text : PyStr

/-- The window of the timeline. Nothing can be subtracted from a missing
timestamp. -/
def timelineWindow (env : Environment) (config : Config) (incident : StoredIncident) :
    Except PyError (Epoch × Epoch) := do
  let first ← match (truthy incident.lastMetricTimestamp).or incident.rebootTimestamp with
    | none => .error .other
    | some first => .ok first
  let last := (truthy incident.rebootTimestamp).getD env.now
  return (first - config.incidentWindowBeforeMinutes * 60,
    last + config.incidentWindowAfterMinutes * 60)

/-- The timestamp lies in the window. -/
def within (window : Epoch × Epoch) (timestamp : Epoch) : Bool :=
  window.1 ≤ timestamp && timestamp ≤ window.2

/-- The events of the window in the order of their timestamps. -/
def windowEvents (store : ReportStore) (window : Epoch × Epoch) : List (Entry EventRow) :=
  sortBy (fun entry => entry.row.timestamp)
    (store.events.entries.filter fun entry => within window entry.row.timestamp)

/-- The rows of a metric table in the window in the order of their timestamps. -/
def windowRows (store : ReportStore) (table : MetricTable) (window : Epoch × Epoch) :
    List MetricRow :=
  sortBy MetricRow.timestamp ((store.metrics table).filter fun row => within window row.timestamp)

def eventEntry (entry : Entry EventRow) : TimelineEntry where
  timestamp := entry.row.timestamp
  label := textOf entry.row.provider ++ html " (Event " ++
    textOf (entry.row.eventId.map toString) ++ html ")"
  detail := (html (entry.row.message.getD "")).take 240
  event := some entry.id

/-- `mem_map.get(timestamp)`; the dictionary keeps the last row of a timestamp. -/
def memoryAt (rows : List MetricRow) (timestamp : Epoch) : SqlValue :=
  match (rows.filter fun row => row.timestamp = timestamp).getLast? with
  | none => .null
  | some row => row.column "memory_percent"

/-- The format `.0f`, which is one of numbers. -/
def formatPercent (value : SqlValue) : Except PyError PyStr :=
  match value with
  | .number value => .ok (html (Text.formatFixed 0 value) ++ html "%")
  | _ => .error .other

def sampleDetail (cpu memory : SqlValue) : Except PyError PyStr := do
  match memory with
  | .null => return html "CPU " ++ (← formatPercent cpu)
  | memory => return html "CPU " ++ (← formatPercent cpu) ++ html " · RAM " ++
      (← formatPercent memory)

def sampleEntry (memory : List MetricRow) (row : MetricRow) : Except PyError TimelineEntry := do
  let detail ← sampleDetail (row.column "cpu_percent") (memoryAt memory row.timestamp)
  return { timestamp := row.timestamp, label := html "Metrics", detail, event := none }

def timelineEntries (env : Environment) (config : Config) (store : ReportStore)
    (incident : StoredIncident) : Except PyError (List TimelineEntry) := do
  let window ← timelineWindow env config incident
  let events := (windowEvents store window).take 400
  let memory := windowRows store .memory window
  let samples ← (windowRows store .cpu window).mapM (sampleEntry memory)
  return sortBy TimelineEntry.timestamp (events.map eventEntry ++ samples)

def timelineLine (env : Environment) (entry : TimelineEntry) : Except PyError TimelineLine := do
  let clock ← formatClock env entry.timestamp
  return { entry, text := html "<div class='tl'><div class='t'>" ++ esc clock ++ html "</div>" ++
    (html "<div class='d'><b>" ++ esc entry.label ++ html "</b> — " ++ esc entry.detail ++
      html "</div></div>") }

/-- The lines that are shown. -/
def timelineLines (env : Environment) (config : Config) (store : ReportStore)
    (incident : StoredIncident) : Except PyError (List TimelineLine) := do
  let entries ← timelineEntries env config store incident
  (entries.take 300).mapM (timelineLine env)

def timelineSection (env : Environment) (config : Config) (store : ReportStore)
    (incident : StoredIncident) : Except PyError PyStr := do
  let lines ← timelineLines env config store incident
  if lines.isEmpty then
    return html "<h2>Timeline</h2><div class='panel muted'>No data in the incident window.</div>"
  return html "<h2>Timeline</h2><div class='panel timeline'>" ++
    lines.flatMap TimelineLine.text ++ html "</div>"

/-! ## Previous session -/

/-- A flag of three values as a text. -/
def threeWay (flag : Option ℤ) (one zero : String) : String :=
  if flag = some 1 then one else if flag = some 0 then zero else "Unknown"

/-- A flag as a text. -/
def yesNo (flag : Option ℤ) : PyStr :=
  html (if flag.any (· ≠ 0) then "Yes" else "No")

def previousSessionSection (env : Environment) (store : ReportStore)
    (incident : StoredIncident) : Except PyError PyStr := do
  match incident.previousSessionId.filter (· ≠ 0) with
  | none =>
    return html "<h2>Previous Session</h2><div class='panel muted'>" ++
      html "No prior session recorded by this agent.</div>"
  | some sessionId =>
    match store.sessions.find? sessionId with
    | none =>
      return html "<h2>Previous Session</h2><div class='panel muted'>" ++
        html "Previous session data unavailable.</div>"
    | some session =>
      let boot ← formatLocal env (some session.bootTime)
      let clean := threeWay session.previousSessionClean "Yes" "No"
      let unexpected := threeWay session.previousSessionClean "No" "Yes"
      let rows := [("Previous boot", esc boot),
        ("Previous session ended cleanly", esc (html clean)),
        ("Previous session ended unexpectedly", esc (html unexpected)),
        ("Kernel-Power 41", yesNo session.kernelPowerDetected),
        ("BugCheck", yesNo session.bugcheckDetected),
        ("Uptime before boot", fmtDuration session.uptimeBeforeBoot)]
      return html "<h2>Previous Session</h2><div class='panel'>" ++ table rows ++ html "</div>"

/-! ## Findings and hints -/

def listItems (items : List PyStr) : PyStr :=
  items.flatMap fun item => html "<li>" ++ esc item ++ html "</li>"

def findingBlock (finding : StoredFinding) : PyStr :=
  html "<div class='finding'><b>" ++ esc (textOf finding.findingType) ++ html "</b> " ++
    (badge (finding.severity.getD "") ++ esc (html (finding.severity.getD "")) ++
      html "</span> ") ++
    (html "<span class='muted'>confidence " ++ esc (html (finding.confidence.getD "")) ++
      html "</span>") ++
    (html "<div class='muted'>" ++ esc (html (finding.explanation.getD "")) ++ html "</div>") ++
    (html "<ul>" ++ listItems finding.evidence ++ html "</ul></div>")

def findingsSection (findings : List StoredFinding) : PyStr :=
  if findings.isEmpty then
    html "<h2>Findings</h2><div class='panel muted'>No findings.</div>"
  else html "<h2>Findings</h2>" ++ findings.flatMap findingBlock

/-- `CAUSE_HINTS`. -/
def causeHints : List (String × List String) :=
  [("POSSIBLE_HARD_HANG", ["A hard hang (system froze, no BSOD) is likely."]),
    ("POSSIBLE_POWER_LOSS", ["Power was likely interrupted abruptly."]),
    ("POSSIBLE_HARDWARE_ERROR", ["A hardware-level fault (WHEA) may be present."]),
    ("POSSIBLE_DRIVER_PROBLEM", ["A device driver may be misbehaving."]),
    ("POSSIBLE_THERMAL_PROBLEM", ["Overheating may have occurred."]),
    ("POSSIBLE_MEMORY_PRESSURE", ["The system may have been under memory pressure."]),
    ("POSSIBLE_CPU_PRESSURE", ["The system may have been under CPU load."]),
    ("POSSIBLE_DISK_PROBLEM", ["A storage device or driver may be failing."]),
    ("POSSIBLE_GPU_PROBLEM", ["The GPU or its driver may be failing."]),
    ("POSSIBLE_CRASH", ["A blue screen (BugCheck) was recorded."]),
    ("INSUFFICIENT_EVIDENCE", ["Not enough evidence to propose a cause."])]

/-- `NEXT_STEPS`. -/
def nextSteps : List (String × List String) :=
  [("POSSIBLE_HARD_HANG",
      ["Review the timeline for the last activity before the freeze.",
        "Check for driver updates (GPU, chipset, storage).", "Run memory and disk diagnostics.",
        "Inspect power delivery if it recurs."]),
    ("POSSIBLE_POWER_LOSS",
      ["Check the PSU and power connections.",
        "Verify the machine is not on a failing UPS/surge strip.",
        "Review Kernel-Power 41 details."]),
    ("POSSIBLE_HARDWARE_ERROR",
      ["Review WHEA events for the faulty component.", "Run manufacturer hardware diagnostics.",
        "Test RAM (memtest) and CPU under load."]),
    ("POSSIBLE_DRIVER_PROBLEM",
      ["Update the offending driver.",
        "Check for known driver issues for the installed version."]),
    ("POSSIBLE_THERMAL_PROBLEM",
      ["Check cooling, fans, and thermal paste.", "Ensure airflow is not blocked."]),
    ("POSSIBLE_MEMORY_PRESSURE",
      ["Identify the top memory consumers.", "Consider increasing RAM or reducing workload."]),
    ("POSSIBLE_DISK_PROBLEM",
      ["Check SMART data and replace failing storage.", "Check the storage driver and cable."]),
    ("POSSIBLE_GPU_PROBLEM",
      ["Reinstall/update the GPU driver.", "Check GPU temperatures and seating."]),
    ("POSSIBLE_CRASH",
      ["Analyse the BugCheck code and the offending module.",
        "Update or roll back the implicated driver."]),
    ("INSUFFICIENT_EVIDENCE",
      ["Keep the agent running and reproduce the issue.",
        "Collect more data over a longer period."])]

/-- What a table says about the types of the findings, each text once. -/
def gathered (hints : List (String × List String)) (findings : List StoredFinding)
    (default : String) : List String :=
  let texts := (findings.flatMap fun finding =>
    ((finding.findingType.bind fun type => hints.lookup type).getD [])).eraseDups
  if texts.isEmpty then [default] else texts

def hintSection (heading : String) (texts : List String) : PyStr :=
  html "<h2>" ++ html heading ++ html "</h2><div class='panel'><ul>" ++
    listItems (texts.map html) ++ html "</ul></div>"

def causesSection (findings : List StoredFinding) : PyStr :=
  hintSection "Possible Causes"
    (gathered causeHints findings "No probable cause could be determined.")

def nextStepsSection (findings : List StoredFinding) : PyStr :=
  hintSection "Recommended Next Steps"
    (gathered nextSteps findings "Continue monitoring with the agent installed.")

/-! ## The template -/

/-- A template around its two placeholders. -/
structure Template where
  head : PyStr
  middle : PyStr
  foot : PyStr

def generatedAtMark : PyStr := html "\x7b\x7bGENERATED_AT\x7d\x7d"

def bodyMark : PyStr := html "\x7b\x7bBODY\x7d\x7d"

def Template.text (template : Template) : PyStr :=
  template.head ++ (generatedAtMark ++ (template.middle ++ (bodyMark ++ template.foot)))

/-- The lines of the template file up to the first placeholder. -/
def templateHead : List String := [
  "<!doctype html>\n",
  "<html lang=\"en\">\n",
  "<head>\n",
  "<meta charset=\"utf-8\">\n",
  "<title>PC Diagnostic Report</title>\n",
  "<style>\n",
  "  :root \x7b --bg:#0f172a; --panel:#1e293b; --text:#e2e8f0; --muted:#94a3b8;\n",
  "          --accent:#38bdf8; --warn:#f59e0b; --crit:#ef4444; --ok:#22c55e; \x7d\n",
  "  * \x7b box-sizing: border-box; \x7d\n",
  "  body \x7b margin:0; font-family:\"Segoe UI\",system-ui,sans-serif; background:var(--bg);\n",
  "         color:var(--text); line-height:1.5; \x7d\n",
  "  .wrap \x7b max-width:980px; margin:0 auto; padding:24px; \x7d\n",
  "  h1 \x7b font-size:1.7rem; margin:0 0 4px; \x7d\n",
  "  h2 \x7b font-size:1.15rem; border-bottom:1px solid #334155; padding-bottom:6px;\n",
  "       margin:28px 0 12px; color:var(--accent); \x7d\n",
  "  .muted \x7b color:var(--muted); font-size:0.85rem; \x7d\n",
  "  .panel \x7b background:var(--panel); border-radius:8px; padding:16px; margin:12px 0; \x7d\n",
  "  table \x7b width:100%; border-collapse:collapse; \x7d\n",
  "  th, td \x7b text-align:left; padding:6px 8px; border-bottom:1px solid #334155;\n",
  "           font-size:0.9rem; vertical-align:top; \x7d\n",
  "  th \x7b color:var(--muted); font-weight:600; \x7d\n",
  "  .badge \x7b display:inline-block; padding:2px 8px; border-radius:12px; font-size:0.75rem;\n",
  "           font-weight:700; \x7d\n",
  "  .badge.high \x7b background:#7f1d1d; color:#fecaca; \x7d\n",
  "  .badge.med  \x7b background:#78350f; color:#fde68a; \x7d\n",
  "  .badge.low  \x7b background:#164e63; color:#a5f3fc; \x7d\n",
  "  .badge.ok   \x7b background:#14532d; color:#bbf7d0; \x7d\n",
  "  .timeline \x7b border-left:2px solid #334155; margin-left:8px; padding-left:16px; \x7d\n",
  "  .tl \x7b position:relative; padding:4px 0 12px; \x7d\n",
  "  .tl .t \x7b color:var(--accent); font-weight:600; font-size:0.85rem; \x7d\n",
  "  .tl .d \x7b color:var(--muted); font-size:0.85rem; \x7d\n",
  "  .finding \x7b border-left:3px solid var(--warn); padding:8px 12px; margin:8px 0;\n",
  "             background:var(--panel); border-radius:4px; \x7d\n",
  "  ul \x7b margin:4px 0 4px 20px; padding:0; \x7d\n",
  "  code \x7b background:#0b1120; padding:1px 5px; border-radius:4px; font-size:0.85rem; \x7d\n",
  "</style>\n",
  "</head>\n",
  "<body>\n",
  "<div class=\"wrap\">\n",
  "  <h1>PC Diagnostic Report</h1>\n",
  "  <div class=\"muted\">Generated: "]

/-- `templates/report.html`. -/
def reportTemplate : Template where
  head := templateHead.flatMap html
  middle := html "</div>\n  "
  foot := html "\n</div>\n</body>\n</html>\n"

/-- The template that stands for an unreadable file. -/
def fallbackTemplate : Template where
  head := html "<html><body><h1>PC Diagnostic Report</h1><p>Generated: "
  middle := html "</p>"
  foot := html "</body></html>"

def loadTemplate (env : Environment) : Template :=
  if env.templateReadable then reportTemplate else fallbackTemplate

/-! ## The report -/

def listFindings (store : ReportStore) (incidentId : ℕ) : List StoredFinding :=
  store.findings.rows.filter fun finding => finding.incidentId = incidentId

/-- The incident with the given id, or else the newest one, with its findings. -/
def selected (store : ReportStore) (incidentId : Option ℕ) :
    Option StoredIncident × List StoredFinding :=
  match incidentId.bind store.incidents.find? with
  | some incident => (some incident, (incidentId.map (listFindings store)).getD [])
  | none =>
    match store.incidents.latest with
    | some newest => (some newest.row, listFindings store newest.id)
    | none => (none, (incidentId.map (listFindings store)).getD [])

/-- The sections about an incident. -/
def incidentSections (env : Environment) (config : Config) (store : ReportStore)
    (incident : Option StoredIncident) : Except PyError (List PyStr) :=
  match incident with
  | none => .ok []
  | some incident => do
    let timeline ← timelineSection env config store incident
    let session ← previousSessionSection env store incident
    return [timeline, session]

/-- The sections of the body. -/
def sections (env : Environment) (config : Config) (store : ReportStore)
    (incidentId : Option ℕ) : Except PyError (List PyStr) := do
  let chosen := selected store incidentId
  let prepend := (env.prepend.filter fun fragment => fragment.text ≠ "").toList.map
    fun fragment => html fragment.text
  let summary ← incidentSummary env chosen.1
  let about ← incidentSections env config store chosen.1
  return prepend ++ [summary, systemInfoSection env] ++ about ++
    [findingsSection chosen.2, causesSection chosen.2, nextStepsSection chosen.2]

/-- The text of the page. -/
def render (env : Environment) (config : Config) (store : ReportStore)
    (incidentId : Option ℕ) : Except PyError PyStr := do
  let body := (html "\n").intercalate (← sections env config store incidentId)
  let generatedAt ← formatLocal env (some env.generatedAt)
  let rendered := fill generatedAtMark generatedAt 0 (loadTemplate env).text
  return fill bodyMark body 0 rendered

/-- `generate_report`: the page that is written. A page that cannot be encoded
raises, and the file stays empty. -/
def generateReport (env : Environment) (config : Config) (store : ReportStore)
    (incidentId : Option ℕ) : Except PyError PyStr := do
  let rendered ← render env config store incidentId
  if rendered.encodable then return rendered else throw .other

end ReportGenerator

end PcDiagnosticAgent
