import PcDiagnosticAgent.Agent.AccountedIncidents
import PcDiagnosticAgent.Reports.FreeText
import PcDiagnosticAgent.Storage.TextColumns

/-!
# The report of a start

What `startup_analysis` does once it has a diagnosis: an incident that was just
stored gets a report. Between the two lies the database, in which types and
grades are texts and the evidence of a finding is a JSON document (`stored`).

The document is read back as it was written, so the report shows the diagnosis:
its type, its confidence, every finding in the order of the engine with its
evidence, and for every finding its causes and next steps (`Shows`). Whatever
the agent did to the database before, the page is written exactly when the
moments it names have a local time and its samples can be formatted
(`startup_report`).
-/

set_option autoImplicit false

namespace PcDiagnosticAgent

open AutoTables EventAnalyzer BootDetector Diagnosis

namespace ReportGenerator

/-! ## What a report finds in the database -/

def storedIncident (row : IncidentRow) : StoredIncident where
  detectedAt := row.detectedAt
  incidentType := row.incidentType.map incidentTypeText
  confidence := row.confidence.map levelText
  previousSessionId := row.previousSessionId
  lastMetricTimestamp := row.lastMetricTimestamp
  rebootTimestamp := row.rebootTimestamp
  durationEstimate := row.durationEstimate

def storedFinding (row : FindingRow) : StoredFinding where
  incidentId := row.incidentId
  findingType := some (findingTypeText row.type)
  severity := some (levelText row.severity)
  confidence := some (levelText row.confidence)
  evidence := readJsonColumn (jsonColumn row.evidence)
  explanation := some row.explanation

/-- The rows of the database as the report reads them. -/
def stored (db : Database) : ReportStore where
  sessions := db.sessions
  events := db.events
  incidents := db.incidents.map storedIncident
  findings := db.findings.map storedFinding
  metrics := db.metrics

/-- A finding of the engine as the report is to show it. -/
def asStored (incidentId : ℕ) (finding : Finding) : StoredFinding where
  incidentId := incidentId
  findingType := some (findingTypeText finding.type)
  severity := some (levelText finding.severity)
  confidence := some (levelText finding.confidence)
  evidence := finding.evidence.map PyStr.ofString
  explanation := some finding.explanation

theorem storedFinding_eq (row : FindingRow) :
    storedFinding row = asStored row.incidentId row.toFinding := by
  simp only [storedFinding, asStored, readJsonColumn_jsonColumn]

/-- The report selects the incident with the given id and its findings. -/
theorem selected_stored {db : Database} {incident : Entry IncidentRow}
    (member : incident ∈ db.incidents.entries) :
    selected (stored db) (some incident.id) =
      (some (storedIncident incident.row),
        (db.listFindings incident.id).map fun row => asStored row.incidentId row.toFinding) := by
  have found : (stored db).incidents.find? incident.id = some (storedIncident incident.row) := by
    rw [stored, AutoTable.find?_map, AutoTable.find?_of_mem member]
    rfl
  have findings : listFindings (stored db) incident.id =
      (db.listFindings incident.id).map storedFinding := by
    rw [listFindings, stored, AutoTable.rows_map, List.filter_map]
    rfl
  rw [selected, Option.bind_some, found, Option.map_some, Option.getD_some, findings]
  exact congrArg (Prod.mk _) (List.map_congr_left fun row _ => storedFinding_eq row)

/-! ## What a page shows -/

/-- A row of a table. -/
def tableRow (key : String) (value : PyStr) : PyStr :=
  html "<tr><th>" ++ esc (html key) ++ html "</th><td>" ++ value ++ html "</td></tr>"

/-- The grade of an incident with its badge. -/
def grade (level : Level) : PyStr :=
  badge (levelText level) ++ esc (html (levelText level)) ++ html "</span>"

/-- What a table of hints says about a type of finding. -/
def hintsFor (hints : List (String × List String)) (type : FindingType) : List String :=
  (hints.lookup (findingTypeText type)).getD []

def listItem (text : String) : PyStr := html "<li>" ++ esc (html text) ++ html "</li>"

/-- The page shows the incident and its findings. -/
structure Shows (env : Environment) (page : PyStr) (incident : Incident)
    (findings : List Finding) : Prop where
  type : tableRow "Type" (esc (html (incidentTypeText incident.incidentType))) <:+: page
  confidence : tableRow "Confidence" (grade incident.confidence) <:+: page
  detected : ∃ time, env.localTime incident.detectedAt = .ok time ∧
    tableRow "Detected at" (esc time.full) <:+: page
  duration : ∀ seconds ∈ incident.durationEstimate, tableRow "Estimated hang duration"
    (digits (truncate seconds) ++ html " seconds") <:+: page
  listed : ∃ id, findings.flatMap (fun finding => findingBlock (asStored id finding)) <:+: page
  causes : ∀ finding ∈ findings, ∀ hint ∈ hintsFor causeHints finding.type,
    listItem hint <:+: page
  steps : ∀ finding ∈ findings, ∀ hint ∈ hintsFor nextSteps finding.type, listItem hint <:+: page

theorem infix_flatMap {Item : Type} {items : List Item} {item : Item} (member : item ∈ items)
    (piece : Item → PyStr) : piece item <:+: items.flatMap piece := by
  rw [List.flatMap_def]
  exact List.infix_of_mem_flatten (List.mem_map_of_mem member)

theorem infix_intercalate {separator text : PyStr} {texts : List PyStr} (member : text ∈ texts) :
    text <:+: separator.intercalate texts := by
  induction texts with
  | nil => cases member
  | cons first texts ih =>
    cases texts with
    | nil =>
      have single : separator.intercalate [first] = text := by
        rw [List.intercalate_singleton, List.mem_singleton.mp member]
      exact single.symm ▸ List.infix_rfl
    | cons next texts =>
      rw [List.intercalate_cons_cons]
      rcases List.mem_cons.mp member with rfl | later
      · exact List.infix_append_of_infix_left (List.infix_append_of_infix_left List.infix_rfl)
      · exact List.infix_append_of_infix_right (ih later)

/-- The page contains each section of its body. -/
theorem infix_page (template : Template) (generatedAt : PyStr) {part : PyStr}
    {parts : List PyStr} (member : part ∈ parts) :
    part <:+: template.page generatedAt ((html "\n").intercalate parts) := by
  have body : part <:+: (html "\n").intercalate parts := infix_intercalate member
  unfold Template.page
  exact List.infix_append_of_infix_right (List.infix_append_of_infix_right
    (List.infix_append_of_infix_right (List.infix_append_of_infix_left body)))

/-- A table shows its rows, also inside of a panel. -/
theorem tableRow_infix_panel (front : PyStr) {key : String} {value : PyStr}
    {rows : List (String × PyStr)} (member : (key, value) ∈ rows) (back : PyStr) :
    tableRow key value <:+: front ++ table rows ++ back := by
  have row := infix_flatMap member fun row : String × PyStr => tableRow row.1 row.2
  have inTable : tableRow key value <:+: table rows :=
    List.infix_append_of_infix_left (List.infix_append_of_infix_right row)
  exact List.infix_append_of_infix_left (List.infix_append_of_infix_right inTable)

/-! ## From the sections to the page -/

variable {env : Environment} {config : Config} {store : ReportStore}

/-- The rows of the summary of an incident. -/
theorem incidentSummary_shows {incident : StoredIncident} {summary : PyStr}
    (made : incidentSummary env (some incident) = .ok summary) :
    tableRow "Type" (esc (html (orText incident.incidentType "UNKNOWN"))) <:+: summary ∧
      tableRow "Confidence" (badge (orText incident.confidence "LOW") ++
        esc (html (orText incident.confidence "LOW")) ++ html "</span>") <:+: summary ∧
      (∃ time, env.localTime incident.detectedAt = .ok time ∧
        tableRow "Detected at" (esc time.full) <:+: summary) ∧
      ∀ seconds ∈ incident.durationEstimate, tableRow "Estimated hang duration"
        (digits (truncate seconds) ++ html " seconds") <:+: summary := by
  obtain ⟨detected, detection, rest⟩ := bind_ok_iff.mp made
  obtain ⟨reboot, -, rest⟩ := bind_ok_iff.mp rest
  obtain ⟨activity, -, result⟩ := bind_ok_iff.mp rest
  obtain ⟨time, known, formatted⟩ := bind_ok_iff.mp detection
  cases formatted
  cases result
  refine ⟨tableRow_infix_panel _ (by simp) _, tableRow_infix_panel _ (by simp) _,
    ⟨time, known, tableRow_infix_panel _ (by simp) _⟩, fun seconds estimate => ?_⟩
  refine tableRow_infix_panel _ (List.mem_append_right _ ?_) _
  rw [Option.mem_def.mp estimate]
  exact List.mem_singleton_self _

/-- A hint about a finding is listed, each only once. -/
theorem hintSection_shows {heading : String} {hints : List (String × List String)}
    {findings : List StoredFinding} {default hint : String} {finding : StoredFinding}
    (member : finding ∈ findings)
    (given : hint ∈ (finding.findingType.bind fun type => hints.lookup type).getD []) :
    listItem hint <:+: hintSection heading (gathered hints findings default) := by
  have gatheredHint : hint ∈ gathered hints findings default := by
    have all : hint ∈ (findings.flatMap fun finding =>
        ((finding.findingType.bind fun type => hints.lookup type).getD [])).eraseDups :=
      List.mem_eraseDups.mpr (List.mem_flatMap.mpr ⟨finding, member, given⟩)
    rw [gathered]
    split
    · rename_i none
      rw [List.isEmpty_iff.mp none] at all
      cases all
    · exact all
  have shown : html hint ∈ (gathered hints findings default).map html :=
    List.mem_map_of_mem gatheredHint
  have item := infix_flatMap shown fun item => html "<li>" ++ esc item ++ html "</li>"
  exact List.infix_append_of_infix_left (List.infix_append_of_infix_right item)

/-- Findings are shown one after the other. -/
theorem findingsSection_shows {findings : List StoredFinding} (some : findings ≠ []) :
    findings.flatMap findingBlock <:+: findingsSection findings := by
  rw [findingsSection, if_neg (by simpa using some)]
  exact List.infix_append_of_infix_right List.infix_rfl

/-- The sections that are about the incident and its findings. -/
theorem sections_contain {id : Option ℕ} {pages : List PyStr}
    (written : sections env config store id = .ok pages) :
    (∃ summary ∈ pages, incidentSummary env (selected store id).1 = .ok summary) ∧
      findingsSection (selected store id).2 ∈ pages ∧ causesSection (selected store id).2 ∈ pages ∧
      nextStepsSection (selected store id).2 ∈ pages := by
  obtain ⟨summary, summarized, rest⟩ := bind_ok_iff.mp written
  obtain ⟨about, -, result⟩ := bind_ok_iff.mp rest
  cases result
  refine ⟨⟨summary, ?_, summarized⟩, ?_, ?_, ?_⟩
  · exact List.mem_append_left _ (List.mem_append_left _ (List.mem_append_right _ (by simp)))
  all_goals exact List.mem_append_right _ (by simp)

/-- The report written for the incident: its page, or nothing when that cannot be put
together. -/
theorem generateReport_succeeds_iff {id : Option ℕ} (encodable : EvidenceEncodable store id) :
    Succeeds (generateReport env config store id) ↔ Composes env config store id := by
  rw [← render_succeeds_iff]
  constructor
  · exact Succeeds.first
  · rintro ⟨page, made⟩
    refine ⟨page, bind_ok_iff.mpr ⟨page, made, ?_⟩⟩
    rw [if_pos ((render_encodable_iff made).mpr encodable)]
    rfl

/-! ## Starts -/

/-- What `startup_analysis` does with its diagnosis. An incident that was not
stored has no id to report by; what is raised there and by the report is logged. -/
def startupReport (env : Environment) (config : Config) (outcome : Agent.StartupOutcome) :
    Option (Except PyError PyStr) :=
  outcome.result.incident.map fun incident =>
    match incident.incidentId with
    | none => .error .other
    | some id => generateReport env config (stored outcome.database) (some id)

/-- An incident with an id was stored under it, with the findings of the result. -/
theorem runDiagnosis_persisted {db : Database} {transition : Transition} {incident : Incident}
    {id : ℕ} (found : (runDiagnosis db transition config true).2.incident = some incident)
    (persisted : incident.incidentId = some id) :
    id = db.incidents.seq + 1 ∧ ∃ given, (diagnose db transition config).incident = some given ∧
      incident = { given with incidentId := some id } ∧
      (runDiagnosis db transition config true).1 =
        (db.createIncident given (diagnose db transition config).findings).1 ∧
      (runDiagnosis db transition config true).2.findings =
        (diagnose db transition config).findings := by
  simp only [runDiagnosis] at found ⊢
  split at found
  · rename_i none
    rw [none] at found
    cases found
  · rename_i given reported
    split at found
    · rename_i fresh
      obtain rfl := Option.some.inj found
      obtain rfl : db.incidents.seq + 1 = id := Option.some.inj persisted
      rw [if_pos fresh]
      exact ⟨rfl, given, reported, rfl, rfl, rfl⟩
    · obtain rfl := Option.some.inj (reported.symm.trans found)
      rw [diagnose_incidentId reported] at persisted
      cases persisted

theorem orText_incidentTypeText (type : IncidentType) :
    orText (some (incidentTypeText type)) "UNKNOWN" = incidentTypeText type := by
  cases type <;> rfl

theorem orText_levelText (level : Level) :
    orText (some (levelText level)) "LOW" = levelText level := by
  cases level <;> rfl

/-- The report of an incident that was just stored. -/
theorem report_shows {db : Database} (resolves : Agent.Resolves db) {transition : Transition}
    {incident : Incident} {id : ℕ}
    (found : (runDiagnosis db transition config true).2.incident = some incident)
    (persisted : incident.incidentId = some id) :
    EvidenceEncodable (stored (runDiagnosis db transition config true).1) (some id) ∧
      ∀ page, generateReport env config (stored (runDiagnosis db transition config true).1)
          (some id) = .ok page →
        Shows env page incident (runDiagnosis db transition config true).2.findings := by
  obtain ⟨rfl, given, reported, rfl, database, same⟩ := runDiagnosis_persisted found persisted
  rw [database, same]
  generalize (diagnose db transition config).findings = findings
  have listed := (Agent.listFindings_createIncident resolves given findings).1
  have own : ∀ row ∈ (db.createIncident given findings).1.listFindings (db.incidents.seq + 1),
      row.incidentId = db.incidents.seq + 1 := by
    intro row member
    exact of_decide_eq_true (List.mem_filter.mp member).2
  have chosen : selected (stored (db.createIncident given findings).1)
      (some (db.incidents.seq + 1)) = (some (storedIncident (Database.incidentRow given)),
        findings.map (asStored (db.incidents.seq + 1))) := by
    have member : ⟨db.incidents.seq + 1, Database.incidentRow given⟩ ∈
        (db.createIncident given findings).1.incidents.entries :=
      List.mem_append_right _ (List.mem_singleton_self _)
    refine (selected_stored member).trans (congrArg (Prod.mk _) ?_)
    have all := congrArg (List.map (asStored (db.incidents.seq + 1))) listed
    rw [List.map_map] at all
    refine (List.map_congr_left fun row inside => ?_).trans all
    rw [own row inside]
    rfl
  refine ⟨?_, fun page made => ?_⟩
  · rw [EvidenceEncodable, chosen]
    intro finding member text shown
    obtain ⟨given, -, rfl⟩ := List.mem_map.mp member
    obtain ⟨line, -, rfl⟩ := List.mem_map.mp shown
    exact PyStr.encodable_ofString line
  · obtain ⟨rendered, composed, written⟩ := bind_ok_iff.mp made
    split at written
    · cases written
      obtain ⟨pages, time, parts, -, rfl⟩ := render_ok_iff.mp composed
      obtain ⟨⟨summary, member, summarized⟩, findingsPart, causesPart, stepsPart⟩ :=
        sections_contain parts
      rw [chosen] at summarized findingsPart causesPart stepsPart
      obtain ⟨type, confidence, ⟨moment, known, detected⟩, duration⟩ :=
        incidentSummary_shows summarized
      simp only [storedIncident, Database.incidentRow, Option.map_some,
        orText_incidentTypeText, orText_levelText] at type confidence
      have onPage := fun {part : PyStr} (inside : part ∈ pages) =>
        infix_page (loadTemplate env) time.full inside
      have shownAs : ∀ {finding : Finding}, finding ∈ findings →
          asStored (db.incidents.seq + 1) finding ∈
            findings.map (asStored (db.incidents.seq + 1)) := List.mem_map_of_mem
      refine
        { type := type.trans (onPage member)
          confidence := confidence.trans (onPage member)
          detected := ⟨moment, known, detected.trans (onPage member)⟩
          duration := fun seconds estimate => (duration seconds estimate).trans (onPage member)
          listed := ⟨db.incidents.seq + 1, ?_⟩
          causes := fun finding reported hint given =>
            (hintSection_shows (shownAs reported) given).trans (onPage causesPart)
          steps := fun finding reported hint given =>
            (hintSection_shows (shownAs reported) given).trans (onPage stepsPart) }
      rw [← List.flatMap_map]
      cases findings with
      | nil => exact List.nil_infix
      | cons first rest =>
        exact (findingsSection_shows (List.cons_ne_nil _ _)).trans (onPage findingsPart)
    · cases written

/-- A start after some lives of services diagnoses a database whose references
resolve. -/
theorem seen_resolves (lives : List Agent.Life) (inputs : Agent.StartInputs) :
    let detected := detectBoot (Runs.run Agent.Life.leaves .empty lives) inputs.now inputs.bootTime
    Agent.Resolves (WindowsEvents.collect detected.1 "System" inputs.log detected.2.sessionId) := by
  intro detected
  obtain ⟨writes, allowed, left⟩ := Agent.lives_written lives
  let started := (Agent.written writes).step (.start inputs.now inputs.bootTime)
  have boot : started.boot = some detected.2 := by
    rw [show detected = detectBoot (Agent.written writes).database inputs.now inputs.bootTime from
      left ▸ rfl]
    rfl
  have database : started.database = detected.1 := by
    rw [show detected = detectBoot (Agent.written writes).database inputs.now inputs.bootTime from
      left ▸ rfl]
    rfl
  have sound : Agent.Sound started := (Agent.sound_written allowed).step trivial
  have allowed : started.Allows (.operate (.collect inputs.log detected.2.sessionId)) :=
    ⟨trivial, detected.2, boot, rfl⟩
  have collected := sound.step allowed
  rw [← database]
  exact collected.resolves

/-- **A start writes a report exactly when it stores an incident whose page can be
put together, and the page shows the incident and its findings.** -/
theorem startup_report (lives : List Agent.Life) (config : Config) (inputs : Agent.StartInputs)
    (env : Environment) :
    let outcome := Agent.startupAnalysis (Runs.run Agent.Life.leaves .empty lives) config inputs
    ((∃ page, startupReport env config outcome = some (.ok page)) ↔
        ∃ incident id, outcome.result.incident = some incident ∧ incident.incidentId = some id ∧
          Composes env config (stored outcome.database) (some id)) ∧
      ∀ page, startupReport env config outcome = some (.ok page) →
        ∃ incident, outcome.result.incident = some incident ∧
          Shows env page incident outcome.result.findings := by
  intro outcome
  have resolves := seen_resolves lives inputs
  have shown := fun {incident : Incident} {id : ℕ}
      (found : outcome.result.incident = some incident)
      (persisted : incident.incidentId = some id) =>
    @report_shows env config _ resolves _ incident id found persisted
  have written : ∀ {page : PyStr}, startupReport env config outcome = some (.ok page) →
      ∃ incident id, outcome.result.incident = some incident ∧ incident.incidentId = some id ∧
        generateReport env config (stored outcome.database) (some id) = .ok page := by
    intro page made
    obtain ⟨incident, found, reported⟩ := Option.map_eq_some_iff.mp made
    split at reported
    · cases reported
    · rename_i id persisted
      exact ⟨incident, id, found, persisted, reported⟩
  constructor
  · constructor
    · rintro ⟨page, made⟩
      obtain ⟨incident, id, found, persisted, reported⟩ := written made
      exact ⟨incident, id, found, persisted,
        (generateReport_succeeds_iff (shown found persisted).1).mp ⟨page, reported⟩⟩
    · rintro ⟨incident, id, found, persisted, composes⟩
      obtain ⟨page, reported⟩ :=
        (generateReport_succeeds_iff (shown found persisted).1).mpr composes
      refine ⟨page, ?_⟩
      rw [startupReport, found, Option.map_some, persisted]
      exact congrArg some reported
  · intro page made
    obtain ⟨incident, id, found, persisted, reported⟩ := written made
    exact ⟨incident, found, (shown found persisted).2 page reported⟩

/-- A session that ends without a shutdown, and the start that reports it. -/
theorem startup_report_power_loss :
    let lives : List Agent.Life :=
      [{ config := {}, inputs := ⟨1001, some 1000, none⟩, steps := [.collectHigh {} 1990] }]
    let record : WindowsEvents.LogRecord :=
      { timeGenerated := 2001, recordNumber := some 7
        sourceName := some "Microsoft-Windows-Kernel-Power", eventId := some 41 }
    let outcome := Agent.startupAnalysis (Runs.run Agent.Life.leaves .empty lives) {}
      ⟨2005, some 2000, some [.batch [record]]⟩
    let env : Environment :=
      { localTime := utcTime, now := 2005, generatedAt := 2005, systemInfo := []
        templateReadable := true, prepend := none }
    ∃ page incident, startupReport env {} outcome = some (.ok page) ∧
      outcome.result.incident = some incident ∧ incident.incidentType = .powerLoss ∧
      Shows env page incident outcome.result.findings := by
  intro lives record outcome env
  have stored : outcome.result.incident.map (fun incident => (incident.incidentType,
      incident.incidentId)) = some (.powerLoss, some 1) := by decide +kernel
  obtain ⟨incident, found, same⟩ := Option.map_eq_some_iff.mp stored
  have composes : Composes env {} (ReportGenerator.stored outcome.database) (some 1) :=
    render_succeeds_iff.mp (by decide +kernel)
  obtain ⟨written, shown⟩ := startup_report lives {} ⟨2005, some 2000, some [.batch [record]]⟩ env
  obtain ⟨page, made⟩ := written.mpr ⟨incident, 1, found, congrArg Prod.snd same, composes⟩
  obtain ⟨other, again, shows⟩ := shown page made
  obtain rfl := Option.some.inj (found.symm.trans again)
  exact ⟨page, incident, made, found, congrArg Prod.fst same, shows⟩

end ReportGenerator

end PcDiagnosticAgent
