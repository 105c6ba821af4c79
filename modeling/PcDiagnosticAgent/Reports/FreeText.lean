import PcDiagnosticAgent.Reports.SameTags

/-!
# Free text in a report

Free text adds and removes no tag of a page. What it can do is keep a page from
being written. A page is encoded when it is written, and evidence can name code
points that have no encoding; all the rest of a page has one
(`render_encodable_iff`). So two reports come out with the same markup exactly
when this happens to both or to neither (`same_markup_iff`).
-/

set_option autoImplicit false

namespace PcDiagnosticAgent

open AutoTables Markup StableSort

namespace ReportGenerator

/-! ## What can be encoded -/

theorem table_encodable {rows : List (String × PyStr)}
    (values : ∀ row ∈ rows, row.2.encodable = true) : (table rows).encodable = true := by
  have body := PyStr.encodable_flatMap rows fun row =>
    html "<tr><th>" ++ esc (html row.1) ++ html "</th><td>" ++ row.2 ++ html "</td></tr>"
  simp only [PyStr.encodable_append, encodable_html, encodable_esc, Bool.true_and,
    Bool.and_true] at body
  simp only [table, PyStr.encodable_append, encodable_html, body.mpr values, Bool.and_true]

theorem listItems_encodable_iff {items : List PyStr} :
    (listItems items).encodable = true ↔ ∀ item ∈ items, item.encodable = true := by
  rw [listItems, PyStr.encodable_flatMap]
  simp only [PyStr.encodable_append, encodable_html, encodable_esc, Bool.true_and, Bool.and_true]

theorem hintSection_encodable (heading : String) (texts : List String) :
    (hintSection heading texts).encodable = true := by
  have items : (listItems (texts.map html)).encodable = true := by
    rw [listItems_encodable_iff, List.forall_mem_map]
    exact fun text _ => encodable_html text
  simp only [hintSection, PyStr.encodable_append, encodable_html, items, Bool.and_true]

theorem badge_encodable (grade : String) : (badge grade).encodable = true := by
  simp only [badge, PyStr.encodable_append, encodable_html, Bool.and_true]

theorem activityRow_encodable {env : Environment} {last : Option Epoch}
    {rows : List (String × PyStr)} (made : activityRow env last = .ok rows) :
    ∀ row ∈ rows, row.2.encodable = true := by
  unfold activityRow at made
  split at made
  · cases made
    exact fun row member => absurd member List.not_mem_nil
  · obtain ⟨text, formatted, result⟩ := bind_ok_iff.mp made
    cases result
    exact List.forall_mem_singleton.mpr
      ((encodable_esc text).trans (formatLocal_encodable formatted))

theorem durationRow_encodable (duration : Option ℚ) :
    ∀ row ∈ durationRow duration, row.2.encodable = true := by
  unfold durationRow
  split
  · exact fun row member => absurd member List.not_mem_nil
  · exact List.forall_mem_singleton.mpr (by simp)

theorem incidentSummary_encodable {env : Environment} {incident : Option StoredIncident}
    {page : PyStr} (made : incidentSummary env incident = .ok page) : page.encodable = true := by
  cases incident with
  | none =>
    cases made
    simp only [PyStr.encodable_append, encodable_html, Bool.and_true]
  | some incident =>
    obtain ⟨detected, detection, rest⟩ := bind_ok_iff.mp made
    obtain ⟨reboot, restart, rest⟩ := bind_ok_iff.mp rest
    obtain ⟨activity, active, result⟩ := bind_ok_iff.mp rest
    cases result
    have rows := table_encodable (List.forall_mem_append.mpr ⟨List.forall_mem_append.mpr
      ⟨(by simp [badge_encodable, formatLocal_encodable detection,
        formatLocal_encodable restart] : ∀ row ∈ [
          ("Type", esc (html (orText incident.incidentType "UNKNOWN"))),
          ("Confidence", badge (orText incident.confidence "LOW") ++
            esc (html (orText incident.confidence "LOW")) ++ html "</span>"),
          ("Detected at", esc detected), ("Reboot at", esc reboot)], row.2.encodable = true),
        activityRow_encodable active⟩, durationRow_encodable incident.durationEstimate⟩)
    simp only [PyStr.encodable_append, encodable_html, Bool.true_and, Bool.and_true]
    exact rows

theorem systemInfoSection_encodable (env : Environment) :
    (systemInfoSection env).encodable = true := by
  simp only [systemInfoSection, PyStr.encodable_append, encodable_html, Bool.true_and,
    Bool.and_true]
  refine table_encodable ?_
  simp

theorem previousSessionSection_encodable {env : Environment} {store : ReportStore}
    {incident : StoredIncident} {page : PyStr}
    (made : previousSessionSection env store incident = .ok page) : page.encodable = true := by
  unfold previousSessionSection at made
  split at made
  · cases made
    simp only [PyStr.encodable_append, encodable_html, Bool.and_true]
  split at made
  · cases made
    simp only [PyStr.encodable_append, encodable_html, Bool.and_true]
  · rename_i session _
    obtain ⟨boot, formatted, result⟩ := bind_ok_iff.mp made
    cases result
    have duration : (fmtDuration session.uptimeBeforeBoot).encodable = true := by
      unfold fmtDuration
      split <;> simp
    simp only [PyStr.encodable_append, encodable_html, Bool.true_and, Bool.and_true]
    refine table_encodable ?_
    simp [formatLocal_encodable formatted, duration, yesNo]

/-- What an entry of the timeline says has an encoding. -/
def Readout (entry : TimelineEntry) : Prop :=
  entry.label.encodable = true ∧ entry.detail.encodable = true

theorem eventEntry_encodable (entry : Entry EventRow) : Readout (eventEntry entry) := by
  constructor
  · simp [eventEntry, textOf]
  · have whole := PyStr.encodable_iff.mp (encodable_html (entry.row.message.getD ""))
    exact PyStr.encodable_iff.mpr fun code member => whole code (List.mem_of_mem_take member)

theorem sampleEntry_encodable {memory : List MetricRow} {row : MetricRow} {entry : TimelineEntry}
    (made : sampleEntry memory row = .ok entry) : Readout entry := by
  have percent : ∀ {value : SqlValue} {text : PyStr}, formatPercent value = .ok text →
      text.encodable = true := by
    intro value text formatted
    cases value with
    | number value =>
      cases formatted
      simp
    | null => cases formatted
    | text value => cases formatted
  obtain ⟨detail, formatted, result⟩ := bind_ok_iff.mp made
  cases result
  refine ⟨encodable_html "Metrics", ?_⟩
  unfold sampleDetail at formatted
  split at formatted
  · obtain ⟨cpu, known, result⟩ := bind_ok_iff.mp formatted
    cases result
    simp [percent known]
  · obtain ⟨cpu, known, rest⟩ := bind_ok_iff.mp formatted
    obtain ⟨used, measured, result⟩ := bind_ok_iff.mp rest
    cases result
    simp [percent known, percent measured]

theorem timelineSection_encodable {env : Environment} {config : Config} {store : ReportStore}
    {incident : StoredIncident} {page : PyStr}
    (made : timelineSection env config store incident = .ok page) : page.encodable = true := by
  obtain ⟨lines, shown, result⟩ := bind_ok_iff.mp made
  obtain ⟨entries, gathered, written⟩ := bind_ok_iff.mp shown
  obtain ⟨window, opened, rest⟩ := bind_ok_iff.mp gathered
  obtain ⟨samples, sampled, sorted⟩ := bind_ok_iff.mp rest
  cases sorted
  have entryTexts : ∀ entry ∈ (sortBy TimelineEntry.timestamp
      (((windowEvents store window).take 400).map eventEntry ++ samples)).take 300,
      Readout entry := by
    intro entry member
    rcases List.mem_append.mp ((mem_sortBy _).mp (List.mem_of_mem_take member)) with event | sample
    · obtain ⟨stored, -, rfl⟩ := List.mem_map.mp event
      exact eventEntry_encodable stored
    · obtain ⟨row, -, formatted⟩ := exists_of_mem_mapM sampled sample
      exact sampleEntry_encodable formatted
  have lineTexts : ∀ line ∈ lines, line.text.encodable = true := by
    intro line member
    obtain ⟨entry, among, formed⟩ := exists_of_mem_mapM written member
    obtain ⟨label, detail⟩ := entryTexts entry among
    obtain ⟨clock, formatted, result⟩ := bind_ok_iff.mp formed
    obtain ⟨time, -, same⟩ := bind_ok_iff.mp formatted
    cases same
    cases result
    simp [label, detail, encodable_of_small (clock_small time)]
  have joined := (PyStr.encodable_flatMap lines TimelineLine.text).mpr lineTexts
  split at result
  · cases result
    exact encodable_html _
  · cases result
    simp [joined]

theorem findingsSection_encodable_iff (findings : List StoredFinding) :
    (findingsSection findings).encodable = true ↔
      ∀ finding ∈ findings, ∀ text ∈ finding.evidence, text.encodable = true := by
  have block : ∀ finding : StoredFinding, (findingBlock finding).encodable = true ↔
      ∀ text ∈ finding.evidence, text.encodable = true := by
    intro finding
    rw [← listItems_encodable_iff]
    simp only [findingBlock, textOf, PyStr.encodable_append, encodable_html, encodable_esc,
      badge_encodable, Bool.true_and, Bool.and_true]
  cases findings with
  | nil => exact iff_of_true (encodable_html _) fun finding member => absurd member List.not_mem_nil
  | cons first rest =>
    change (html "<h2>Findings</h2>" ++ (first :: rest).flatMap findingBlock).encodable = true ↔ _
    rw [PyStr.encodable_append, encodable_html, Bool.true_and, PyStr.encodable_flatMap]
    simp only [block]

/-- The evidence that the report shows has an encoding. -/
def EvidenceEncodable (store : ReportStore) (incidentId : Option ℕ) : Prop :=
  ∀ finding ∈ (selected store incidentId).2, ∀ text ∈ finding.evidence, text.encodable = true

instance (store : ReportStore) (incidentId : Option ℕ) :
    Decidable (EvidenceEncodable store incidentId) := by
  unfold EvidenceEncodable
  infer_instance

theorem sections_encodable_iff {env : Environment} {config : Config} {store : ReportStore}
    {incidentId : Option ℕ} {pages : List PyStr}
    (made : sections env config store incidentId = .ok pages) :
    (∀ page ∈ pages, page.encodable = true) ↔ EvidenceEncodable store incidentId := by
  obtain ⟨summary, summarized, rest⟩ := bind_ok_iff.mp made
  obtain ⟨about, told, result⟩ := bind_ok_iff.mp rest
  cases result
  have aboutTexts : ∀ page ∈ about, page.encodable = true := by
    cases chosen : (selected store incidentId).1 with
    | none =>
      rw [chosen] at told
      cases told
      exact fun page member => absurd member List.not_mem_nil
    | some incident =>
      rw [chosen] at told
      obtain ⟨timeline, shown, rest⟩ := bind_ok_iff.mp told
      obtain ⟨session, known, result⟩ := bind_ok_iff.mp rest
      cases result
      exact List.forall_mem_cons.mpr ⟨timelineSection_encodable shown,
        List.forall_mem_singleton.mpr (previousSessionSection_encodable known)⟩
  have prepended : ∀ page ∈ (env.prepend.filter fun fragment => fragment.text ≠ "").toList.map
      fun fragment => html fragment.text, page.encodable = true := by
    intro page member
    obtain ⟨fragment, -, rfl⟩ := List.mem_map.mp member
    exact encodable_html fragment.text
  rw [EvidenceEncodable, ← findingsSection_encodable_iff]
  constructor
  · intro every
    exact every _ (List.mem_append_right _ List.mem_cons_self)
  · intro evidence
    refine List.forall_mem_append.mpr ⟨List.forall_mem_append.mpr
      ⟨List.forall_mem_append.mpr ⟨prepended, ?_⟩, aboutTexts⟩, ?_⟩
    · exact List.forall_mem_cons.mpr ⟨incidentSummary_encodable summarized,
        List.forall_mem_singleton.mpr (systemInfoSection_encodable env)⟩
    · exact List.forall_mem_cons.mpr ⟨evidence, List.forall_mem_cons.mpr
        ⟨hintSection_encodable _ _, List.forall_mem_singleton.mpr (hintSection_encodable _ _)⟩⟩

theorem loadTemplate_encodable (env : Environment) :
    (loadTemplate env).head.encodable = true ∧ (loadTemplate env).middle.encodable = true ∧
      (loadTemplate env).foot.encodable = true := by
  unfold loadTemplate
  split
  · have head : PyStr.encodable (templateHead.flatMap html) = true := by
      rw [PyStr.encodable_flatMap]
      exact fun line _ => encodable_html line
    simp only [reportTemplate, head, encodable_html, and_self]
  · simp only [fallbackTemplate, encodable_html, and_self]

/-- Only evidence can keep a page from being encoded. -/
theorem render_encodable_iff {env : Environment} {config : Config} {store : ReportStore}
    {incidentId : Option ℕ} {page : PyStr}
    (made : render env config store incidentId = .ok page) :
    page.encodable = true ↔ EvidenceEncodable store incidentId := by
  obtain ⟨pages, time, written, -, rfl⟩ := render_ok_iff.mp made
  obtain ⟨head, middle, foot⟩ := loadTemplate_encodable env
  rw [← sections_encodable_iff written, ← PyStr.encodable_intercalate (encodable_html "\n"),
    Template.page]
  simp only [PyStr.encodable_append, head, middle, foot, encodable_of_small (full_small time),
    Bool.true_and, Bool.and_true]

/-! ## When a page comes about -/

/-- The moments that the report names for an incident have a local time, and its
timeline can be made. -/
structure IncidentReadable (env : Environment) (config : Config) (store : ReportStore)
    (incident : StoredIncident) : Prop where
  detected : Succeeds (env.localTime incident.detectedAt)
  reboot : ∀ time, incident.rebootTimestamp = some time → Succeeds (env.localTime time)
  activity : ∀ time, truthy incident.lastMetricTimestamp = some time →
    Succeeds (env.localTime time)
  timeline : ∃ window, timelineWindow env config incident = .ok window ∧
    Readable env store window
  session : ∀ session,
    (incident.previousSessionId.filter (· ≠ 0)).bind store.sessions.find? = some session →
      Succeeds (env.localTime session.bootTime)

/-- The page can be put together. -/
structure Composes (env : Environment) (config : Config) (store : ReportStore)
    (incidentId : Option ℕ) : Prop where
  generated : Succeeds (env.localTime env.generatedAt)
  incident : ∀ incident, (selected store incidentId).1 = some incident →
    IncidentReadable env config store incident

section Composition

variable {env : Environment} {config : Config} {store : ReportStore} {incident : StoredIncident}

theorem incidentSummary_succeeds_iff :
    Succeeds (incidentSummary env (some incident)) ↔
      Succeeds (env.localTime incident.detectedAt) ∧
        (∀ time, incident.rebootTimestamp = some time → Succeeds (env.localTime time)) ∧
          ∀ time, truthy incident.lastMetricTimestamp = some time →
            Succeeds (env.localTime time) := by
  have row : Succeeds (activityRow env incident.lastMetricTimestamp) ↔
      ∀ time, truthy incident.lastMetricTimestamp = some time → Succeeds (env.localTime time) := by
    rw [← formatLocal_succeeds_iff, activityRow]
    cases truthy incident.lastMetricTimestamp with
    | none => exact iff_of_true ⟨_, rfl⟩ ⟨_, rfl⟩
    | some last => exact ⟨Succeeds.first, fun known => known.bind fun text _ => ⟨_, rfl⟩⟩
  have detection : Succeeds (formatLocal env (some incident.detectedAt)) ↔
      Succeeds (env.localTime incident.detectedAt) := by
    simp [formatLocal_succeeds_iff]
  rw [← row, ← formatLocal_succeeds_iff, ← detection]
  constructor
  · intro succeeds
    obtain ⟨detected, known⟩ := succeeds.first
    have later := succeeds.next known
    obtain ⟨reboot, formatted⟩ := later.first
    exact ⟨succeeds.first, later.first, (later.next formatted).first⟩
  · rintro ⟨detected, reboot, activity⟩
    exact detected.bind fun _ _ => reboot.bind fun _ _ => activity.bind fun _ _ => ⟨_, rfl⟩

theorem timelineSection_succeeds_iff :
    Succeeds (timelineSection env config store incident) ↔
      ∃ window, timelineWindow env config incident = .ok window ∧ Readable env store window := by
  have lines : Succeeds (timelineSection env config store incident) ↔
      Succeeds (timelineLines env config store incident) := by
    refine ⟨Succeeds.first, fun made => made.bind fun lines _ => ?_⟩
    split <;> exact ⟨_, rfl⟩
  rw [lines]
  constructor
  · intro succeeds
    obtain ⟨window, opened⟩ := succeeds.first.first
    exact ⟨window, opened, (timelineLines_succeeds_iff opened).mp succeeds⟩
  · rintro ⟨window, opened, readable⟩
    exact (timelineLines_succeeds_iff opened).mpr readable

theorem previousSessionSection_succeeds_iff :
    Succeeds (previousSessionSection env store incident) ↔
      ∀ session,
        (incident.previousSessionId.filter (· ≠ 0)).bind store.sessions.find? = some session →
          Succeeds (env.localTime session.bootTime) := by
  unfold previousSessionSection
  cases incident.previousSessionId.filter (· ≠ 0) with
  | none =>
    refine iff_of_true ⟨_, rfl⟩ fun session absent => ?_
    cases absent
  | some sessionId =>
    simp only [Option.bind_some]
    cases store.sessions.find? sessionId with
    | none =>
      refine iff_of_true ⟨_, rfl⟩ fun session absent => ?_
      cases absent
    | some session =>
      constructor
      · intro succeeds other same
        cases same
        exact formatLocal_succeeds_iff.mp succeeds.first _ rfl
      · intro known
        refine Succeeds.bind ?_ fun boot _ => ⟨_, rfl⟩
        rw [formatLocal_succeeds_iff]
        intro time same
        cases same
        exact known session rfl

/-- The report raises nothing before it is written when its page can be put
together. -/
theorem render_succeeds_iff {incidentId : Option ℕ} :
    Succeeds (render env config store incidentId) ↔ Composes env config store incidentId := by
  have split : Succeeds (render env config store incidentId) ↔
      Succeeds (sections env config store incidentId) ∧
        Succeeds (env.localTime env.generatedAt) := by
    constructor
    · rintro ⟨page, made⟩
      obtain ⟨pages, time, written, known, -⟩ := render_ok_iff.mp made
      exact ⟨⟨pages, written⟩, ⟨time, known⟩⟩
    · rintro ⟨⟨pages, written⟩, ⟨time, known⟩⟩
      exact ⟨_, render_ok_iff.mpr ⟨pages, time, written, known, rfl⟩⟩
  have body : Succeeds (sections env config store incidentId) ↔
      Succeeds (incidentSummary env (selected store incidentId).1) ∧
        Succeeds (incidentSections env config store (selected store incidentId).1) := by
    constructor
    · intro succeeds
      obtain ⟨summary, made⟩ := succeeds.first
      exact ⟨succeeds.first, (succeeds.next made).first⟩
    · rintro ⟨summary, about⟩
      exact summary.bind fun _ _ => about.bind fun _ _ => ⟨_, rfl⟩
  have about : ∀ incident, Succeeds (incidentSections env config store (some incident)) ↔
      Succeeds (timelineSection env config store incident) ∧
        Succeeds (previousSessionSection env store incident) := by
    intro incident
    constructor
    · intro succeeds
      obtain ⟨timeline, made⟩ := succeeds.first
      exact ⟨succeeds.first, (succeeds.next made).first⟩
    · rintro ⟨timeline, session⟩
      exact timeline.bind fun _ _ => session.bind fun _ _ => ⟨_, rfl⟩
  rw [split, body]
  cases chosen : (selected store incidentId).1 with
  | none =>
    constructor
    · rintro ⟨-, generated⟩
      refine ⟨generated, fun incident absent => ?_⟩
      rw [chosen] at absent
      cases absent
    · intro composes
      exact ⟨⟨⟨_, rfl⟩, ⟨_, rfl⟩⟩, composes.generated⟩
  | some incident =>
    rw [about, incidentSummary_succeeds_iff, timelineSection_succeeds_iff,
      previousSessionSection_succeeds_iff]
    constructor
    · rintro ⟨⟨⟨detected, reboot, activity⟩, timeline, session⟩, generated⟩
      refine ⟨generated, fun other same => ?_⟩
      rw [chosen] at same
      cases same
      exact ⟨detected, reboot, activity, timeline, session⟩
    · intro composes
      have readable := composes.incident incident chosen
      exact ⟨⟨⟨readable.detected, readable.reboot, readable.activity⟩, readable.timeline,
        readable.session⟩, composes.generated⟩

end Composition

/-! ## Two reports -/

/-- The two reports come out with the same tags, or neither comes out. -/
def SameMarkup (first second : Except PyError PyStr) : Prop :=
  match first, second with
  | .ok page, .ok other => tags page = tags other
  | .error _, .error _ => True
  | _, _ => False

/-- **Reports that differ in free text only come out with the same markup exactly
when both show evidence that has no encoding or neither does, or no page can be
put together anyway.** -/
theorem same_markup_iff (env : Environment) (config : Config) {first second : ReportStore}
    (differ : DifferInText first second) (incidentId : Option ℕ) :
    SameMarkup (generateReport env config first incidentId)
        (generateReport env config second incidentId) ↔
      (Composes env config first incidentId →
        (EvidenceEncodable first incidentId ↔ EvidenceEncodable second incidentId)) := by
  cases made : render env config first incidentId with
  | error error =>
    have raised : ¬ Composes env config first incidentId := by
      rw [← render_succeeds_iff]
      rintro ⟨page, composed⟩
      cases made.symm.trans composed
    refine iff_of_true ?_ fun composes => absurd composes raised
    cases again : render env config second incidentId with
    | error failure =>
      rw [generateReport, generateReport, made, again]
      trivial
    | ok other =>
      obtain ⟨page, composed, -⟩ := render_alike differ.symm again
      cases made.symm.trans composed
  | ok page =>
    obtain ⟨other, again, alike⟩ := render_alike differ made
    have composes : Composes env config first incidentId := render_succeeds_iff.mp ⟨page, made⟩
    rw [forall_prop_of_true composes, ← render_encodable_iff made, ← render_encodable_iff again,
      generateReport, generateReport, made, again, ok_bind, ok_bind]
    cases page.encodable <;> cases other.encodable
    · exact iff_of_true trivial Iff.rfl
    · exact iff_of_false id fun same => absurd (same.mpr rfl) Bool.false_ne_true
    · exact iff_of_false id fun same => absurd (same.mp rfl) Bool.false_ne_true
    · exact iff_of_true alike.tags_eq Iff.rfl

/-- A message and an explanation that look like markup change no tag. -/
theorem same_markup_hostile_text :
    let env : Environment :=
      { localTime := utcTime, now := 2000, generatedAt := 2000, systemInfo := []
        templateReadable := true, prepend := none }
    let event (message : String) : EventRow :=
      { timestamp := 1900, provider := some "Kernel-Power", eventId := some 41
        message := some message, sessionId := 1 }
    let incident : StoredIncident :=
      { detectedAt := 2000, incidentType := some "HARD_HANG", confidence := some "HIGH"
        previousSessionId := some 1, lastMetricTimestamp := some 1700
        rebootTimestamp := some 2000, durationEstimate := some 300 }
    let finding (explanation : String) : StoredFinding :=
      { incidentId := 1, findingType := some "POSSIBLE_HARD_HANG", severity := some "HIGH"
        confidence := some "HIGH", evidence := [html "no clean shutdown"]
        explanation := some explanation }
    let store (message explanation : String) : ReportStore :=
      { sessions := .empty, events := AutoTable.empty.insert (event message)
        incidents := AutoTable.empty.insert incident
        findings := AutoTable.empty.insert (finding explanation), metrics := fun _ => [] }
    SameMarkup
      (generateReport env {} (store "reboot" "The system froze.") (some 1))
      (generateReport env {} (store "<b>\x7b\x7bBODY\x7d\x7d" "</div><script>") (some 1)) := by
  intro env event incident finding store
  have differ : DifferInText (store "reboot" "The system froze.")
      (store "<b>\x7b\x7bBODY\x7d\x7d" "</div><script>") := ⟨rfl, rfl, rfl, rfl, rfl⟩
  refine (same_markup_iff env {} differ (some 1)).mpr fun _ => ?_
  exact iff_of_true (by decide +kernel) (by decide +kernel)

/-- A finding whose evidence names a surrogate leaves the report empty; with other
words in its place the report is written. -/
theorem surrogate_evidence_loses_report :
    let env : Environment :=
      { localTime := utcTime, now := 2000, generatedAt := 2000, systemInfo := []
        templateReadable := true, prepend := none }
    let incident : StoredIncident :=
      { detectedAt := 2000, incidentType := some "HARD_HANG", confidence := some "HIGH"
        previousSessionId := some 1, lastMetricTimestamp := some 1700
        rebootTimestamp := some 2000, durationEstimate := some 300 }
    let finding (evidence : PyStr) : StoredFinding :=
      { incidentId := 1, findingType := some "POSSIBLE_HARD_HANG", severity := some "HIGH"
        confidence := some "HIGH", evidence := [evidence]
        explanation := some "The system froze." }
    let store (evidence : PyStr) : ReportStore :=
      { sessions := .empty, events := .empty, incidents := AutoTable.empty.insert incident
        findings := AutoTable.empty.insert (finding evidence), metrics := fun _ => [] }
    DifferInText (store [0xD800]) (store (html "no clean shutdown")) ∧
      ¬ SameMarkup (generateReport env {} (store [0xD800]) (some 1))
        (generateReport env {} (store (html "no clean shutdown")) (some 1)) := by
  intro env incident finding store
  have composes : ∀ evidence, Succeeds (render env {} (store evidence) (some 1)) := by
    intro evidence
    refine render_succeeds_iff.mpr ⟨by decide +kernel, fun other chosen => ?_⟩
    obtain rfl : incident = other := Option.some.inj chosen
    refine ⟨by decide +kernel, fun time same => ?_, fun time same => ?_, ⟨(-100, 2300), ?_, ?_⟩,
      fun session found => ?_⟩
    · cases same
      decide +kernel
    · obtain rfl : 1700 = time := by
        have active : truthy incident.lastMetricTimestamp = some 1700 := by decide +kernel
        exact Option.some.inj (active.symm.trans same)
      decide +kernel
    · decide +kernel
    · exact ⟨fun row member => absurd member List.not_mem_nil,
        fun row member => absurd member List.not_mem_nil,
        fun time member => absurd member List.not_mem_nil⟩
    · cases found
  obtain ⟨page, made⟩ := composes [0xD800]
  obtain ⟨other, again⟩ := composes (html "no clean shutdown")
  have lost : page.encodable = false := by
    rw [Bool.eq_false_iff, Ne, render_encodable_iff made]
    decide +kernel
  have kept : other.encodable = true := (render_encodable_iff again).mpr (by decide +kernel)
  refine ⟨⟨rfl, rfl, rfl, rfl, rfl⟩, ?_⟩
  rw [generateReport, generateReport, made, again, ok_bind, ok_bind, lost, kept]
  exact id

end ReportGenerator

end PcDiagnosticAgent
