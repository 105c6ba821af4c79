import PcDiagnosticAgent.Reports.Timeline

/-!
# The tags of a report

The provider and the message of an event and the evidence and the explanation
of a finding are free text. The sections of two reports that differ in free text
only are alike (`sections_alike`): whatever is free is escaped, after it was cut,
and the rest is the same on both sides. The template takes in a body without
reading it again for placeholders, so the pages have the same tags
(`render_alike`).
-/

set_option autoImplicit false

namespace PcDiagnosticAgent

open AutoTables Markup StableSort

namespace ReportGenerator

@[simp] theorem encodable_html (text : String) : (html text).encodable = true :=
  PyStr.encodable_ofString text

@[simp] theorem encodable_esc (text : PyStr) :
    (esc text).encodable = PyStr.encodable text := by
  rw [Bool.eq_iff_iff, PyStr.encodable_iff, PyStr.encodable_iff]
  exact forall_mem_escape_iff (fun code small => .inl (by omega)) text

theorem esc_complete (text : PyStr) : Complete (esc text) := (plain_escape text).complete

theorem esc_alike (first second : PyStr) : Alike (esc first) (esc second) :=
  Alike.escape first second

/-! ## Numbers and times -/

/-- The decimal digits of a number open no tag. -/
theorem digits_plain (value : ℤ) : Plain (digits value) := by
  have number : ∀ number : ℕ, '<' ∉ number.repr.toList := by
    intro number member
    rw [Nat.toList_repr] at member
    exact absurd (Nat.isDigit_of_mem_toDigits (by decide) (by decide) member) (by decide)
  intro member
  obtain ⟨char, inside, code⟩ := List.mem_map.mp member
  have bracket : char = '<' := Char.toNat_inj.mp code
  subst bracket
  cases value with
  | ofNat value => exact number value inside
  | negSucc value =>
    change '<' ∈ ("-" ++ (value + 1).repr).toList at inside
    rw [String.toList_append, List.mem_append] at inside
    rcases inside with sign | digit
    · exact absurd sign (by decide)
    · exact number (value + 1) digit

@[simp] theorem encodable_digits (value : ℤ) : (digits value).encodable = true :=
  encodable_html (toString value)

/-- A time is made of digits, signs and blanks. -/
theorem full_small (time : LocalTime) : ∀ code ∈ time.full, code ≤ 58 := by
  intro code member
  simp only [LocalTime.full, LocalTime.clock, twoDigits, List.mem_append, List.mem_cons,
    List.not_mem_nil, or_false] at member
  omega

theorem clock_small (time : LocalTime) : ∀ code ∈ time.clock, code ≤ 58 := by
  intro code member
  exact full_small time code (List.mem_append_right _ member)

theorem encodable_of_small {text : PyStr} (small : ∀ code ∈ text, code ≤ 58) :
    text.encodable = true := by
  rw [PyStr.encodable_iff]
  intro code member
  have bound := small code member
  omega

theorem formatLocal_encodable {env : Environment} {epoch : Option Epoch} {text : PyStr}
    (formatted : formatLocal env epoch = .ok text) : text.encodable = true := by
  cases epoch with
  | none =>
    cases formatted
    exact encodable_html "n/a"
  | some epoch =>
    obtain ⟨time, -, result⟩ := bind_ok_iff.mp formatted
    cases result
    exact encodable_of_small (full_small time)

theorem formatLocal_succeeds_iff {env : Environment} {epoch : Option Epoch} :
    Succeeds (formatLocal env epoch) ↔
      ∀ time, epoch = some time → Succeeds (env.localTime time) := by
  cases epoch with
  | none =>
    refine iff_of_true ⟨_, rfl⟩ fun time absent => ?_
    cases absent
  | some epoch =>
    constructor
    · intro succeeds time same
      cases same
      exact succeeds.first
    · intro known
      exact (known epoch rfl).bind fun time _ => ⟨_, rfl⟩

/-! ## Sections without free text -/

theorem table_complete {rows : List (String × PyStr)}
    (values : ∀ row ∈ rows, Complete row.2) : Complete (table rows) := by
  have fixed : Complete (html "<table>") ∧ Complete (html "<tr><th>") ∧
      Complete (html "</th><td>") ∧ Complete (html "</td></tr>") ∧
      Complete (html "</table>") := by decide +kernel
  obtain ⟨start, key, value, stop, last⟩ := fixed
  refine (start.append (Complete.flatMap fun row member => ?_)).append last
  exact (((key.append (esc_complete _)).append value).append (values row member)).append stop

theorem badge_complete (grade : String) : Complete (badge grade) := by
  have fixed : Complete (html "<span class='badge " ++ html "high" ++ html "'>") ∧
      Complete (html "<span class='badge " ++ html "med" ++ html "'>") ∧
      Complete (html "<span class='badge " ++ html "low" ++ html "'>") := by decide +kernel
  unfold badge badgeClass
  split
  · exact fixed.1
  split
  · exact fixed.2.1
  · exact fixed.2.2

theorem panel_complete {heading content : PyStr} (opens : Complete heading)
    (complete : Complete content) : Complete (heading ++ content ++ html "</div>") :=
  (opens.append complete).append (by decide +kernel)

theorem listItems_alike {items others : List PyStr} (same : items.length = others.length) :
    Alike (listItems items) (listItems others) := by
  have fixed : Complete (html "<li>") ∧ Complete (html "</li>") := by decide +kernel
  have pairs : List.Forall₂ (fun _ _ : PyStr => True) items others := by
    rw [List.forall₂_iff_get]
    exact ⟨same, fun _ _ _ => trivial⟩
  refine Alike.flatMap (fun item another _ => ?_) pairs
  exact ((Alike.refl fixed.1).append (esc_alike item another)).append (Alike.refl fixed.2)

theorem hintSection_complete {heading : String} (plain : Complete (html heading))
    (texts : List String) : Complete (hintSection heading texts) := by
  have fixed : Complete (html "<h2>") ∧ Complete (html "</h2><div class='panel'><ul>") ∧
      Complete (html "</ul></div>") := by decide +kernel
  obtain ⟨start, opens, last⟩ := fixed
  exact (((start.append plain).append opens).append (listItems_alike rfl).complete).append last

theorem incidentSummary_complete {env : Environment} {incident : Option StoredIncident}
    {page : PyStr} (made : incidentSummary env incident = .ok page) : Complete page := by
  cases incident with
  | none =>
    cases made
    decide +kernel
  | some incident =>
    obtain ⟨detected, -, rest⟩ := bind_ok_iff.mp made
    obtain ⟨reboot, -, rest⟩ := bind_ok_iff.mp rest
    obtain ⟨activity, active, result⟩ := bind_ok_iff.mp rest
    cases result
    have activityRows : ∀ row ∈ activity, Complete row.2 := by
      unfold activityRow at active
      split at active
      · cases active
        exact fun row member => absurd member List.not_mem_nil
      · obtain ⟨text, -, result⟩ := bind_ok_iff.mp active
        cases result
        exact List.forall_mem_singleton.mpr (esc_complete text)
    refine panel_complete (by decide +kernel) (table_complete ?_)
    simp only [List.forall_mem_append, List.forall_mem_cons, List.not_mem_nil, false_imp_iff,
      implies_true, and_true]
    refine ⟨⟨⟨esc_complete _, ?_, esc_complete _, esc_complete _⟩, activityRows⟩, ?_⟩
    · exact ((badge_complete _).append (esc_complete _)).append (by decide +kernel)
    · unfold durationRow
      split
      · exact fun row member => absurd member List.not_mem_nil
      · exact List.forall_mem_singleton.mpr
          ((digits_plain _).complete.append (by decide +kernel))

theorem systemInfoSection_complete (env : Environment) : Complete (systemInfoSection env) := by
  refine panel_complete (by decide +kernel) (table_complete ?_)
  simp only [List.forall_mem_cons, List.not_mem_nil, false_imp_iff, implies_true, and_true]
  exact ⟨esc_complete _, esc_complete _, esc_complete _, esc_complete _, esc_complete _,
    esc_complete _⟩

theorem previousSessionSection_complete {env : Environment} {store : ReportStore}
    {incident : StoredIncident} {page : PyStr}
    (made : previousSessionSection env store incident = .ok page) : Complete page := by
  unfold previousSessionSection at made
  split at made
  · cases made
    decide +kernel
  split at made
  · cases made
    decide +kernel
  · rename_i session _
    obtain ⟨boot, -, result⟩ := bind_ok_iff.mp made
    cases result
    have flag : ∀ flag : Option ℤ, Complete (yesNo flag) := by
      intro flag
      unfold yesNo
      split <;> decide +kernel
    have duration : Complete (fmtDuration session.uptimeBeforeBoot) := by
      have units : Complete (html "h ") ∧ Complete (html "m ") ∧ Complete (html "s") ∧
          Complete (html "n/a") := by decide +kernel
      obtain ⟨hours, minutes, seconds, unknown⟩ := units
      unfold fmtDuration
      split
      · exact unknown
      · exact (((((digits_plain _).complete.append hours).append
          (digits_plain _).complete).append minutes).append
            (digits_plain _).complete).append seconds
    refine panel_complete (by decide +kernel) (table_complete ?_)
    simp only [List.forall_mem_cons, List.not_mem_nil, false_imp_iff, implies_true, and_true]
    exact ⟨esc_complete _, esc_complete _, esc_complete _, flag _, flag _, duration⟩

/-! ## Databases that differ in free text -/

/-- An event without its provider and its message. -/
def withoutText (entry : Entry EventRow) : Entry EventRow :=
  { entry with row := { entry.row with provider := none, message := none } }

/-- A finding whose evidence and explanation say nothing. -/
def StoredFinding.withoutText (finding : StoredFinding) : StoredFinding :=
  { finding with evidence := finding.evidence.map fun _ => [], explanation := none }

/-- The databases hold the same apart from the providers and messages of the
events and the evidence texts and explanations of the findings. -/
structure DifferInText (first second : ReportStore) : Prop where
  sessions : first.sessions = second.sessions
  events : first.events.entries.map withoutText = second.events.entries.map withoutText
  incidents : first.incidents = second.incidents
  findings : first.findings.rows.map StoredFinding.withoutText =
    second.findings.rows.map StoredFinding.withoutText
  metrics : first.metrics = second.metrics

theorem DifferInText.symm {first second : ReportStore} (differ : DifferInText first second) :
    DifferInText second first :=
  ⟨differ.sessions.symm, differ.events.symm, differ.incidents.symm, differ.findings.symm,
    differ.metrics.symm⟩

section Text

variable {env : Environment} {config : Config} {first second : ReportStore}

/-- The events of a window stand at the same times. -/
theorem DifferInText.windowEvents (differ : DifferInText first second) (window : Epoch × Epoch) :
    (windowEvents first window).map (fun entry => entry.row.timestamp) =
      (windowEvents second window).map fun entry => entry.row.timestamp := by
  have selected : ∀ store : ReportStore,
      (store.events.entries.filter fun entry => within window entry.row.timestamp).map
          (fun entry => entry.row.timestamp) =
        ((store.events.entries.map withoutText).map fun entry => entry.row.timestamp).filter
          (within window) := by
    intro store
    rw [List.map_map, List.filter_map]
    rfl
  have times : ∀ store : ReportStore, (ReportGenerator.windowEvents store window).map
      (fun entry => entry.row.timestamp) = sortBy id
        (((store.events.entries.map withoutText).map fun entry => entry.row.timestamp).filter
          (within window)) := by
    intro store
    rw [ReportGenerator.windowEvents, map_sortBy, selected]
  rw [times, times, differ.events]

/-- Lines for entries at the same times are alike, whatever the entries say. -/
theorem timelineLine_alike {entry other : TimelineEntry} (same : entry.timestamp = other.timestamp)
    {line : TimelineLine} (made : timelineLine env entry = .ok line) :
    ∃ another, timelineLine env other = .ok another ∧ Alike line.text another.text := by
  have fixed : Complete (html "<div class='tl'><div class='t'>") ∧ Complete (html "</div>") ∧
      Complete (html "<div class='d'><b>") ∧ Complete (html "</b> — ") ∧
      Complete (html "</div></div>") := by decide +kernel
  obtain ⟨start, stop, label, detail, last⟩ := fixed
  obtain ⟨clock, formatted, result⟩ := bind_ok_iff.mp made
  cases result
  rw [same] at formatted
  refine ⟨_, bind_ok_iff.mpr ⟨clock, formatted, rfl⟩, ?_⟩
  refine (((Alike.refl start).append (esc_alike clock clock)).append (Alike.refl stop)).append ?_
  exact ((((Alike.refl label).append (esc_alike entry.label other.label)).append
    (Alike.refl detail)).append (esc_alike entry.detail other.detail)).append (Alike.refl last)

theorem timelineLines_mapM_alike {entries others : List TimelineEntry}
    (same : entries.map TimelineEntry.timestamp = others.map TimelineEntry.timestamp)
    {lines : List TimelineLine} (made : entries.mapM (timelineLine env) = .ok lines) :
    ∃ more, others.mapM (timelineLine env) = .ok more ∧
      List.Forall₂ (fun line another => Alike line.text another.text) lines more := by
  have steps := mapM_ok_iff.mp made
  clear made
  induction steps generalizing others with
  | nil =>
    obtain rfl := List.map_eq_nil_iff.mp same.symm
    exact ⟨[], rfl, .nil⟩
  | cons first _ ih =>
    cases others with
    | nil => cases same
    | cons other others =>
      obtain ⟨time, times⟩ := List.cons.inj same
      obtain ⟨another, made, alike⟩ := timelineLine_alike time first
      obtain ⟨more, rest, others⟩ := ih times
      exact ⟨another :: more, mapM_ok_iff.mpr (.cons made (mapM_ok_iff.mp rest)),
        .cons alike others⟩

theorem DifferInText.timelineLines (differ : DifferInText first second)
    {incident : StoredIncident} {lines : List TimelineLine}
    (made : timelineLines env config first incident = .ok lines) :
    ∃ more, timelineLines env config second incident = .ok more ∧
      List.Forall₂ (fun line another => Alike line.text another.text) lines more := by
  obtain ⟨window, opened⟩ := (Succeeds.first (Succeeds.first ⟨lines, made⟩) :
    Succeeds (timelineWindow env config incident))
  obtain ⟨samples, sampled⟩ := samples_of_timelineLines opened ⟨lines, made⟩
  have again := sampled
  rw [windowRows, windowRows, differ.metrics] at again
  rw [timelineLines_eq opened sampled] at made
  rw [timelineLines_eq opened again]
  refine timelineLines_mapM_alike ?_ made
  rw [List.map_take, List.map_take, map_sortBy, map_sortBy, List.map_append, List.map_append,
    List.map_map, List.map_map]
  congr 3
  exact differ.windowEvents window

theorem DifferInText.timelineSection (differ : DifferInText first second)
    {incident : StoredIncident} {page : PyStr}
    (made : timelineSection env config first incident = .ok page) :
    ∃ other, timelineSection env config second incident = .ok other ∧ Alike page other := by
  obtain ⟨lines, shown, result⟩ := bind_ok_iff.mp made
  obtain ⟨more, again, alike⟩ := differ.timelineLines shown
  have fixed : Complete (html "<h2>Timeline</h2><div class='panel timeline'>") ∧
      Complete (html "</div>") ∧ Complete (html
        "<h2>Timeline</h2><div class='panel muted'>No data in the incident window.</div>") := by
    decide +kernel
  obtain ⟨start, stop, nothing⟩ := fixed
  cases alike with
  | nil =>
    cases result
    exact ⟨_, bind_ok_iff.mpr ⟨[], again, rfl⟩, .refl nothing⟩
  | cons line lines =>
    cases result
    refine ⟨_, bind_ok_iff.mpr ⟨_, again, rfl⟩, ?_⟩
    refine ((Alike.refl start).append ?_).append (Alike.refl stop)
    exact Alike.flatMap (fun _ _ same => same) (.cons line lines)

/-! ## Findings -/

theorem findingBlock_alike {finding other : StoredFinding}
    (same : finding.withoutText = other.withoutText) :
    Alike (findingBlock finding) (findingBlock other) := by
  obtain ⟨id, type, severity, confidence, evidence, explanation⟩ := finding
  obtain ⟨otherId, otherType, otherSeverity, otherConfidence, otherEvidence, otherExplanation⟩ :=
    other
  simp only [StoredFinding.withoutText, StoredFinding.mk.injEq] at same
  obtain ⟨-, rfl, rfl, rfl, counted, -⟩ := same
  have lengths : evidence.length = otherEvidence.length := by
    simpa using congrArg List.length counted
  have fixed : Complete (html "<div class='finding'><b>") ∧ Complete (html "</b> ") ∧
      Complete (html "</span> ") ∧ Complete (html "<span class='muted'>confidence ") ∧
      Complete (html "</span>") ∧ Complete (html "<div class='muted'>") ∧
      Complete (html "</div>") ∧ Complete (html "<ul>") ∧ Complete (html "</ul></div>") := by
    decide +kernel
  obtain ⟨start, bold, grade, muted, span, explained, div, list, last⟩ := fixed
  have heading : Complete (html "<div class='finding'><b>" ++ esc (textOf type) ++
      html "</b> ") := (start.append (esc_complete _)).append bold
  have severities : Complete (badge (severity.getD "") ++ esc (html (severity.getD "")) ++
      html "</span> ") := ((badge_complete _).append (esc_complete _)).append grade
  have confidences : Complete (html "<span class='muted'>confidence " ++
      esc (html (confidence.getD "")) ++ html "</span>") :=
    (muted.append (esc_complete _)).append span
  refine (((Alike.refl heading).append (Alike.refl severities)).append
    (Alike.refl confidences)).append ?_ |>.append ?_
  · exact ((Alike.refl explained).append (esc_alike _ _)).append (Alike.refl div)
  · exact ((Alike.refl list).append (listItems_alike lengths)).append (Alike.refl last)

/-- The findings of the two databases, one by one. -/
def SameFindings (findings others : List StoredFinding) : Prop :=
  List.Forall₂ (fun finding other => finding.withoutText = other.withoutText) findings others

theorem findingsSection_alike {findings others : List StoredFinding}
    (same : SameFindings findings others) :
    Alike (findingsSection findings) (findingsSection others) := by
  cases same with
  | nil => exact Alike.refl (by decide +kernel)
  | cons first rest =>
    refine (Alike.refl (by decide +kernel)).append ?_
    exact Alike.flatMap (fun _ _ => findingBlock_alike) (.cons first rest)

/-- The hints depend on the types of the findings only. -/
theorem gathered_congr {findings others : List StoredFinding} (same : SameFindings findings others)
    (hints : List (String × List String)) (default : String) :
    gathered hints findings default = gathered hints others default := by
  have texts : (findings.flatMap fun finding =>
      (finding.findingType.bind fun type => hints.lookup type).getD []) =
      others.flatMap fun finding =>
        (finding.findingType.bind fun type => hints.lookup type).getD [] := by
    induction same with
    | nil => rfl
    | cons first _ ih =>
      have type : _ = _ := congrArg StoredFinding.findingType first
      simp only [StoredFinding.withoutText] at type
      rw [List.flatMap_cons, List.flatMap_cons, type, ih]
  rw [gathered, gathered, texts]

theorem DifferInText.listFindings (differ : DifferInText first second) (id : ℕ) :
    SameFindings (listFindings first id) (listFindings second id) := by
  have selected : ∀ store : ReportStore,
      (ReportGenerator.listFindings store id).map StoredFinding.withoutText =
        (store.findings.rows.map StoredFinding.withoutText).filter
          fun finding => finding.incidentId = id := by
    intro store
    rw [List.filter_map]
    rfl
  have same : (ReportGenerator.listFindings first id).map StoredFinding.withoutText =
      (ReportGenerator.listFindings second id).map StoredFinding.withoutText := by
    rw [selected, selected, differ.findings]
  rw [← List.forall₂_eq_eq_eq, List.forall₂_map_left_iff, List.forall₂_map_right_iff] at same
  exact same

theorem DifferInText.selected (differ : DifferInText first second) (incidentId : Option ℕ) :
    (selected first incidentId).1 = (selected second incidentId).1 ∧
      SameFindings (selected first incidentId).2 (selected second incidentId).2 := by
  have given : SameFindings ((incidentId.map (ReportGenerator.listFindings first)).getD [])
      ((incidentId.map (ReportGenerator.listFindings second)).getD []) := by
    cases incidentId with
    | none => exact .nil
    | some id => exact differ.listFindings id
  unfold ReportGenerator.selected
  rw [← differ.incidents]
  split
  · exact ⟨rfl, given⟩
  split
  · exact ⟨rfl, differ.listFindings _⟩
  · exact ⟨rfl, given⟩

/-! ## The body and the page -/

theorem DifferInText.incidentSections (differ : DifferInText first second)
    {incident : Option StoredIncident} {pages : List PyStr}
    (made : incidentSections env config first incident = .ok pages) :
    ∃ others, incidentSections env config second incident = .ok others ∧
      List.Forall₂ Alike pages others := by
  cases incident with
  | none =>
    cases made
    exact ⟨[], rfl, .nil⟩
  | some incident =>
    obtain ⟨timeline, shown, rest⟩ := bind_ok_iff.mp made
    obtain ⟨session, known, result⟩ := bind_ok_iff.mp rest
    cases result
    obtain ⟨other, again, alike⟩ := differ.timelineSection shown
    have complete := previousSessionSection_complete known
    have sessions : previousSessionSection env second incident = .ok session := by
      rw [← known, previousSessionSection, previousSessionSection, differ.sessions]
    exact ⟨_, bind_ok_iff.mpr ⟨other, again, bind_ok_iff.mpr ⟨session, sessions, rfl⟩⟩,
      .cons alike (.cons (.refl complete) .nil)⟩

/-- **The sections of reports that differ in free text only are alike.** -/
theorem sections_alike (differ : DifferInText first second) {incidentId : Option ℕ}
    {pages : List PyStr} (made : sections env config first incidentId = .ok pages) :
    ∃ others, sections env config second incidentId = .ok others ∧
      List.Forall₂ Alike pages others := by
  obtain ⟨summary, summarized, rest⟩ := bind_ok_iff.mp made
  obtain ⟨about, told, result⟩ := bind_ok_iff.mp rest
  cases result
  obtain ⟨incident, findings⟩ := differ.selected incidentId
  obtain ⟨others, again, alike⟩ := differ.incidentSections told
  rw [incident] at summarized again
  refine ⟨_, bind_ok_iff.mpr ⟨summary, summarized, bind_ok_iff.mpr ⟨others, again, rfl⟩⟩, ?_⟩
  have prepended : List.Forall₂ Alike
      ((env.prepend.filter fun fragment => fragment.text ≠ "").toList.map
        fun fragment => html fragment.text)
      ((env.prepend.filter fun fragment => fragment.text ≠ "").toList.map
        fun fragment => html fragment.text) := by
    rw [List.forall₂_same]
    intro piece member
    obtain ⟨fragment, -, rfl⟩ := List.mem_map.mp member
    exact .refl fragment.complete
  have causes : Alike (causesSection (selected first incidentId).2)
      (causesSection (selected second incidentId).2) := by
    rw [causesSection, causesSection, gathered_congr findings]
    exact .refl (hintSection_complete (by decide +kernel) _)
  have steps : Alike (nextStepsSection (selected first incidentId).2)
      (nextStepsSection (selected second incidentId).2) := by
    rw [nextStepsSection, nextStepsSection, gathered_congr findings]
    exact .refl (hintSection_complete (by decide +kernel) _)
  refine List.rel_append (List.rel_append (List.rel_append prepended ?_) alike) ?_
  · exact .cons (.refl (incidentSummary_complete summarized))
      (.cons (.refl (systemInfoSection_complete env)) .nil)
  · exact .cons (findingsSection_alike findings) (.cons causes (.cons steps .nil))

end Text

/-- The parts of a template open no tag that they do not close, and hold no
placeholder. -/
structure Template.Sound (template : Template) : Prop where
  head : Complete template.head
  middle : Complete template.middle
  foot : Complete template.foot
  headFree : avoids 123 123 template.head = true
  middleFree : avoids 123 123 template.middle = true
  footFree : lacks bodyMark template.foot = true
  dated : lacks generatedAtMark
    (template.middle ++ (bodyMark ++ template.foot)) = true

/-- Markup is checked by its characters. -/
theorem html_ofList (chars : List Char) : html (String.ofList chars) = chars.map Char.toNat := by
  rw [html, PyStr.ofString, String.toList_ofList]

theorem complete_ofList {chars : List Char} (complete : Complete (chars.map Char.toNat)) :
    Complete (html (String.ofList chars)) := by
  rwa [html_ofList]

theorem free_ofList {chars : List Char} (free : avoids 123 123 (chars.map Char.toNat) = true) :
    avoids 123 123 (html (String.ofList chars)) = true := by
  rwa [html_ofList]

/-- The head of the file, line by line. -/
theorem reportTemplate_head : Complete reportTemplate.head ∧
    avoids 123 123 reportTemplate.head = true := by
  simp only [reportTemplate, templateHead, List.flatMap_cons, List.flatMap_nil]
  constructor
  · repeat' with_reducible apply Complete.append
    all_goals first | exact complete_ofList (by decide +kernel) | rfl
  · repeat' with_reducible apply avoids_append
    all_goals first | exact free_ofList (by decide +kernel) | rfl

theorem loadTemplate_sound (env : Environment) : (loadTemplate env).Sound := by
  unfold loadTemplate
  split
  · exact
      { head := reportTemplate_head.1
        middle := complete_ofList (by decide +kernel)
        foot := complete_ofList (by decide +kernel)
        headFree := reportTemplate_head.2
        middleFree := free_ofList (by decide +kernel)
        footFree := by decide +kernel
        dated := by decide +kernel }
  · exact
      { head := complete_ofList (by decide +kernel)
        middle := complete_ofList (by decide +kernel)
        foot := complete_ofList (by decide +kernel)
        headFree := free_ofList (by decide +kernel)
        middleFree := free_ofList (by decide +kernel)
        footFree := by decide +kernel
        dated := by decide +kernel }

/-- The page around a body. -/
def Template.page (template : Template) (generatedAt body : PyStr) : PyStr :=
  template.head ++ (generatedAt ++ (template.middle ++ (body ++ template.foot)))

/-- Both placeholders are replaced once, and the body is not read again. -/
theorem Template.Sound.filled {template : Template} (sound : template.Sound)
    {generatedAt : PyStr} (small : ∀ code ∈ generatedAt, code ≤ 58) (body : PyStr) :
    fill bodyMark body 0 (fill generatedAtMark generatedAt 0 template.text) =
      template.page generatedAt body := by
  have dateMark : generatedAtMark = 123 :: 123 :: html "GENERATED_AT\x7d\x7d" := by decide +kernel
  have mark : bodyMark = 123 :: 123 :: html "BODY\x7d\x7d" := by decide +kernel
  have dated : fill generatedAtMark generatedAt 0 template.text =
      template.head ++ (generatedAt ++
        (template.middle ++ (bodyMark ++ template.foot))) := by
    rw [Template.text, dateMark, fill_avoids generatedAt sound.headFree, fill_placeholder,
      ← dateMark, fill_lacks generatedAt sound.dated]
  have free : avoids 123 123 generatedAt = true := by
    refine avoids_of_notMem 123 fun member => ?_
    have bound := small 123 member
    omega
  rw [dated, mark, fill_avoids body sound.headFree, fill_avoids body free,
    fill_avoids body sound.middleFree, fill_placeholder, ← mark, fill_lacks body sound.footFree]
  rfl

theorem render_ok_iff {env : Environment} {config : Config} {store : ReportStore}
    {incidentId : Option ℕ} {page : PyStr} :
    render env config store incidentId = .ok page ↔
      ∃ pages time, sections env config store incidentId = .ok pages ∧
        env.localTime env.generatedAt = .ok time ∧
        page = (loadTemplate env).page time.full ((html "\n").intercalate pages) := by
  have sound := loadTemplate_sound env
  constructor
  · intro made
    obtain ⟨pages, written, rest⟩ := bind_ok_iff.mp made
    obtain ⟨text, formatted, result⟩ := bind_ok_iff.mp rest
    obtain ⟨time, known, same⟩ := bind_ok_iff.mp formatted
    cases same
    cases result
    exact ⟨pages, time, written, known, sound.filled (full_small time) _⟩
  · rintro ⟨pages, time, written, known, rfl⟩
    rw [← sound.filled (full_small time)]
    exact bind_ok_iff.mpr ⟨pages, written, bind_ok_iff.mpr
      ⟨time.full, bind_ok_iff.mpr ⟨time, known, rfl⟩, rfl⟩⟩

/-- **The pages of reports that differ in free text only have the same tags.** -/
theorem render_alike {env : Environment} {config : Config} {first second : ReportStore}
    (differ : DifferInText first second) {incidentId : Option ℕ} {page : PyStr}
    (made : render env config first incidentId = .ok page) :
    ∃ other, render env config second incidentId = .ok other ∧ Alike page other := by
  obtain ⟨pages, time, written, known, rfl⟩ := render_ok_iff.mp made
  obtain ⟨others, again, alike⟩ := sections_alike differ written
  refine ⟨_, render_ok_iff.mpr ⟨others, time, again, known, rfl⟩, ?_⟩
  have sound := loadTemplate_sound env
  have plain : Plain time.full := fun member => absurd (full_small time 60 member) (by decide)
  refine (Alike.refl sound.head).append ((Alike.refl plain.complete).append ?_)
  refine (Alike.refl sound.middle).append (Alike.append ?_ (Alike.refl sound.foot))
  exact Alike.intercalate (by decide +kernel) alike

end ReportGenerator

end PcDiagnosticAgent
