import PcDiagnosticAgent.Agent.History

/-!
# Every stored incident is accounted for

Incidents and findings are stored once and never touched again, while sessions
and events keep arriving. So what stood behind an incident when it was stored
still stands: the session of its boot, which follows the session the incident
names, a crash event of a kind that its type needs from the transition it was
diagnosed for, and the findings it lists, in the order of their severity
(`Accounted`). This holds of every incident in every history of a database
(`incidents_accounted`). The incident of a first session names none.

Nothing else is ever stored: an incident is a `BSOD`, a `HARD_HANG` or a
`POWER_LOSS`, and never the `UNEXPECTED_REBOOT` or the `UNKNOWN` that the engine
could name.
-/

set_option autoImplicit false

namespace PcDiagnosticAgent

open AutoTables EventAnalyzer BootDetector Diagnosis WindowsEvents Retention

/-! ## Verdicts and the events behind them -/

namespace Diagnosis

/-- The kinds of crash event that an incident of a type is drawn from. -/
def Backs : IncidentType → Category → Prop
  | .bsod, .bugcheck => True
  | .hardHang, .kernelPower => True
  | .hardHang, .shutdownUnexpected => True
  | .powerLoss, .kernelPower => True
  | _, _ => False

instance (type : IncidentType) (category : Category) : Decidable (Backs type category) := by
  unfold Backs
  split <;> infer_instance

/-- The duration a verdict gives: none for a BugCheck, else the gap. -/
def durationOf (type : IncidentType) (gap : Option ℚ) : Option ℚ :=
  if type = .bsod then none else gap

theorem gapVerdict_backed (interval : ℕ) (gap : Option ℚ) :
    Backs (gapVerdict interval gap).type .kernelPower ∧
      (gapVerdict interval gap).duration = durationOf (gapVerdict interval gap).type gap := by
  unfold gapVerdict
  split
  · exact ⟨trivial, rfl⟩
  · split
    · exact ⟨trivial, rfl⟩
    · split <;> exact ⟨trivial, rfl⟩

/-- A verdict names an event behind it. -/
theorem verdict_backed {events : List EventRow} {clean : Bool} {gap : Option ℚ} {interval : ℕ}
    {given : Verdict} (found : verdict events clean gap interval = some given) :
    (∃ event ∈ events, Backs given.type (classifyEvent event)) ∧
      given.duration = durationOf given.type gap := by
  have backed : ∀ {category : Category}, Holds events category → Backs given.type category →
      ∃ event ∈ events, Backs given.type (classifyEvent event) := by
    rintro category ⟨event, member, rfl⟩ backs
    exact ⟨event, member, backs⟩
  unfold verdict at found
  split at found
  · rename_i bugcheck
    obtain rfl := Option.some.inj found
    exact ⟨backed bugcheck trivial, rfl⟩
  · split at found
    · cases found
    · split at found
      · rename_i power
        obtain rfl := Option.some.inj found
        obtain ⟨backs, duration⟩ := gapVerdict_backed interval gap
        exact ⟨backed power backs, duration⟩
      · split at found
        · rename_i unexpected
          obtain rfl := Option.some.inj found
          exact ⟨backed unexpected trivial, rfl⟩
        · cases found

/-- The last activity lies before the boot, so the gap is the time between. -/
theorem activityGap_last (db : Database) (bootTime : Epoch) :
    activityGap (lastMetricTimestamp db bootTime) bootTime =
      (lastMetricTimestamp db bootTime).map (bootTime - ·) := by
  have last := lastMetricTimestamp_greatest db bootTime
  cases found : lastMetricTimestamp db bootTime with
  | none => rfl
  | some time =>
    rw [found] at last
    exact activityGap_of_lt last.1.2

/-- Findings are reported in the order of their severity, and there is always
one. -/
def BySeverity (first second : Finding) : Prop :=
  severityRank second.severity ≤ severityRank first.severity

instance : DecidableRel BySeverity := fun _ _ => inferInstanceAs (Decidable (_ ≤ _))

instance : Std.Total BySeverity := ⟨fun _ _ => Nat.le_total ..⟩

instance : IsTrans Finding BySeverity := ⟨fun _ _ _ first second => Nat.le_trans second first⟩

theorem buildFindings_ranked (summary : Summary) (aggregates : Aggregates)
    (inference : TerminationInference) (config : Config) :
    buildFindings summary aggregates inference config ≠ [] ∧
      (buildFindings summary aggregates inference config).Pairwise BySeverity := by
  have sorted : ∀ findings : List Finding, findings ≠ [] →
      findings.insertionSort BySeverity ≠ [] ∧
        (findings.insertionSort BySeverity).Pairwise BySeverity := by
    intro findings filled
    refine ⟨fun none => filled ?_, List.pairwise_insertionSort _ findings⟩
    have perm := List.perm_insertionSort BySeverity findings
    rw [none] at perm
    exact perm.nil_eq.symm
  refine sorted _ ?_
  split
  · exact List.cons_ne_nil _ _
  · assumption

end Diagnosis

/-! ## Accounts -/

namespace Database

/-- `SELECT * FROM findings WHERE incident_id = ? ORDER BY finding_id`. -/
def listFindings (db : Database) (incidentId : ℕ) : List FindingRow :=
  db.findings.rows.filter fun finding => finding.incidentId = incidentId

end Database

namespace Agent

/-- A session is that of the incident's boot and follows the session the incident
names, if there is one. A stored event backs the type: it lies between the previous
boot of the session, or without one the retention time before the boot, and two
minutes after the boot. -/
structure Explained (configs : List Config) (db : Database) (incident : IncidentRow)
    (session : Entry SessionRow) : Prop where
  boot : SameBoot session incident.detectedAt
  previous : (db.earlierSession session.id).map Entry.id = incident.previousSessionId
  event : ∃ type, incident.incidentType = some type ∧ ∃ entry ∈ db.events.entries,
    Backs type (classifyEvent entry.row) ∧ entry.row.timestamp ≤ incident.detectedAt + 120 ∧
      ∃ config ∈ configs, session.row.previousBootTime.getD
        (incident.detectedAt - config.retentionHours * 3600) ≤ entry.row.timestamp

/-- What is stored explains the incident, and agrees with what it says. -/
structure Accounted (configs : List Config) (db : Database) (incident : Entry IncidentRow) :
    Prop where
  explained : ∃ session ∈ db.sessions.entries, Explained configs db incident.row session
  reboot : incident.row.rebootTimestamp = some incident.row.detectedAt
  lastActivity : ∀ last ∈ incident.row.lastMetricTimestamp, last < incident.row.detectedAt
  duration : ∀ type ∈ incident.row.incidentType, incident.row.durationEstimate =
    durationOf type (incident.row.lastMetricTimestamp.map (incident.row.detectedAt - ·))
  listed : incident.row.findings = (db.listFindings incident.id).map (·.type)
  reported : db.listFindings incident.id ≠ []
  ranked : (db.listFindings incident.id).Pairwise fun first second =>
    BySeverity first.toFinding second.toFinding

variable {configs : List Config}

theorem Explained.grow {db later : Database} {incident : IncidentRow}
    {session : Entry SessionRow} (explained : Explained configs db incident session)
    (member : session ∈ db.sessions.entries) (grows : Grows db later) :
    ∃ same ∈ later.sessions.entries, Explained configs later incident same := by
  obtain ⟨same, stored, key, before⟩ := grows.session member
  obtain ⟨boot, previous, type, isType, entry, seen, backs, early, config, used, late⟩ := explained
  obtain ⟨id, bootTime, link⟩ := SessionKey.mk.inj key
  refine ⟨same, stored, ?_, ?_, type, isType, entry, grows.events entry seen, backs, early,
    config, used, ?_⟩
  · rw [SameBoot, bootTime]
    exact boot
  · rw [id]
    exact (id_of_key_eq before).trans previous
  · rw [link]
    exact late

/-- An account stands while its findings do. -/
theorem Accounted.grow {db later : Database} {incident : Entry IncidentRow}
    (accounted : Accounted configs db incident) (grows : Grows db later)
    (findings : later.listFindings incident.id = db.listFindings incident.id) :
    Accounted configs later incident := by
  obtain ⟨⟨session, member, explained⟩, reboot, last, duration, listed, reported, ranked⟩ :=
    accounted
  rw [← findings] at listed reported ranked
  exact ⟨explained.grow member grows, reboot, last, duration, listed, reported, ranked⟩

/-! ## A new incident -/

/-- The findings of an incident are those it was created with. -/
theorem listFindings_createIncident {db : Database} (resolves : Resolves db) (incident : Incident)
    (findings : List Finding) :
    ((db.createIncident incident findings).1.listFindings (db.incidents.seq + 1)).map
        FindingRow.toFinding = findings ∧
      ∀ id ≤ db.incidents.seq, (db.createIncident incident findings).1.listFindings id =
        db.listFindings id := by
  have rows : (db.createIncident incident findings).1.findings.rows =
      db.findings.rows ++ findings.map fun finding =>
        { finding with incidentId := db.incidents.seq + 1 } := AutoTable.rows_insertAll ..
  have old : ∀ finding ∈ db.findings.rows, finding.incidentId ≤ db.incidents.seq := by
    intro finding member
    obtain ⟨entry, stored, rfl⟩ := List.mem_map.mp member
    obtain ⟨other, assigned, id⟩ := resolves.findings entry stored
    rw [← id]
    exact (db.incidents.assigned other assigned).2
  constructor
  · have none : db.findings.rows.filter (fun finding =>
        decide (finding.incidentId = db.incidents.seq + 1)) = [] := by
      refine List.filter_eq_nil_iff.mpr fun finding member => ?_
      have below := old finding member
      simp only [decide_eq_true_eq]
      omega
    have all : (findings.map fun finding =>
        ({ finding with incidentId := db.incidents.seq + 1 } : FindingRow)).filter (fun finding =>
          decide (finding.incidentId = db.incidents.seq + 1)) =
        findings.map fun finding => { finding with incidentId := db.incidents.seq + 1 } := by
      refine List.filter_eq_self.mpr fun finding member => ?_
      obtain ⟨_, -, row⟩ := List.mem_map.mp member
      rw [← row]
      exact decide_eq_true rfl
    rw [Database.listFindings, rows, List.filter_append, none, all, List.nil_append, List.map_map]
    exact List.map_id findings
  · intro id below
    have none : (findings.map fun finding =>
        ({ finding with incidentId := db.incidents.seq + 1 } : FindingRow)).filter (fun finding =>
          decide (finding.incidentId = id)) = [] := by
      refine List.filter_eq_nil_iff.mpr fun finding member => ?_
      obtain ⟨_, -, row⟩ := List.mem_map.mp member
      rw [← row]
      simp only [decide_eq_true_eq]
      omega
    rw [Database.listFindings, rows, List.filter_append, none, List.append_nil]
    rfl

/-- What the engine says about an incident of a known boot. -/
theorem diagnose_explained {db : Database} {boot : BootResult} {config : Config}
    {incident : Incident} (used : config ∈ configs) (known : Known db boot)
    (found : (diagnose db boot.toTransition config).incident = some incident) :
    ∃ session ∈ db.sessions.entries,
      Explained configs db (Database.incidentRow incident) session := by
  obtain ⟨⟨session, member, id, booted, link⟩, previous⟩ := known
  obtain ⟨detected, -, named, -⟩ := diagnose_repeats found
  have verdicts := diagnose_verdict db boot.toTransition config
  rw [found] at verdicts
  obtain ⟨⟨event, inWindow, backs⟩, -⟩ := verdict_backed verdicts.symm
  obtain ⟨stored, late, early⟩ := Database.mem_eventsBetween.mp inWindow
  obtain ⟨entry, seen, rfl⟩ := List.mem_map.mp stored
  have row : (Database.incidentRow incident).detectedAt = boot.bootTime := detected
  refine ⟨session, member, ?_, ?_, incident.incidentType, rfl, entry, seen, backs, ?_, config,
    used, ?_⟩
  · rw [row]
    exact booted
  · rw [id]
    exact previous.trans named.symm
  · rw [row]
    exact early
  · rw [link, row]
    exact late

theorem accounted_createIncident {db : Database} {boot : BootResult} {config : Config}
    {incident : Incident} (used : config ∈ configs) (known : Known db boot)
    (resolves : Resolves db)
    (found : (diagnose db boot.toTransition config).incident = some incident) :
    Accounted configs (db.createIncident incident (diagnose db boot.toTransition config).findings).1
      ⟨db.incidents.seq + 1, Database.incidentRow incident⟩ := by
  obtain ⟨session, member, explained⟩ := diagnose_explained used known found
  obtain ⟨detected, reboot, -, findings⟩ := diagnose_repeats found
  obtain ⟨listed, -⟩ := listFindings_createIncident resolves incident
    (diagnose db boot.toTransition config).findings
  have last := diagnose_lastMetricTimestamp found
  have verdicts := diagnose_verdict db boot.toTransition config
  rw [found, activityGap_last, ← last, ← detected] at verdicts
  obtain ⟨-, duration⟩ := verdict_backed verdicts.symm
  have ranked : (diagnose db boot.toTransition config).findings ≠ [] ∧
      (diagnose db boot.toTransition config).findings.Pairwise BySeverity := by
    simp only [diagnose] at found ⊢
    split at found
    · rename_i reports
      rw [if_pos reports]
      exact buildFindings_ranked ..
    · cases found
  refine ⟨⟨session, member, explained.boot, explained.previous, explained.event⟩,
    ?_, ?_, ?_, ?_, ?_, ?_⟩
  · exact congrArg some (reboot.trans detected.symm)
  · intro time isLast
    have greatest := lastMetricTimestamp_greatest db boot.bootTime
    have before : lastMetricTimestamp db boot.bootTime = some time := last.symm.trans isLast
    rw [before] at greatest
    exact lt_of_lt_of_eq greatest.1.2 detected.symm
  · intro type isType
    rw [← Option.some.inj isType]
    exact duration
  · have types := congrArg (List.map Finding.type) listed
    rw [List.map_map] at types
    exact findings.trans types.symm
  · intro none
    rw [none] at listed
    exact ranked.1 listed.symm
  · rw [← List.pairwise_map, listed]
    exact ranked.2

/-! ## Histories -/

/-- A diagnosis uses one of the configurations. -/
def Write.Uses (configs : List Config) : Write → Prop
  | .diagnose config => config ∈ configs
  | _ => True

theorem accounted_step {process : Process} {write : Write} {later : Database}
    (uses : write.Uses configs) (sound : Sound process)
    (accounted : ∀ incident ∈ process.database.incidents.entries,
      Accounted configs process.database incident) (steps : Steps process write later) :
    ∀ incident ∈ later.incidents.entries, Accounted configs later incident := by
  have grows := steps.grows
  intro incident member
  cases steps with
  | opened opened =>
    rw [opened.rest] at member grows ⊢
    exact (accounted incident member).grow grows rfl
  | worked isBoot background inSession =>
    rw [background.incidents] at member
    refine (accounted incident member).grow grows ?_
    simp only [Database.listFindings, background.findings]
  | kept => exact accounted incident member
  | raised asked isBoot found =>
    rw [asked] at uses
    rcases List.mem_append.mp member with old | new
    · refine (accounted incident old).grow grows ?_
      exact (listFindings_createIncident sound.resolves _ _).2 incident.id
        (process.database.incidents.assigned incident old).2
    · rw [List.mem_singleton.mp new]
      exact accounted_createIncident uses (sound.known _ isBoot) sound.resolves found

/-- The configurations of the diagnoses. -/
def diagnosedWith (writes : List Write) : List Config :=
  writes.filterMap fun write =>
    match write with
    | .diagnose config => some config
    | _ => none

theorem uses_diagnosedWith {writes : List Write} {write : Write} (member : write ∈ writes) :
    write.Uses (diagnosedWith writes) := by
  cases write with
  | diagnose config => exact List.mem_filterMap.mpr ⟨_, member, rfl⟩
  | start now bootTime => trivial
  | interruptedStart done now bootTime => trivial
  | operate op => trivial

/-- **In every history of a database every stored incident is accounted for.** -/
theorem incidents_accounted (writes : List Write) (allowed : Writes writes) :
    ∀ incident ∈ (written writes).database.incidents.entries,
      Accounted (diagnosedWith writes) (written writes).database incident := by
  have all : Sound (written writes) ∧
      ∀ incident ∈ (written writes).database.incidents.entries,
        Accounted (diagnosedWith writes) (written writes).database incident := by
    refine Runs.Guarded.invariant
      (fun process => Sound process ∧ ∀ incident ∈ process.database.incidents.entries,
        Accounted (diagnosedWith writes) process.database incident) ?_
      (allowed.and (.of_forall fun write => uses_diagnosedWith))
      ⟨.created, fun incident member => absurd member List.not_mem_nil⟩
    rintro process write ⟨legal, uses⟩ ⟨sound, accounted⟩
    exact ⟨sound.step legal, accounted_step uses sound accounted (process.step_database legal)⟩
  exact all.2

/-- A crash found at the first start, whose incident names no session, and one after
a session. -/
theorem incidents_accounted_crash :
    let writes : List Write := [.start 1001 1000,
      .operate (.insertEvents [kernelPower41 1000] 1), .diagnose {},
      .operate (.updateHeartbeat 1900), .operate (.insertEvents [kernelPower41 2000] 1),
      .start 2001 2000, .diagnose {}]
    let db := (written writes).database
    db.incidents.rows.map (·.previousSessionId) = [none, some 1] ∧
      ∀ incident ∈ db.incidents.entries, Accounted (diagnosedWith writes) db incident :=
  ⟨by decide +kernel, incidents_accounted _ (by decide +kernel)⟩

end Agent

end PcDiagnosticAgent
