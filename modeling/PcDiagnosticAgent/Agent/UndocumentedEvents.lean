import PcDiagnosticAgent.Agent.StartupOrder

/-!
# Events that are not documented as signals

A termination is documented by pairs of a provider and an id. The classifier
goes by less: a part of the provider, the id alone, or a word of the message.
So events outside the pairs change nothing exactly when they bring no category
that decides and that the window lacks (`added_events_inert_iff`).
-/

set_option autoImplicit false

namespace PcDiagnosticAgent

open AutoTables EventAnalyzer BootDetector Diagnosis WindowsEvents

namespace EventAnalyzer

/-- The documented pairs of provider and id. -/
def documentedPairs : List (String × ℤ) :=
  kernelPowerProviders.map (·, 41) ++ bugcheckProviders.map (·, 1001) ++
    [("User32", 1074), (eventlogProvider, 6006), (eventlogProvider, 6008)]

/-- The event is one of the documented pairs, whatever the case of its
provider. -/
def Documented (event : EventRow) : Prop :=
  ∃ pair ∈ documentedPairs,
    Text.lower (provider event) = Text.lower (Text.strip pair.1.toList) ∧
      eventId event = some pair.2

instance (event : EventRow) : Decidable (Documented event) :=
  inferInstanceAs (Decidable (∃ pair ∈ documentedPairs, _))

end EventAnalyzer

namespace Agent

/-- A start without new records in the event log. -/
def analysed (db : Database) (config : Config) (now bootTime : Epoch) : StartupOutcome :=
  diagnosed (detectBoot db now bootTime).1 (detectBoot db now bootTime).2 config

/-- Two starts give the same flags, report an incident of the same type or
none, and leave the same incidents stored. -/
structure SameAccount (first second : StartupOutcome) : Prop where
  clean : first.boot.previousSessionClean = second.boot.previousSessionClean
  unexpected : first.boot.unexpectedShutdown = second.boot.unexpectedShutdown
  kernelPower : first.boot.kernelPowerDetected = second.boot.kernelPowerDetected
  bugcheck : first.boot.bugcheckDetected = second.boot.bugcheckDetected
  reported : first.result.incident.map Incident.incidentType =
    second.result.incident.map Incident.incidentType
  stored : first.database.incidents.rows.map IncidentRow.incidentType =
    second.database.incidents.rows.map IncidentRow.incidentType

/-- The added events of the window. -/
def addedEvents (rows : List Event) (sessionId : ℕ) (transition : Transition) (config : Config) :
    List EventRow :=
  (rows.map (Database.eventRow sessionId)).filter fun event =>
    transitionStart transition config ≤ event.timestamp ∧
      event.timestamp ≤ transition.bootTime + 120

/-- The added events leave the type of the incident as it is: they bring no
BugCheck to a window without one, and to an unclean window without either no
Kernel-Power 41 that is not typed as the 6008 it has, and no 6008 to a window
without both. -/
structure NothingDecisive (clean short : Bool) (stored added : List EventRow) : Prop where
  bugcheck : Holds added .bugcheck → Holds stored .bugcheck
  kernelPower : ¬ Holds stored .bugcheck → clean = false → Holds added .kernelPower →
    Holds stored .kernelPower ∨ Holds stored .shutdownUnexpected ∧ short = false
  unexpected : ¬ Holds stored .bugcheck → clean = false → Holds added .shutdownUnexpected →
    Holds stored .shutdownUnexpected ∨ Holds stored .kernelPower

/-! ## The type -/

/-- Added events keep the type exactly when they are not decisive. -/
theorem verdictType_eq_iff {stored added all : List EventRow} (clean short : Bool)
    (union : ∀ category, Holds all category ↔ Holds stored category ∨ Holds added category) :
    verdictType all clean short = verdictType stored clean short ↔
      NothingDecisive clean short stored added := by
  unfold verdictType
  simp only [union]
  by_cases bugcheck : Holds stored .bugcheck
  · simp only [bugcheck, true_or, if_true, true_iff]
    exact ⟨fun _ => bugcheck, fun none => absurd bugcheck none, fun none => absurd bugcheck none⟩
  by_cases added_bugcheck : Holds added .bugcheck
  · simp only [bugcheck, added_bugcheck, or_true, if_true, if_false]
    refine iff_of_false ?_ fun inert => bugcheck (inert.bugcheck added_bugcheck)
    cases clean <;> simp only [Bool.false_eq_true, if_false, if_true, reduceCtorEq,
      not_false_eq_true]
    split
    · cases short <;> simp
    · split <;> simp
  simp only [bugcheck, added_bugcheck, or_self, if_false]
  cases clean with
  | true =>
    simp only [if_true, true_iff]
    exact ⟨fun fresh => absurd fresh added_bugcheck, fun _ unclean => by simp at unclean,
      fun _ unclean => by simp at unclean⟩
  | false =>
    simp only [Bool.false_eq_true, if_false]
    have shape : NothingDecisive false short stored added ↔
        (Holds added .kernelPower →
          Holds stored .kernelPower ∨ Holds stored .shutdownUnexpected ∧ short = false) ∧
        (Holds added .shutdownUnexpected →
          Holds stored .shutdownUnexpected ∨ Holds stored .kernelPower) := by
      constructor
      · exact fun inert => ⟨inert.kernelPower bugcheck rfl, inert.unexpected bugcheck rfl⟩
      · rintro ⟨kernelPower, unexpected⟩
        exact ⟨fun fresh => absurd fresh added_bugcheck, fun _ _ => kernelPower,
          fun _ _ => unexpected⟩
    rw [shape]
    by_cases kernelPower : Holds stored .kernelPower
    · simp [kernelPower]
    by_cases unexpected : Holds stored .shutdownUnexpected
    · by_cases fresh : Holds added .kernelPower
      · cases short <;> simp [kernelPower, unexpected, fresh]
      · simp [kernelPower, unexpected, fresh]
    · by_cases fresh : Holds added .kernelPower
      · cases short <;> simp [kernelPower, unexpected, fresh]
      · simp [kernelPower, unexpected, fresh]

/-! ## Starts with and without the events -/

section Start

variable (db : Database) (config : Config) (now bootTime : Epoch)

/-- The type a start reports. -/
theorem analysed_type :
    (analysed db config now bootTime).result.incident.map Incident.incidentType =
      verdictType
        (db.eventsBetween (transitionStart (detectBoot db now bootTime).2.toTransition config)
          (bootTime + 120))
        ((detectBoot db now bootTime).2.previousSessionClean.getD false)
        (shortGap config.collectionIntervalSeconds
          (activityGap (lastMetricTimestamp db bootTime) bootTime)) := by
  let transition := (detectBoot db now bootTime).2.toTransition
  have boot : transition.bootTime = bootTime := detectBoot_bootTime db now bootTime
  have dry := congrArg (fun result => result.incident.map Incident.incidentType)
    (runDiagnosis_withoutId (detectBoot db now bootTime).1 transition config true)
  have events : transitionEvents (detectBoot db now bootTime).1 transition config =
      db.eventsBetween (transitionStart transition config) (bootTime + 120) := by
    rw [transitionEvents, boot]
    exact Database.eventsBetween_congr (detectBoot_events ..) _ _
  have last : lastMetricTimestamp (detectBoot db now bootTime).1 bootTime =
      lastMetricTimestamp db bootTime :=
    lastMetricTimestamp_congr (detectBoot_metrics ..) (detectBoot_heartbeat ..) _
  have typed := diagnose_type (detectBoot db now bootTime).1 transition config
  rw [events, boot, last] at typed
  refine Eq.trans ?_ (dry.trans typed)
  simp only [DiagnosisResult.withoutId, Option.map_map]
  rfl

/-- The types of the stored incidents after a start. -/
theorem analysed_storedTypes :
    (analysed db config now bootTime).database.incidents.rows.map IncidentRow.incidentType =
      db.incidents.rows.map IncidentRow.incidentType ++
        if incidentExists db none bootTime then []
        else ((analysed db config now bootTime).result.incident.map
          Incident.incidentType).toList.map some := by
  have stored := runDiagnosis_storedTypes (detectBoot db now bootTime).1
    (detectBoot db now bootTime).2.toTransition config
  have exists_eq : incidentExists (detectBoot db now bootTime).1
      (detectBoot db now bootTime).2.previousSessionId (detectBoot db now bootTime).2.bootTime =
      incidentExists db none bootTime := by
    simp only [incidentExists, detectBoot_incidents, detectBoot_bootTime]
  have dry := congrArg (fun result => result.incident.map Incident.incidentType)
    (runDiagnosis_withoutId (detectBoot db now bootTime).1
      (detectBoot db now bootTime).2.toTransition config true)
  simp only [DiagnosisResult.withoutId, Option.map_map] at dry
  rw [exists_eq, detectBoot_incidents, ← dry] at stored
  exact stored

/-- Without a reboot the events play no part in boot detection. -/
theorem detectBoot_insertEvents (rows : List Event) (sessionId : ℕ)
    (noReboot : ∀ reboot : Reboot db, reboot.bootTime ≠ bootTime) :
    (detectBoot (db.insertEvents rows sessionId) now bootTime).2 =
      (detectBoot db now bootTime).2 := by
  have same : (db.insertEvents rows sessionId).latestSession = db.latestSession := rfl
  unfold detectBoot
  rw [same]
  cases latest : db.latestSession with
  | none => rfl
  | some prev =>
    simp only
    split
    · rfl
    · rename_i apart
      split
      · rfl
      · rename_i nonzero
        exact absurd rfl (noReboot ⟨prev, bootTime, latest, nonzero, not_lt.mp apart⟩)

variable (rows : List Event) (sessionId : ℕ)

/-- The stored types follow the reported type. -/
theorem sameAccount_iff_reported
    (flags : (detectBoot (db.insertEvents rows sessionId) now bootTime).2.previousSessionClean =
        (detectBoot db now bootTime).2.previousSessionClean ∧
      (detectBoot (db.insertEvents rows sessionId) now bootTime).2.unexpectedShutdown =
        (detectBoot db now bootTime).2.unexpectedShutdown ∧
      (detectBoot (db.insertEvents rows sessionId) now bootTime).2.kernelPowerDetected =
        (detectBoot db now bootTime).2.kernelPowerDetected ∧
      (detectBoot (db.insertEvents rows sessionId) now bootTime).2.bugcheckDetected =
        (detectBoot db now bootTime).2.bugcheckDetected)
    (start : (detectBoot (db.insertEvents rows sessionId) now bootTime).2.previousBootTime =
      (detectBoot db now bootTime).2.previousBootTime) :
    SameAccount (analysed (db.insertEvents rows sessionId) config now bootTime)
        (analysed db config now bootTime) ↔
      NothingDecisive ((detectBoot db now bootTime).2.previousSessionClean.getD false)
        (shortGap config.collectionIntervalSeconds
          (activityGap (lastMetricTimestamp db bootTime) bootTime))
        (transitionEvents db (detectBoot db now bootTime).2.toTransition config)
        (addedEvents rows sessionId (detectBoot db now bootTime).2.toTransition config) := by
  obtain ⟨clean, unexpected, kernelPower, bugcheck⟩ := flags
  have boot := detectBoot_bootTime db now bootTime
  have last : lastMetricTimestamp (db.insertEvents rows sessionId) bootTime =
      lastMetricTimestamp db bootTime := lastMetricTimestamp_congr rfl rfl _
  have begins : transitionStart
      (detectBoot (db.insertEvents rows sessionId) now bootTime).2.toTransition config =
      transitionStart (detectBoot db now bootTime).2.toTransition config := by
    rw [transitionStart, transitionStart, start, detectBoot_bootTime, boot]
  have union := holds_insertEvents db rows sessionId
    (transitionStart (detectBoot db now bootTime).2.toTransition config) (bootTime + 120)
  have typed := analysed_type (db.insertEvents rows sessionId) config now bootTime
  have typedBefore := analysed_type db config now bootTime
  rw [begins, clean, last] at typed
  have decided := verdictType_eq_iff
    ((detectBoot db now bootTime).2.previousSessionClean.getD false)
    (shortGap config.collectionIntervalSeconds
      (activityGap (lastMetricTimestamp db bootTime) bootTime)) union
  rw [← typed, ← typedBefore] at decided
  have windows : transitionEvents db (detectBoot db now bootTime).2.toTransition config =
      db.eventsBetween (transitionStart (detectBoot db now bootTime).2.toTransition config)
        (bootTime + 120) := by
    rw [transitionEvents, boot]
  rw [windows, addedEvents, boot, ← decided]
  constructor
  · exact fun same => same.reported
  · intro reported
    refine ⟨clean, unexpected, kernelPower, bugcheck, reported, ?_⟩
    rw [analysed_storedTypes, analysed_storedTypes, reported]
    rfl

end Start

/-- After a reboot the flags stay the same exactly when the events bring nothing
new. -/
theorem reboot_flags_iff {db : Database} (reboot : Reboot db) (now : Epoch) (rows : List Event)
    (sessionId : ℕ) :
    let after := (detectBoot (db.insertEvents rows sessionId) now reboot.bootTime).2
    let before := (detectBoot db now reboot.bootTime).2
    (after.previousSessionClean = before.previousSessionClean ∧
      after.unexpectedShutdown = before.unexpectedShutdown ∧
      after.kernelPowerDetected = before.kernelPowerDetected ∧
      after.bugcheckDetected = before.bugcheckDetected) ↔
      NothingNew reboot.window ((rows.map (Database.eventRow sessionId)).filter fun event =>
        reboot.prev.row.bootTime ≤ event.timestamp ∧
          event.timestamp ≤ reboot.bootTime + 120) := by
  intro after before
  let more : Reboot (db.insertEvents rows sessionId) := { reboot with latest := reboot.latest }
  have union := holds_insertEvents db rows sessionId reboot.prev.row.bootTime
    (reboot.bootTime + 120)
  have decided : StoredAs reboot.finalisedRow (summarize more.window) ↔
      NothingNew reboot.window _ := storedAs_all_iff union reboot.finalisedRow_storedAs
  refine Iff.trans ?_ decided
  rw [show after = _ from more.detectBoot_result now,
    show before = _ from reboot.detectBoot_result now]
  simp only [rebootResult, StoredAs, Reboot.finalisedRow, outcomeFields, SessionUpdate.apply,
    Option.some_or, Option.some.injEq, flag_inj]
  constructor
  · rintro ⟨clean, unexpected, kernelPower, bugcheck⟩
    exact ⟨clean.symm, unexpected.symm, kernelPower.symm, bugcheck.symm⟩
  · rintro ⟨clean, unexpected, kernelPower, bugcheck⟩
    exact ⟨clean.symm, unexpected.symm, kernelPower.symm, bugcheck.symm⟩

/-- **Added events change no flag, no reported type and no stored incident
exactly when, after a reboot, they bring no evidence that the window lacks, and
after any start they do not decide the type.** -/
theorem added_events_inert_iff (db : Database) (config : Config) (now bootTime : Epoch)
    (rows : List Event) (sessionId : ℕ) :
    let transition := (detectBoot db now bootTime).2.toTransition
    let window := transitionEvents db transition config
    let added := addedEvents rows sessionId transition config
    SameAccount (analysed (db.insertEvents rows sessionId) config now bootTime)
        (analysed db config now bootTime) ↔
      (∀ reboot : Reboot db, reboot.bootTime = bootTime → NothingNew window added) ∧
        NothingDecisive (transition.previousSessionClean.getD false)
          (shortGap config.collectionIntervalSeconds
            (activityGap (lastMetricTimestamp db bootTime) bootTime)) window added := by
  intro transition window added
  by_cases rebooted : ∃ reboot : Reboot db, reboot.bootTime = bootTime
  · obtain ⟨reboot, rfl⟩ := rebooted
    let more : Reboot (db.insertEvents rows sessionId) := { reboot with latest := reboot.latest }
    have result := reboot.detectBoot_result now
    have flags := reboot_flags_iff reboot now rows sessionId
    have start : (detectBoot (db.insertEvents rows sessionId) now
        reboot.bootTime).2.previousBootTime =
        (detectBoot db now reboot.bootTime).2.previousBootTime := by
      rw [result, show (detectBoot (db.insertEvents rows sessionId) now reboot.bootTime).2 = _
        from more.detectBoot_result now]
      rfl
    have begins : transitionStart transition config = reboot.prev.row.bootTime := by
      rw [transitionStart, show transition.previousBootTime = some reboot.prev.row.bootTime from
        congrArg (·.previousBootTime) result]
      rfl
    have boot : transition.bootTime = reboot.bootTime := detectBoot_bootTime ..
    have sameWindow : window = reboot.window := by
      rw [Reboot.window, ← begins, ← boot]
      rfl
    have sameAdded : added = (rows.map (Database.eventRow sessionId)).filter fun event =>
        reboot.prev.row.bootTime ≤ event.timestamp ∧
          event.timestamp ≤ reboot.bootTime + 120 := by
      rw [← begins, ← boot]
      rfl
    rw [← sameWindow, ← sameAdded] at flags
    constructor
    · intro same
      have kept := And.intro same.clean
        (And.intro same.unexpected (And.intro same.kernelPower same.bugcheck))
      exact ⟨fun _ _ => flags.mp kept,
        (sameAccount_iff_reported db config now reboot.bootTime rows sessionId kept start).mp same⟩
    · rintro ⟨nothingNew, inert⟩
      have kept := flags.mpr (nothingNew reboot rfl)
      exact (sameAccount_iff_reported db config now reboot.bootTime rows sessionId kept start).mpr
        inert
  · have noReboot : ∀ reboot : Reboot db, reboot.bootTime ≠ bootTime :=
      fun reboot same => rebooted ⟨reboot, same⟩
    have same := detectBoot_insertEvents db now bootTime rows sessionId noReboot
    rw [sameAccount_iff_reported db config now bootTime rows sessionId
      (by rw [same]; exact ⟨rfl, rfl, rfl, rfl⟩) (by rw [same])]
    exact ⟨fun inert => ⟨fun reboot boots => absurd boots (noReboot reboot), inert⟩,
      fun both => both.2⟩

/-- A driver event with the id of a shutdown hides a crash, and a log event with
the id of Kernel-Power makes one up. -/
theorem undocumented_events_decide :
    let driver := logged "MyDriver" 6006 1990
    let service := logged "EventLog" 41 1990
    let crashed := oneSession [kernelPower41 2000]
    let quiet := oneSession []
    (¬ Documented (Database.eventRow 1 driver) ∧
      ¬ SameAccount (analysed (crashed.insertEvents [driver] 1) {} 2000 2000)
        (analysed crashed {} 2000 2000)) ∧
    ¬ Documented (Database.eventRow 1 service) ∧
      ¬ SameAccount (analysed (quiet.insertEvents [service] 1) {} 2000 2000)
        (analysed quiet {} 2000 2000) := by
  refine ⟨⟨by decide +kernel, fun same => ?_⟩, by decide +kernel, fun same => ?_⟩
  · exact absurd same.reported (by decide +kernel)
  · exact absurd same.reported (by decide +kernel)

end Agent

end PcDiagnosticAgent
