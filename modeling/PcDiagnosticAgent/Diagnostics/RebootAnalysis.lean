import PcDiagnosticAgent.Diagnostics.Classification

/-!
# The analysis of a reboot

A reboot runs `detect_boot` and then `run_diagnosis`. Both read the events
from the previous boot to two minutes after the new one, and `diagnose_latest`
later reads the transition back from the session rows. The three agree on the
evidence and on the incident (`reboot_readers_agree`).

Three statements about a reboot hold under a condition only. The last activity
is activity of the previous session exactly when that session left some or
nothing was ever recorded (`lastActivityInSession_iff`). A crash after the last clean
event is reported exactly when there is no clean event at all
(`crashAfterClean_iff`). On the first start a clean event after the last crash
keeps the incident away exactly when there is no crash either
(`first_start_iff`).
-/

set_option autoImplicit false

namespace PcDiagnosticAgent

open AutoTables EventAnalyzer BootDetector Diagnosis

/-! ## The transition of a reboot -/

namespace BootDetector

namespace Reboot

variable {db : Database} (reboot : Reboot db)

/-- The database after boot detection. -/
def booted (now : Epoch) : Database := (detectBoot db now reboot.bootTime).1

/-- What the diagnosis reads of the boot result. -/
def transition : Transition where
  bootTime := reboot.bootTime
  previousBootTime := some reboot.prev.row.bootTime
  previousSessionId := some reboot.prev.id
  previousSessionClean := some reboot.summary.cleanShutdown

theorem transition_bootTime : reboot.transition.bootTime = reboot.bootTime := rfl

theorem detectBoot_transition (now : Epoch) :
    (detectBoot db now reboot.bootTime).2.toTransition = reboot.transition := by
  rw [reboot.detectBoot_result]
  rfl

@[simp] theorem booted_events (now : Epoch) : (reboot.booted now).events = db.events :=
  detectBoot_events ..

@[simp] theorem booted_incidents (now : Epoch) : (reboot.booted now).incidents = db.incidents :=
  detectBoot_incidents ..

/-- The diagnosis decides from the window that boot detection summarised. -/
@[simp] theorem transitionEvents_booted (now : Epoch) (config : Config) :
    transitionEvents (reboot.booted now) reboot.transition config = reboot.window :=
  Database.eventsBetween_congr (reboot.booted_events now) _ _

@[simp] theorem activityTimes_booted (now : Epoch) :
    activityTimes (reboot.booted now) = activityTimes db := by
  simp only [activityTimes, metricTimes, booted, detectBoot_metrics, detectBoot_heartbeat]

section Later

variable {now : Epoch} {later : Database}
  (sessions : later.sessions = (reboot.booted now).sessions)

include sessions

/-- As long as the sessions are as the reboot left them, its session is the
newest. -/
theorem latestSession_later :
    later.latestSession = some ⟨db.sessions.seq + 1, reboot.openedRow now⟩ := by
  rw [Database.latestSession, sessions]
  exact reboot.latestSession_after now

theorem earlierSession_later :
    later.earlierSession (db.sessions.seq + 1) = some ⟨reboot.prev.id, reboot.finalisedRow⟩ := by
  rw [Database.earlierSession, sessions]
  exact reboot.earlierSession_after now

theorem getSession_later : later.getSession reboot.prev.id = some reboot.finalisedRow := by
  rw [Database.getSession, sessions]
  exact reboot.getSession_after now

end Later

theorem clean_iff : reboot.transition.previousSessionClean ≠ some true ↔
    ¬ Holds reboot.window .shutdownClean := by
  simp [transition, summary, (summarize_flags reboot.window).1]

/-- An incident follows a reboot exactly when the window holds a BugCheck, or
Kernel-Power 41 or 6008 and no clean event. -/
theorem runDiagnosis_isSome_iff (now : Epoch) (config : Config) (persist : Bool) :
    (runDiagnosis (detectBoot db now reboot.bootTime).1
        (detectBoot db now reboot.bootTime).2.toTransition config persist).2.incident.isSome ↔
      Holds reboot.window .bugcheck ∨
        ¬ Holds reboot.window .shutdownClean ∧
          (Holds reboot.window .kernelPower ∨ Holds reboot.window .shutdownUnexpected) := by
  have events : transitionEvents (detectBoot db now reboot.bootTime).1 reboot.transition config =
      reboot.window := reboot.transitionEvents_booted now config
  rw [runDiagnosis_isSome, reboot.detectBoot_transition now, diagnose_isSome_iff,
    reboot.clean_iff, events]

end Reboot

end BootDetector

/-! ## The three readers of the evidence -/

namespace Diagnosis

theorem mem_line {condition : Bool} {text other : String} :
    other ∈ line condition text ↔ condition = true ∧ other = text := by
  cases condition <;> simp [line]

/-- A line that starts with a count ends like its text. -/
theorem notMem_countLine {condition : Bool} {count : ℕ} {text other : String}
    (filled : text.toList ≠ []) (different : other.toList.getLast? ≠ text.toList.getLast?) :
    other ∉ line condition (toString count ++ text) := by
  rw [mem_line]
  rintro ⟨-, same⟩
  refine Text.ne_of_getLast?_ne ?_ same
  rw [String.toList_append, List.getLast?_append_of_ne_nil _ filled]
  exact different

theorem head?_append {first second : String} (filled : first.toList ≠ []) :
    (first ++ second).toList.head? = first.toList.head? := by
  rw [String.toList_append, List.head?_append_of_ne_nil _ filled]

theorem notMem_maximumLine {maximum : Option ℚ} {text unit other : String}
    (filled : text.toList ≠ []) (different : other.toList.head? ≠ text.toList.head?) :
    other ∉ maximumLine maximum text unit := by
  cases maximum with
  | none => exact List.not_mem_nil
  | some value =>
    rw [maximumLine, List.mem_singleton, String.append_assoc]
    refine Text.ne_of_head?_ne ?_
    rw [head?_append filled]
    exact different

theorem notMem_gapEvidence {inference : TerminationInference} {other : String}
    (different : other.toList.head? ≠ some 'D') : other ∉ gapEvidence inference := by
  unfold gapEvidence
  split
  · exact List.not_mem_nil
  · rw [List.mem_singleton, String.append_assoc]
    refine Text.ne_of_head?_ne ?_
    rw [head?_append (by decide)]
    exact different

/-- The lines about the termination are told apart from the counts by their
last character and from the gap and the maxima by their first one. -/
theorem mem_evidence {summary : Summary} {aggregates : Aggregates}
    {inference : TerminationInference} {crash : CrashSignals} {text : String}
    (noCount : text.toList.getLast? ≠ some ')') (noGap : text.toList.head? ≠ some 'D')
    (noMaximum : text.toList.head? ≠ some 'M') :
    text ∈ evidence summary aggregates inference crash ↔
      crash.kernelPowerDetected = true ∧ text = kernelPowerLine ∨
        crash.bugcheckDetected = true ∧ text = bugcheckLine ∨
        crash.cleanShutdown = false ∧ text = uncleanLine := by
  have whea := @notMem_countLine (summary.wheaCount ≠ 0) summary.wheaCount " WHEA event(s)" text
    (by decide) noCount
  have disk := @notMem_countLine (summary.diskErrorCount ≠ 0) summary.diskErrorCount
    " disk error event(s)" text (by decide) noCount
  have display := @notMem_countLine (summary.displayErrorCount ≠ 0) summary.displayErrorCount
    " display error event(s)" text (by decide) noCount
  have temperature := @notMem_maximumLine aggregates.maxTemperature "Max temperature " "°C" text
    (by decide) noMaximum
  have memory := @notMem_maximumLine aggregates.maxMemoryPercent "Max RAM " "%" text
    (by decide) noMaximum
  have cpu := @notMem_maximumLine aggregates.maxCpuPercent "Max CPU " "%" text
    (by decide) noMaximum
  have gap := @notMem_gapEvidence inference text noGap
  simp only [evidence, List.mem_append, whea, disk, display, temperature, memory, cpu, gap,
    or_false, mem_line, Bool.not_eq_true', or_assoc]

theorem diagnose_evidence {db : Database} {transition : Transition} {config : Config}
    {incident : Incident} (found : (diagnose db transition config).incident = some incident) :
    ∃ summary aggregates inference,
      incident.evidence =
        evidence summary aggregates inference (crashSignals db transition config) := by
  simp only [diagnose] at found
  split at found
  · rw [← Option.some.inj found]
    exact ⟨_, _, _, rfl⟩
  · cases found

theorem diagnose_lastMetricTimestamp {db : Database} {transition : Transition} {config : Config}
    {incident : Incident} (found : (diagnose db transition config).incident = some incident) :
    incident.lastMetricTimestamp = lastMetricTimestamp db transition.bootTime := by
  simp only [diagnose] at found
  split at found
  · rw [← Option.some.inj found]
  · cases found

/-- The lines of an incident say which categories the window holds and whether
the session was marked clean. -/
theorem incident_lines {db : Database} {transition : Transition} {config : Config}
    {incident : Incident} (found : (diagnose db transition config).incident = some incident) :
    (kernelPowerLine ∈ incident.evidence ↔
        Holds (transitionEvents db transition config) .kernelPower) ∧
      (bugcheckLine ∈ incident.evidence ↔
        Holds (transitionEvents db transition config) .bugcheck) ∧
      (uncleanLine ∈ incident.evidence ↔ transition.previousSessionClean ≠ some true) := by
  obtain ⟨summary, aggregates, inference, lines⟩ := diagnose_evidence found
  have power : kernelPowerLine ≠ bugcheckLine ∧ kernelPowerLine ≠ uncleanLine := by decide
  have bug : bugcheckLine ≠ kernelPowerLine ∧ bugcheckLine ≠ uncleanLine := by decide
  have unclean : uncleanLine ≠ kernelPowerLine ∧ uncleanLine ≠ bugcheckLine := by decide
  rw [lines, mem_evidence (by decide) (by decide) (by decide),
    mem_evidence (by decide) (by decide) (by decide),
    mem_evidence (by decide) (by decide) (by decide), crashSignals_eq, ne_eq, ← getD_false_iff]
  simp [power, bug, unclean]

theorem runDiagnosis_evidence {db : Database} {transition : Transition} {config : Config}
    {persist : Bool} {incident : Incident}
    (found : (runDiagnosis db transition config persist).2.incident = some incident) :
    ∃ origin, (diagnose db transition config).incident = some origin ∧
      origin.evidence = incident.evidence := by
  refine ⟨{ incident with incidentId := none }, ?_, rfl⟩
  rw [← runDiagnosis_withoutId db transition config persist, DiagnosisResult.withoutId, found]
  rfl

end Diagnosis

namespace BootDetector

theorem flag_eq_one {value : Bool} : flag value = 1 ↔ value = true := by
  cases value <;> decide

theorem flag_eq_zero {value : Bool} : flag value = 0 ↔ value = false := by
  cases value <;> decide

theorem flag_ne_zero (value : Bool) : decide (flag value ≠ 0) = value := by
  cases value <;> decide

namespace Reboot

variable {db : Database} (reboot : Reboot db)

/-- The columns a reboot stores about the ended session. -/
theorem finalisedRow_columns :
    reboot.finalisedRow.previousSessionClean =
        some (flag (decide (Holds reboot.window .shutdownClean))) ∧
      reboot.finalisedRow.kernelPowerDetected =
        some (flag (decide (Holds reboot.window .kernelPower))) ∧
      reboot.finalisedRow.bugcheckDetected =
        some (flag (decide (Holds reboot.window .bugcheck))) ∧
      reboot.finalisedRow.unexpectedShutdown =
        some (flag (!decide (Holds reboot.window .shutdownClean) &&
          (decide (Holds reboot.window .kernelPower) ||
            decide (Holds reboot.window .shutdownUnexpected)))) := by
  obtain ⟨clean, unexpected, kernelPower, bugcheck⟩ := summarize_flags reboot.window
  simp only [finalisedRow, outcomeFields, SessionUpdate.apply, Option.some_or, unexpectedEnd,
    summary, clean, unexpected, kernelPower, bugcheck, and_self]

/-- The stored flags say which categories the window holds. -/
theorem finalisedRow_flags :
    (reboot.finalisedRow.previousSessionClean = some 0 ↔
        ¬ Holds reboot.window .shutdownClean) ∧
      (reboot.finalisedRow.kernelPowerDetected = some 1 ↔ Holds reboot.window .kernelPower) ∧
      (reboot.finalisedRow.bugcheckDetected = some 1 ↔ Holds reboot.window .bugcheck) ∧
      (reboot.finalisedRow.unexpectedShutdown = some 1 ↔
        ¬ Holds reboot.window .shutdownClean ∧
          (Holds reboot.window .kernelPower ∨ Holds reboot.window .shutdownUnexpected)) := by
  obtain ⟨clean, kernelPower, bugcheck, unexpected⟩ := reboot.finalisedRow_columns
  rw [clean, kernelPower, bugcheck, unexpected]
  simp [flag_eq_one, flag_eq_zero]

/-- The transition that is read back from the rows is the one the reboot
returned. -/
theorem latestTransition_booted (now : Epoch) {later : Database}
    (sessions : later.sessions = (reboot.booted now).sessions) :
    latestTransition later ⟨db.sessions.seq + 1, reboot.openedRow now⟩ = reboot.transition := by
  simp only [latestTransition, reboot.earlierSession_later sessions, openedRow,
    if_neg reboot.nonzero, transition, finalisedRow, outcomeFields, SessionUpdate.apply,
    Option.map_some, Option.bind_some, Option.some_or, flag_ne_zero]

/-- `diagnose_latest` repeats the diagnosis of the reboot, as long as the
sessions and what the engine reads are as the reboot left them. -/
theorem diagnoseLatest_booted (now : Epoch) (config : Config) {later : Database}
    (sessions : later.sessions = (reboot.booted now).sessions)
    (events : later.events = (reboot.booted now).events)
    (metrics : later.metrics = (reboot.booted now).metrics)
    (heartbeat : later.heartbeat = (reboot.booted now).heartbeat) :
    diagnoseLatest later config =
      diagnose (reboot.booted now) reboot.transition config := by
  simp only [diagnoseLatest, reboot.latestSession_later sessions, runDiagnosis_dry]
  rw [reboot.latestTransition_booted now sessions]
  exact diagnose_congr events metrics heartbeat _ _

end Reboot

/-- **Boot detection, the diagnosis and the later reconstruction agree on the
evidence of a reboot.** -/
theorem reboot_readers_agree {db : Database} (reboot : Reboot db) (now : Epoch)
    (config : Config) (persist : Bool) :
    let booted := detectBoot db now reboot.bootTime
    let diagnosed := runDiagnosis booted.1 booted.2.toTransition config persist
    ∃ row, diagnosed.1.getSession reboot.prev.id = some row ∧
      (diagnosed.2.incident.isSome ↔
        row.unexpectedShutdown = some 1 ∨ row.bugcheckDetected = some 1) ∧
      (∀ incident, diagnosed.2.incident = some incident →
        (kernelPowerLine ∈ incident.evidence ↔ row.kernelPowerDetected = some 1) ∧
        (bugcheckLine ∈ incident.evidence ↔ row.bugcheckDetected = some 1) ∧
        (uncleanLine ∈ incident.evidence ↔ row.previousSessionClean = some 0)) ∧
      diagnoseLatest diagnosed.1 config = diagnosed.2.withoutId := by
  intro booted diagnosed
  obtain ⟨clean, kernelPower, bugcheck, unexpected⟩ := reboot.finalisedRow_flags
  have isSome := reboot.runDiagnosis_isSome_iff now config persist
  have same : diagnosed = runDiagnosis (reboot.booted now) reboot.transition config persist := by
    rw [← reboot.detectBoot_transition now]
    rfl
  refine ⟨reboot.finalisedRow, reboot.getSession_later (runDiagnosis_sessions ..), ?_,
    fun incident found => ?_, ?_⟩
  · rw [isSome, unexpected, bugcheck, or_comm]
  · rw [same] at found
    obtain ⟨origin, diagnosedOrigin, lines⟩ := runDiagnosis_evidence found
    have categories := incident_lines diagnosedOrigin
    rwa [lines, reboot.clean_iff, reboot.transitionEvents_booted, ← kernelPower, ← bugcheck,
      ← clean] at categories
  · rw [same, runDiagnosis_withoutId]
    exact reboot.diagnoseLatest_booted now config (runDiagnosis_sessions ..)
      (runDiagnosis_events ..) (runDiagnosis_metrics ..) (runDiagnosis_heartbeat ..)

/-- A crash, read by all three. -/
theorem reboot_readers_agree_crash :
    let booted := detectBoot (oneSession [kernelPower41 2000]) 2000 2000
    let diagnosed := runDiagnosis booted.1 booted.2.toTransition {} true
    ∃ row, diagnosed.1.getSession 1 = some row ∧
      (row.unexpectedShutdown = some 1 ∨ row.bugcheckDetected = some 1) ∧
      diagnoseLatest diagnosed.1 {} = diagnosed.2.withoutId := by
  intro booted diagnosed
  obtain ⟨row, stored, reported, -, latest⟩ := reboot_readers_agree
    (oneSession.reboot [kernelPower41 2000] 2000 (by decide +kernel)) 2000 {} true
  have reports : diagnosed.2.incident.isSome = true := by decide +kernel
  exact ⟨row, stored, reported.mp reports, latest⟩

end BootDetector

/-! ## The last activity -/

namespace BootDetector.Reboot

variable {db : Database} (reboot : Reboot db)

/-- The activity of the session that the reboot ended. -/
def sessionActivity : Set Epoch :=
  activityTimes db ∩ Set.Iio reboot.bootTime ∩ Set.Ici reboot.prev.row.bootTime

/-- The last activity that the diagnosis works with and stores is activity of
the ended session, or absent when the session left none; such a session ends
in a hang of low confidence without a duration. -/
structure LastActivityInSession (now : Epoch) (config : Config) (persist : Bool) : Prop where
  handed : OptionalMax.Greatest reboot.sessionActivity
    (lastMetricTimestamp (reboot.booted now) reboot.bootTime)
  stored : ∀ entry ∈ (runDiagnosis (reboot.booted now) reboot.transition config
      persist).1.incidents.entries, entry ∉ db.incidents.entries →
    OptionalMax.Greatest reboot.sessionActivity entry.row.lastMetricTimestamp
  emptySession : reboot.sessionActivity = ∅ → Holds reboot.window .kernelPower →
    ¬ Holds reboot.window .bugcheck → ¬ Holds reboot.window .shutdownClean →
    reported (reboot.booted now) reboot.transition config persist =
      some ⟨.hardHang, .low, none⟩

theorem lastMetricTimestamp_booted (now : Epoch) :
    OptionalMax.Greatest (activityTimes db ∩ Set.Iio reboot.bootTime)
      (lastMetricTimestamp (reboot.booted now) reboot.bootTime) := by
  have spec := lastMetricTimestamp_greatest (reboot.booted now) reboot.bootTime
  rwa [reboot.activityTimes_booted] at spec

/-- A stored incident that is new carries the last activity before the boot. -/
theorem stored_lastMetricTimestamp (now : Epoch) (config : Config) (persist : Bool)
    {entry : Entry IncidentRow}
    (member : entry ∈ (runDiagnosis (reboot.booted now) reboot.transition config
      persist).1.incidents.entries) (fresh : entry ∉ db.incidents.entries) :
    entry.row.lastMetricTimestamp =
      lastMetricTimestamp (reboot.booted now) reboot.bootTime := by
  rw [← reboot.booted_incidents now] at fresh
  obtain ⟨incident, found, stored⟩ := runDiagnosis_stored member fresh
  have last := diagnose_lastMetricTimestamp found
  rw [reboot.transition_bootTime] at last
  rw [stored, ← last]
  rfl

/-- **The last activity is activity of the ended session exactly when the
session left some, or when nothing was ever recorded before the boot.** -/
theorem lastActivityInSession_iff (now : Epoch) (config : Config) (persist : Bool) :
    reboot.LastActivityInSession now config persist ↔
      reboot.sessionActivity.Nonempty ∨ activityTimes db ∩ Set.Iio reboot.bootTime = ∅ := by
  rw [sessionActivity, ← OptionalMax.greatest_from_iff reboot.prev.row.bootTime
    (reboot.lastMetricTimestamp_booted now)]
  constructor
  · exact fun inSession => inSession.handed
  · intro handed
    refine ⟨handed, fun entry member fresh => ?_, fun empty kernelPower noBugcheck noClean => ?_⟩
    · rw [reboot.stored_lastMetricTimestamp now config persist member fresh]
      exact handed
    · have silent : lastMetricTimestamp (reboot.booted now) reboot.bootTime = none :=
        handed.eq_none_iff.mpr empty
      have events := reboot.transitionEvents_booted now config
      rw [reported_kernelPower (reboot.clean_iff.mpr noClean) (events.symm ▸ kernelPower)
        (events.symm ▸ noBugcheck), reboot.transition_bootTime, silent]
      rfl

/-- A reboot after a session with a heartbeat. -/
theorem lastActivityInSession_beating : ∃ reboot : Reboot silentFor300,
    reboot.bootTime = 2000 ∧ reboot.LastActivityInSession 2000 {} true := by
  let reboot : Reboot silentFor300 :=
    { prev := ⟨1, { bootTime := 1000, createdAt := 1000 }⟩
      bootTime := 2000
      latest := rfl
      nonzero := by decide +kernel
      apart := by decide +kernel }
  refine ⟨reboot, rfl, (reboot.lastActivityInSession_iff 2000 {} true).mpr ?_⟩
  exact .inl ⟨1700, ⟨.inr rfl, show (1700 : ℚ) < 2000 by norm_num⟩,
    show (1000 : ℚ) ≤ 1700 by norm_num⟩

/-- Two boots; the only activity is older than the second one. -/
def idleSession : Database :=
  (detectBoot ((detectBoot .empty 100 100).1.updateHeartbeat 500) 1000 1000).1.insertEvents
    [kernelPower41 2000] 2

/-- A third boot, with Kernel-Power 41. -/
def idleReboot : Reboot idleSession where
  prev := ⟨2, { bootTime := 1000, previousBootTime := some 100, createdAt := 1000 }⟩
  bootTime := 2000
  latest := by decide +kernel
  nonzero := by decide +kernel
  apart := by decide +kernel

/-- The activity of an older session is taken for that of an idle one, and the
hang gets a high confidence and a duration. -/
theorem not_lastActivityInSession :
    ¬ idleReboot.LastActivityInSession 2000 {} true ∧
      reported (idleReboot.booted 2000) idleReboot.transition {} true =
        some ⟨.hardHang, .high, some 1500⟩ := by
  refine ⟨fun inSession => ?_, by decide +kernel⟩
  have answer : lastMetricTimestamp (idleReboot.booted 2000) 2000 = some 500 := by
    decide +kernel
  have handed : OptionalMax.Greatest idleReboot.sessionActivity
    (lastMetricTimestamp (idleReboot.booted 2000) 2000) := inSession.handed
  rw [answer] at handed
  have fromBoot : (1000 : ℚ) ≤ 500 := handed.1.2
  norm_num at fromBoot

end BootDetector.Reboot

/-! ## A crash after the last clean event -/

/-- User32 1074 or EventLog 6006. -/
def DocumentedClean (event : EventRow) : Prop :=
  Text.lower (provider event) = "user32".toList ∧ eventId event = some 1074 ∨
    Text.lower (provider event) = "eventlog".toList ∧ eventId event = some 6006

instance (event : EventRow) : Decidable (DocumentedClean event) :=
  inferInstanceAs (Decidable (_ ∨ _))

/-- Kernel-Power 41 or 6008. -/
def CrashEvent (event : EventRow) : Prop :=
  classifyEvent event = .kernelPower ∨ classifyEvent event = .shutdownUnexpected

instance (event : EventRow) : Decidable (CrashEvent event) :=
  inferInstanceAs (Decidable (_ ∨ _))

theorem exists_crashEvent_iff {events : List EventRow} :
    (∃ event ∈ events, CrashEvent event) ↔
      Holds events .kernelPower ∨ Holds events .shutdownUnexpected := by
  constructor
  · rintro ⟨event, member, power | unexpected⟩
    · exact .inl ⟨event, member, power⟩
    · exact .inr ⟨event, member, unexpected⟩
  · rintro (⟨event, member, power⟩ | ⟨event, member, unexpected⟩)
    · exact ⟨event, member, .inl power⟩
    · exact ⟨event, member, .inr unexpected⟩

/-- Kernel-Power 41, 6008 or a BugCheck. -/
def CrashSignal (event : EventRow) : Prop :=
  CrashEvent event ∨ classifyEvent event = .bugcheck

instance (event : EventRow) : Decidable (CrashSignal event) :=
  inferInstanceAs (Decidable (_ ∨ _))

theorem exists_crashSignal_iff {events : List EventRow} :
    (∃ event ∈ events, CrashSignal event) ↔
      (Holds events .kernelPower ∨ Holds events .shutdownUnexpected) ∨
        Holds events .bugcheck := by
  rw [← exists_crashEvent_iff]
  constructor
  · rintro ⟨event, member, crash | bugcheck⟩
    · exact .inl ⟨event, member, crash⟩
    · exact .inr ⟨event, member, bugcheck⟩
  · rintro (⟨event, member, crash⟩ | ⟨event, member, bugcheck⟩)
    · exact ⟨event, member, .inl crash⟩
    · exact ⟨event, member, .inr bugcheck⟩

/-- When nothing is known about the previous session, any crash signal in the
window is reported. -/
theorem diagnose_unknown_iff {db : Database} {transition : Transition}
    (unknown : transition.previousSessionClean = none) (config : Config) :
    (diagnose db transition config).incident.isSome ↔
      ∃ event ∈ transitionEvents db transition config, CrashSignal event := by
  rw [diagnose_isSome_iff, unknown, exists_crashSignal_iff, or_comm]
  simp

/-- A crash event is later than every documented clean event. -/
def CrashAfterClean (events : List EventRow) : Prop :=
  ∃ crash ∈ events, CrashEvent crash ∧
    ∀ clean ∈ events, DocumentedClean clean → clean.timestamp < crash.timestamp

instance (events : List EventRow) : Decidable (CrashAfterClean events) :=
  inferInstanceAs (Decidable (∃ crash ∈ events, _))

/-- **A crash after the last clean event is reported exactly when the window
holds no clean event at all.** -/
theorem crashAfterClean_iff {db : Database} (reboot : Reboot db) (now : Epoch) (config : Config)
    (persist : Bool) (crashLast : CrashAfterClean reboot.window) :
    let booted := detectBoot db now reboot.bootTime
    let diagnosed := runDiagnosis booted.1 booted.2.toTransition config persist
    booted.2.previousSessionClean = some false ∧
        (booted.1.getSession reboot.prev.id).bind SessionRow.previousSessionClean = some 0 ∧
        diagnosed.2.incident.isSome ↔
      ¬ Holds reboot.window .shutdownClean := by
  intro booted diagnosed
  obtain ⟨crash, member, isCrash, -⟩ := crashLast
  have crashes := exists_crashEvent_iff.mp ⟨crash, member, isCrash⟩
  have returned : booted.2.previousSessionClean = some reboot.summary.cleanShutdown :=
    congrArg Transition.previousSessionClean (reboot.detectBoot_transition now)
  have stored : (booted.1.getSession reboot.prev.id).bind SessionRow.previousSessionClean =
      reboot.finalisedRow.previousSessionClean := by
    rw [reboot.getSession_after now]
    rfl
  rw [returned, stored, reboot.finalisedRow_flags.1,
    reboot.runDiagnosis_isSome_iff now config persist]
  constructor
  · exact fun reported => reported.2.1
  · intro noClean
    have unmarked : reboot.summary.cleanShutdown = false := by
      rw [Reboot.summary, (summarize_flags reboot.window).1]
      exact decide_eq_false noClean
    exact ⟨congrArg some unmarked, noClean, .inr ⟨noClean, crashes⟩⟩

/-- A session that only froze is reported. -/
theorem crashAfterClean_frozen :
    let booted := detectBoot (oneSession [kernelPower41 2000]) 2000 2000
    (runDiagnosis booted.1 booted.2.toTransition {} true).2.incident.isSome :=
  ((crashAfterClean_iff (oneSession.reboot [kernelPower41 2000] 2000 (by decide +kernel)) 2000 {}
    true (by decide +kernel)).mpr (by decide +kernel)).2.2

/-- A requested restart that froze is reported as a normal restart. -/
theorem frozen_restart_marked_clean :
    let events := [user32Restart1074 1500, kernelPower41 2000]
    let booted := detectBoot (oneSession events) 2000 2000
    CrashAfterClean ((oneSession events).eventsBetween 1000 (2000 + 120)) ∧
      booted.2.previousSessionClean = some true ∧
      (runDiagnosis booted.1 booted.2.toTransition {} true).2.incident.isSome = false := by
  decide +kernel

/-! ## The first start -/

/-- A clean event is later than every crash event. -/
def CleanAfterCrash (events : List EventRow) : Prop :=
  ∃ clean ∈ events, classifyEvent clean = .shutdownClean ∧
    ∀ crash ∈ events, CrashEvent crash → crash.timestamp < clean.timestamp

instance (events : List EventRow) : Decidable (CleanAfterCrash events) :=
  inferInstanceAs (Decidable (∃ clean ∈ events, _))

/-- **On the first start a clean event after the last crash keeps the incident
away exactly when there is no crash event.** -/
theorem first_start_iff (db : Database) (first : db.latestSession = none) (now bootTime : Epoch)
    (config : Config) (persist : Bool) :
    let window := db.eventsBetween (bootTime - config.retentionHours * 3600) (bootTime + 120)
    let booted := detectBoot db now bootTime
    CleanAfterCrash window → ¬ Holds window .bugcheck →
      ((runDiagnosis booted.1 booted.2.toTransition config persist).2.incident = none ↔
        ∀ event ∈ window, ¬ CrashEvent event) := by
  intro window booted _ noBugcheck
  have unknown : booted.2.toTransition =
      { bootTime := bootTime, previousBootTime := none, previousSessionId := none,
        previousSessionClean := none } := by
    rw [show booted = _ from detectBoot_first first now bootTime]
    rfl
  have events : transitionEvents booted.1 booted.2.toTransition config = window := by
    rw [unknown]
    exact Database.eventsBetween_congr (detectBoot_events ..) _ _
  have unclean : booted.2.toTransition.previousSessionClean ≠ some true := by
    rw [unknown]
    exact nofun
  rw [← Option.not_isSome_iff_eq_none, runDiagnosis_isSome, diagnose_isSome_iff, events,
    ← exists_crashEvent_iff]
  simp [noBugcheck, unclean]

theorem first_start_clean :
    let booted := detectBoot (Database.empty.insertEvents [eventLog6006 1500] 1) 2000 2000
    (runDiagnosis booted.1 booted.2.toTransition {} true).2.incident = none :=
  (first_start_iff (Database.empty.insertEvents [eventLog6006 1500] 1) rfl 2000 2000 {}
    true (by decide +kernel) (by decide +kernel)).mpr (by decide +kernel)

/-- An older crash that was followed by a clean restart is charged to the first
boot. -/
theorem first_start_charged :
    let db := Database.empty.insertEvents [kernelPower41 1000, eventLog6006 1500] 1
    let booted := detectBoot db 2000 2000
    db.latestSession = none ∧
      CleanAfterCrash (db.eventsBetween (2000 - 24 * 3600) (2000 + 120)) ∧
      ¬ Holds (db.eventsBetween (2000 - 24 * 3600) (2000 + 120)) .bugcheck ∧
      (runDiagnosis booted.1 booted.2.toTransition {} true).2.incident.isSome := by
  decide +kernel

end PcDiagnosticAgent
