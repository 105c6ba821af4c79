import PcDiagnosticAgent.Diagnostics.RebootAnalysis
import PcDiagnosticAgent.Storage.EvidenceWindow

/-!
# The two windows of a result

The evidence of an incident names Kernel-Power 41 and BugCheck when the
transition window holds them; the summary that comes with it, which the command
line prints, counts the incident window. For a stored table of events the two
agree exactly when neither category occurs in one window only
(`summary_agrees_iff`); they agree whatever is stored exactly when the windows
are the same, two minutes after the boot included.
-/

set_option autoImplicit false

namespace PcDiagnosticAgent

open AutoTables EventAnalyzer

namespace Diagnosis

/-- What the returned summary says about Kernel-Power 41 and BugCheck is what
the evidence of the incident lists. -/
def SummaryAgrees (result : DiagnosisResult) : Prop :=
  ∀ incident, result.incident = some incident →
    ∃ summary, result.summary = some summary ∧
      (summary.kernelPowerDetected = true ↔ kernelPowerLine ∈ incident.evidence) ∧
      (summary.bugcheckDetected = true ↔ bugcheckLine ∈ incident.evidence)

/-! ## One table of events -/

section Events

variable (db : Database) (transition : Transition) (config : Config)

/-- A category occurs in both windows or in neither. -/
def InBothOrNeither (category : Category) : Prop :=
  Holds (transitionEvents db transition config) category ↔
    Holds (incidentEvents db transition config) category

/-- The transition window asks for an incident. -/
def Warranted : Prop :=
  Holds (transitionEvents db transition config) .bugcheck ∨
    transition.previousSessionClean ≠ some true ∧
      (Holds (transitionEvents db transition config) .kernelPower ∨
        Holds (transitionEvents db transition config) .shutdownUnexpected)

/-- The summary that is returned counts the incident window. -/
theorem diagnose_summary : (diagnose db transition config).summary =
    some (summarize (incidentEvents db transition config)) := by
  simp only [diagnose]
  split <;> rfl

theorem runDiagnosis_agrees_iff (persist : Bool) :
    SummaryAgrees (runDiagnosis db transition config persist).2 ↔
      SummaryAgrees (diagnose db transition config) := by
  rw [← runDiagnosis_withoutId db transition config persist]
  generalize (runDiagnosis db transition config persist).2 = result
  simp only [SummaryAgrees, DiagnosisResult.withoutId]
  constructor
  · intro agrees incident found
    obtain ⟨origin, stored, rfl⟩ := Option.map_eq_some_iff.mp found
    exact agrees origin stored
  · intro agrees incident found
    exact agrees { incident with incidentId := none } (by rw [found]; rfl)

/-- The summary agrees exactly when each category occurs in both windows or in
neither, or when there is no incident to agree with. -/
theorem diagnose_agrees_iff : SummaryAgrees (diagnose db transition config) ↔
    (Warranted db transition config →
      InBothOrNeither db transition config .kernelPower ∧
        InBothOrNeither db transition config .bugcheck) := by
  have reported := diagnose_isSome_iff db transition config
  obtain ⟨-, -, kernelPower, bugcheck⟩ :=
    summarize_flags (incidentEvents db transition config)
  constructor
  · intro agrees warranted
    obtain ⟨incident, found⟩ := Option.isSome_iff_exists.mp (reported.mpr warranted)
    obtain ⟨summary, isSummary, power, bug⟩ := agrees incident found
    obtain ⟨powerLine, bugLine, -⟩ := incident_lines found
    rw [diagnose_summary, Option.some.injEq] at isSummary
    subst isSummary
    rw [kernelPower, decide_eq_true_iff, powerLine] at power
    rw [bugcheck, decide_eq_true_iff, bugLine] at bug
    exact ⟨power.symm, bug.symm⟩
  · intro both incident found
    obtain ⟨power, bug⟩ := both (reported.mp (found ▸ rfl))
    obtain ⟨powerLine, bugLine, -⟩ := incident_lines found
    refine ⟨_, diagnose_summary db transition config, ?_, ?_⟩
    · rw [kernelPower, decide_eq_true_iff, powerLine]
      exact power.symm
    · rw [bugcheck, decide_eq_true_iff, bugLine]
      exact bug.symm

end Events

/-! ## Any table of events -/

section Windows

variable (db : Database) (transition : Transition) (config : Config)

/-- The times of the transition window. -/
def transitionWindow : Set Epoch :=
  Set.Icc (transitionStart transition config) (transition.bootTime + 120)

/-- The times of the incident window. -/
def incidentWindow : Set Epoch := Retention.evidenceWindow config transition.bootTime

/-- Each window holds the categories of the stored events in it. -/
theorem holds_windows (category : Category) :
    (Holds (transitionEvents db transition config) category ↔
        ∃ event ∈ db.events.rows, event.timestamp ∈ transitionWindow transition config ∧
          classifyEvent event = category) ∧
      (Holds (incidentEvents db transition config) category ↔
        ∃ event ∈ db.events.rows, event.timestamp ∈ incidentWindow transition config ∧
          classifyEvent event = category) := by
  simp only [Holds, transitionEvents, incidentEvents, Database.mem_eventsBetween, and_assoc,
    transitionWindow, incidentWindow, Retention.evidenceWindow, Set.mem_Icc, and_self]

/-- A BugCheck and Kernel-Power 41 at the given times. -/
def bugcheckAndPower (bugcheck power : Epoch) : AutoTable EventRow :=
  AutoTable.empty.insertAll
    [{ bugcheck1001 bugcheck with sessionId := 1 }, { kernelPower41 power with sessionId := 1 }]

theorem rows_bugcheckAndPower {bugcheck power : Epoch} {event : EventRow} :
    event ∈ (bugcheckAndPower bugcheck power).rows ↔
      event = { bugcheck1001 bugcheck with sessionId := 1 } ∨
        event = { kernelPower41 power with sessionId := 1 } := by
  simp [bugcheckAndPower, AutoTable.rows, AutoTable.empty]

theorem classify_bugcheckAndPower (bugcheck power : Epoch) :
    classifyEvent { bugcheck1001 bugcheck with sessionId := 1 } = .bugcheck ∧
      classifyEvent { kernelPower41 power with sessionId := 1 } = .kernelPower := by
  -- the classifier does not read the time
  have atZero : classifyEvent { bugcheck1001 0 with sessionId := 1 } = .bugcheck ∧
      classifyEvent { kernelPower41 0 with sessionId := 1 } = .kernelPower := by decide +kernel
  exact atZero

/-- With a BugCheck in the transition window, each of the two events has to be
in both windows or in neither. -/
theorem windows_of_agrees {bugcheck power : Epoch}
    (inside : bugcheck ∈ transitionWindow transition config)
    (agrees : SummaryAgrees
      (diagnose { db with events := bugcheckAndPower bugcheck power } transition config)) :
    bugcheck ∈ incidentWindow transition config ∧
      (power ∈ transitionWindow transition config ↔
        power ∈ incidentWindow transition config) := by
  obtain ⟨isBugcheck, isPower⟩ := classify_bugcheckAndPower bugcheck power
  have bugs := holds_windows { db with events := bugcheckAndPower bugcheck power } transition
    config .bugcheck
  have powers := holds_windows { db with events := bugcheckAndPower bugcheck power } transition
    config .kernelPower
  simp only [rows_bugcheckAndPower, exists_eq_or_imp, exists_eq_left, isBugcheck, isPower,
    reduceCtorEq, and_false, or_false, false_or, and_true] at bugs powers
  have warranted := bugs.1.mpr inside
  obtain ⟨samePower, sameBug⟩ := (diagnose_agrees_iff _ transition config).mp agrees
    (.inl warranted)
  refine ⟨bugs.2.mp (sameBug.mp warranted), ?_⟩
  exact powers.1.symm.trans (samePower.trans powers.2)

/-- They agree whatever is stored exactly when the windows are the same or the
transition window is empty. -/
theorem agrees_always_iff :
    (∀ events, SummaryAgrees (diagnose { db with events } transition config)) ↔
      transitionWindow transition config = ∅ ∨
        transitionWindow transition config = incidentWindow transition config := by
  constructor
  · intro agrees
    rcases (transitionWindow transition config).eq_empty_or_nonempty with empty | ⟨seen, inside⟩
    · exact .inl empty
    · refine .inr (Set.ext fun time => ?_)
      exact (windows_of_agrees db transition config inside (agrees _)).2
  · intro windows events
    refine (diagnose_agrees_iff _ transition config).mpr fun warranted => ?_
    have holds := holds_windows { db with events } transition config
    rcases windows with empty | same
    · -- an empty window holds nothing
      have none : ∀ category,
          ¬ Holds (transitionEvents { db with events } transition config) category := by
        intro category held
        obtain ⟨event, -, inside, -⟩ := (holds category).1.mp held
        exact (empty ▸ inside : event.timestamp ∈ (∅ : Set Epoch))
      rcases warranted with bugcheck | ⟨-, power | unexpected⟩
      · exact absurd bugcheck (none _)
      · exact absurd power (none _)
      · exact absurd unexpected (none _)
    · have both : ∀ category, InBothOrNeither { db with events } transition config category := by
        intro category
        rw [InBothOrNeither, (holds category).1, (holds category).2, same]
      exact ⟨both _, both _⟩

end Windows

/-- Two windows around a boot are the same when their ends are. -/
theorem transitionWindow_eq_iff (transition : Transition) (config : ValidConfig) :
    transitionWindow transition config.toConfig = ∅ ∨
        transitionWindow transition config.toConfig =
          incidentWindow transition config.toConfig ↔
      transition.bootTime + 120 < transitionStart transition config.toConfig ∨
        transitionStart transition config.toConfig =
          transition.bootTime - config.incidentWindowBeforeMinutes * 60 ∧
        config.incidentWindowAfterMinutes = 2 := by
  have before := config.before_nonneg
  have after := config.after_nonneg
  have filled : transition.bootTime - config.incidentWindowBeforeMinutes * 60 ≤
      transition.bootTime + config.incidentWindowAfterMinutes * 60 := by linarith
  rw [transitionWindow, incidentWindow, Retention.evidenceWindow, Set.Icc_eq_empty_iff, not_le,
    eq_comm, Set.Icc_eq_Icc_iff filled]
  refine or_congr_right (and_congr eq_comm ⟨fun same => ?_, fun two => ?_⟩)
  · linarith
  · rw [two]
    norm_num

/-- **The summary and the evidence of an incident agree exactly when neither
Kernel-Power 41 nor BugCheck is in one of the two windows only; whatever events
are stored, exactly when the windows are the same.** -/
theorem summary_agrees_iff (db : Database) (transition : Transition) (config : ValidConfig)
    (persist : Bool) :
    (SummaryAgrees (runDiagnosis db transition config.toConfig persist).2 ↔
      (Warranted db transition config.toConfig →
        InBothOrNeither db transition config.toConfig .kernelPower ∧
          InBothOrNeither db transition config.toConfig .bugcheck)) ∧
    ((∀ events, SummaryAgrees
        (runDiagnosis { db with events } transition config.toConfig persist).2) ↔
      transition.bootTime + 120 < transitionStart transition config.toConfig ∨
        transitionStart transition config.toConfig =
          transition.bootTime - config.incidentWindowBeforeMinutes * 60 ∧
        config.incidentWindowAfterMinutes = 2) := by
  simp only [runDiagnosis_agrees_iff]
  refine ⟨diagnose_agrees_iff db transition config.toConfig, ?_⟩
  rw [agrees_always_iff, transitionWindow_eq_iff]

/-- A power loss before the previous boot, and a shutdown after it that only
6008 reports: the summary says YES to Kernel-Power 41, the evidence does not
list it. -/
theorem not_summaryAgrees_older_power_loss :
    let booted := BootDetector.detectBoot
      (BootDetector.oneSession [kernelPower41 900, eventLog6008 2000]) 2000 2000
    let result := (runDiagnosis booted.1 booted.2.toTransition {} true).2
    result.summary.map Summary.kernelPowerDetected = some true ∧
      result.incident.map Incident.evidence =
        some ["No clean shutdown event"] ∧
      ¬ SummaryAgrees result := by
  intro booted result
  have counted : result.summary.map Summary.kernelPowerDetected = some true := by decide +kernel
  have lines : result.incident.map Incident.evidence = some ["No clean shutdown event"] := by
    decide +kernel
  refine ⟨counted, lines, fun agrees => ?_⟩
  obtain ⟨incident, found, evidence⟩ := Option.map_eq_some_iff.mp lines
  obtain ⟨summary, isSummary, power, -⟩ := agrees incident found
  rw [isSummary] at counted
  have listed := power.mp (Option.some.inj counted)
  rw [evidence] at listed
  exact absurd listed (by decide)

end Diagnosis

end PcDiagnosticAgent
