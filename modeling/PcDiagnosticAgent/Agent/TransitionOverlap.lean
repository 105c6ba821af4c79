import PcDiagnosticAgent.Agent.Lifecycle
import PcDiagnosticAgent.Diagnostics.RebootAnalysis

/-!
# Overlapping transition windows

A run of real boots: before each boot the agent writes whatever it writes in
the background, then boot detection and the diagnosis run once. The window of
a boot starts at the previous boot and ends two minutes after the boot, so two
consecutive windows share the two minutes in which the crash events of the
first of the two boots are stamped.

A crash event then raises the signals of both transitions. Every stored crash
event raises those of at most one exactly when no boot but the last has one in
its two minutes, and a session that ended cleanly is stored without crash
flags and without an incident exactly when the window holds no Kernel-Power 41
and no BugCheck from before the boot (`crash_counted_once_iff`).
-/

set_option autoImplicit false

namespace PcDiagnosticAgent

open AutoTables EventAnalyzer BootDetector Diagnosis

namespace Agent

/-! ## Runs of boots -/

/-- A boot and what the agent wrote before it. -/
structure BootStep where
  background : List Operation
  now : Epoch
  bootTime : Epoch

/-- What boot detection left for the diagnosis, and what both returned. -/
structure BootOutcome where
  seen : Database
  boot : BootResult
  after : Database
  result : DiagnosisResult

def bootStep (config : Config) (db : Database) (step : BootStep) : BootOutcome :=
  let (seen, boot) := detectBoot (applyAll db step.background) step.now step.bootTime
  let (after, result) := runDiagnosis seen boot.toTransition config true
  { seen, boot, after, result }

/-- The outcomes of a run of boots from the empty database. -/
def bootRun (config : Config) (steps : List BootStep) : List BootOutcome :=
  Runs.trace (bootStep config) BootOutcome.after .empty steps

/-- Boots with positive boot times, each at least a minute after the one
before, and nothing but background work between them. -/
structure RealBoots (steps : List BootStep) : Prop where
  background : ∀ step ∈ steps, ∀ op ∈ step.background, op.Background
  positive : ∀ step ∈ steps, 0 < step.bootTime
  apart : steps.Pairwise fun earlier later => earlier.bootTime + 60 ≤ later.bootTime

/-- The events the diagnosis of a boot decided from. -/
def BootOutcome.window (config : Config) (outcome : BootOutcome) : List EventRow :=
  transitionEvents outcome.seen outcome.boot.toTransition config

/-- A stored event raises a crash signal of a transition. -/
def BootOutcome.Raises (config : Config) (outcome : BootOutcome) (entry : Entry EventRow) :
    Prop :=
  entry ∈ outcome.seen.events.entries ∧ entry.row ∈ outcome.window config ∧
    CrashSignal entry.row

/-- A crash event was stored in the two minutes after a boot by the time the
boot was analysed. -/
def BootOutcome.CrashAtBoot (outcome : BootOutcome) : Prop :=
  ∃ event ∈ outcome.seen.events.rows, CrashSignal event ∧
    outcome.boot.bootTime ≤ event.timestamp ∧ event.timestamp ≤ outcome.boot.bootTime + 120

instance (outcome : BootOutcome) : Decidable outcome.CrashAtBoot :=
  inferInstanceAs (Decidable (∃ event ∈ outcome.seen.events.rows, _))

instance (config : Config) (outcome : BootOutcome) (entry : Entry EventRow) :
    Decidable (outcome.Raises config entry) :=
  inferInstanceAs (Decidable (_ ∧ _ ∧ _))

/-- The session was stored without crash flags and no incident was reported. -/
def BootOutcome.EndedCleanly (outcome : BootOutcome) (sessionId : ℕ) : Prop :=
  (∃ row, outcome.after.getSession sessionId = some row ∧ row.kernelPowerDetected = some 0 ∧
      row.bugcheckDetected = some 0) ∧
    outcome.result.incident = none

/-! ## One boot -/

/-- The database fits the boots that follow: its newest session is from a real
boot at least a minute before them. -/
structure ReadyFor (db : Database) (steps : List BootStep) : Prop where
  real : RealBoots steps
  newest : ∀ prev, db.latestSession = some prev →
    0 < prev.row.bootTime ∧ ∀ step ∈ steps, prev.row.bootTime + 60 ≤ step.bootTime

theorem RealBoots.tail {step : BootStep} {steps : List BootStep}
    (real : RealBoots (step :: steps)) : RealBoots steps where
  background := fun other member => real.background other (List.mem_cons_of_mem _ member)
  positive := fun other member => real.positive other (List.mem_cons_of_mem _ member)
  apart := (List.pairwise_cons.mp real.apart).2

variable (config : Config) {db : Database} {step : BootStep} {steps : List BootStep}

theorem latestSession_background (real : RealBoots (step :: steps)) :
    (applyAll db step.background).latestSession = db.latestSession := by
  have same := applyAll_sessions db (real.background step List.mem_cons_self)
  simp only [Database.latestSession, same]

/-- The reboot that a boot is, once there is a session. -/
def ReadyFor.reboot (ready : ReadyFor db (step :: steps)) {prev : Entry SessionRow}
    (latest : db.latestSession = some prev) : Reboot (applyAll db step.background) where
  prev := prev
  bootTime := step.bootTime
  latest := (latestSession_background ready.real).trans latest
  nonzero := (ready.newest prev latest).1.ne'
  apart := by
    have gap := (ready.newest prev latest).2 step List.mem_cons_self
    rw [abs_sub_comm]
    exact le_trans (by linarith) (le_abs_self _)

/-- After a boot its session is the newest. -/
theorem latestSession_bootStep (ready : ReadyFor db (step :: steps)) :
    ∃ entry, (bootStep config db step).after.latestSession = some entry ∧
      entry.row.bootTime = step.bootTime := by
  have fresh : ∀ prev, (applyAll db step.background).latestSession = some prev →
      ¬ SameBoot prev step.bootTime := by
    intro prev latest
    rw [latestSession_background ready.real] at latest
    exact not_lt.mpr (ready.reboot latest).apart
  obtain ⟨previous, opened⟩ := detectBoot_opened fresh step.now
  have sessions : (bootStep config db step).after.sessions =
      (detectBoot (applyAll db step.background) step.now step.bootTime).1.sessions :=
    runDiagnosis_sessions ..
  rw [Database.latestSession, sessions]
  exact ⟨_, opened, rfl⟩

/-- A boot leaves a database that fits the remaining boots. -/
theorem ReadyFor.next (ready : ReadyFor db (step :: steps)) :
    ReadyFor (bootStep config db step).after steps := by
  refine ⟨ready.real.tail, fun prev latest => ?_⟩
  obtain ⟨entry, newest, booted⟩ := latestSession_bootStep config ready
  rw [newest] at latest
  rw [← Option.some.inj latest, booted]
  exact ⟨ready.real.positive step List.mem_cons_self,
    (List.pairwise_cons.mp ready.real.apart).1⟩

theorem bootStep_events :
    (bootStep config db step).seen.events = (applyAll db step.background).events :=
  detectBoot_events ..

theorem bootStep_after_events :
    (bootStep config db step).after.events = (bootStep config db step).seen.events :=
  runDiagnosis_events ..

/-- Events that were stored before a boot are there when it is analysed. -/
theorem bootStep_kept {entry : Entry EventRow} (member : entry ∈ db.events.entries) :
    entry ∈ (bootStep config db step).seen.events.entries := by
  rw [bootStep_events]
  exact mem_applyAll_events step.background member

theorem bootStep_transition (ready : ReadyFor db (step :: steps)) {prev : Entry SessionRow}
    (latest : db.latestSession = some prev) :
    (bootStep config db step).boot.toTransition = (ready.reboot latest).transition :=
  (ready.reboot latest).detectBoot_transition step.now

theorem bootStep_transition_first (ready : ReadyFor db (step :: steps))
    (first : db.latestSession = none) :
    (bootStep config db step).boot.toTransition =
      { bootTime := step.bootTime, previousBootTime := none, previousSessionId := none,
        previousSessionClean := none } := by
  have none := (latestSession_background ready.real).trans first
  have booted := detectBoot_first none step.now step.bootTime
  exact congrArg (fun outcome => outcome.2.toTransition) booted

theorem bootStep_bootTime (ready : ReadyFor db (step :: steps)) :
    (bootStep config db step).boot.bootTime = step.bootTime := by
  cases latest : db.latestSession with
  | none =>
    exact congrArg Transition.bootTime (bootStep_transition_first config ready latest)
  | some prev => exact congrArg Transition.bootTime (bootStep_transition config ready latest)

/-- After the first boot a window starts at the boot before. -/
theorem transitionStart_bootStep (ready : ReadyFor db (step :: steps)) {prev : Entry SessionRow}
    (latest : db.latestSession = some prev) :
    transitionStart (bootStep config db step).boot.toTransition config = prev.row.bootTime := by
  rw [bootStep_transition config ready latest]
  rfl

/-- No window starts after its boot. -/
theorem transitionStart_le (retention : 0 ≤ config.retentionHours)
    (ready : ReadyFor db (step :: steps)) :
    transitionStart (bootStep config db step).boot.toTransition config ≤ step.bootTime := by
  cases latest : db.latestSession with
  | none =>
    rw [bootStep_transition_first config ready latest]
    have lookedBack : step.bootTime - config.retentionHours * 3600 ≤ step.bootTime := by
      linarith
    exact lookedBack
  | some prev =>
    rw [transitionStart_bootStep config ready latest]
    have gap := (ready.newest prev latest).2 step List.mem_cons_self
    linarith

/-! ## Later boots -/

/-- Once there is a session, no window starts before its boot. -/
theorem later_outcomes (ready : ReadyFor db steps) {prev : Entry SessionRow}
    (latest : db.latestSession = some prev) :
    ∀ outcome ∈ Runs.trace (bootStep config) BootOutcome.after db steps,
      prev.row.bootTime ≤ transitionStart outcome.boot.toTransition config := by
  refine Runs.trace_forall
    (fun state ops => ReadyFor state ops ∧ ∃ newest,
      state.latestSession = some newest ∧ prev.row.bootTime ≤ newest.row.bootTime) ?_ ?_
    ⟨ready, prev, latest, le_refl _⟩
  · rintro state op ops ⟨fits, newest, found, later⟩
    obtain ⟨entry, opened, booted⟩ := latestSession_bootStep config fits
    have gap := (fits.newest newest found).2 op List.mem_cons_self
    refine ⟨fits.next config, entry, opened, ?_⟩
    rw [booted]
    linarith
  · rintro state op ops ⟨fits, newest, found, later⟩
    rw [transitionStart_bootStep config fits found]
    exact later

/-- **A boot shares a crash event with some later boot exactly when a crash
event lies in its own two minutes.** -/
theorem raises_once_iff (retention : 0 ≤ config.retentionHours) {other : BootStep}
    (ready : ReadyFor db (step :: other :: steps)) :
    (∀ later ∈ Runs.trace (bootStep config) BootOutcome.after (bootStep config db step).after
        (other :: steps), ∀ entry,
        ¬ ((bootStep config db step).Raises config entry ∧ later.Raises config entry)) ↔
      ¬ (bootStep config db step).CrashAtBoot := by
  obtain ⟨opened, latest, booted⟩ := latestSession_bootStep config ready
  have readyNext := ready.next config
  have bootTime := bootStep_bootTime config ready
  constructor
  · rintro once ⟨event, stored, crash, fromBoot, inTime⟩
    obtain ⟨entry, member, rfl⟩ := List.mem_map.mp stored
    rw [bootTime] at fromBoot inTime
    refine once _ List.mem_cons_self entry ⟨⟨member, ?_, crash⟩, ?_, ?_, crash⟩
    · have start := transitionStart_le config retention ready
      refine Database.mem_eventsBetween.mpr ⟨stored, start.trans fromBoot, ?_⟩
      exact bootTime ▸ inTime
    · exact bootStep_kept config ((bootStep_after_events config).symm ▸ member)
    · -- the next window starts at this boot
      have kept : entry ∈
          (bootStep config (bootStep config db step).after other).seen.events.entries :=
        bootStep_kept config ((bootStep_after_events config).symm ▸ member)
      have start := transitionStart_bootStep config readyNext latest
      have nextBoot := bootStep_bootTime config readyNext
      have gap := (readyNext.newest opened latest).2 other List.mem_cons_self
      refine Database.mem_eventsBetween.mpr ⟨List.mem_map_of_mem kept, ?_, ?_⟩
      · rw [start, booted]
        exact fromBoot
      · rw [nextBoot]
        linarith
  · rintro noCrash later isLater entry ⟨⟨member, inWindow, crash⟩, -, inLater, -⟩
    have start := later_outcomes config readyNext latest later isLater
    have fromStart := (Database.mem_eventsBetween.mp inLater).2.1
    have inTime := (Database.mem_eventsBetween.mp inWindow).2.2
    rw [booted, ← bootTime] at start
    exact noCrash ⟨entry.row, List.mem_map_of_mem member, crash, start.trans fromStart, inTime⟩

/-! ## A session that ended cleanly -/

theorem window_bootStep (ready : ReadyFor db (step :: steps)) {prev : Entry SessionRow}
    (latest : db.latestSession = some prev) :
    (bootStep config db step).window config = (ready.reboot latest).window := by
  rw [BootOutcome.window, bootStep_transition config ready latest]
  exact (ready.reboot latest).transitionEvents_booted step.now config

/-- With a clean event in the window, the session is stored without crash flags
and nothing is reported exactly when the window holds no Kernel-Power 41 and no
BugCheck. -/
theorem endedCleanly_iff_holds (ready : ReadyFor db (step :: steps)) {prev : Entry SessionRow}
    (latest : db.latestSession = some prev)
    (clean : Holds (ready.reboot latest).window .shutdownClean) :
    (bootStep config db step).EndedCleanly prev.id ↔
      ¬ Holds (ready.reboot latest).window .kernelPower ∧
        ¬ Holds (ready.reboot latest).window .bugcheck := by
  let reboot := ready.reboot latest
  have row : (bootStep config db step).after.getSession prev.id = some reboot.finalisedRow :=
    reboot.getSession_later (runDiagnosis_sessions ..)
  have isSome : (bootStep config db step).result.incident.isSome ↔ _ :=
    reboot.runDiagnosis_isSome_iff step.now config true
  have incident : (bootStep config db step).result.incident = none ↔
      ¬ Holds reboot.window .bugcheck := by
    rw [← Option.not_isSome_iff_eq_none, isSome]
    simp [reboot, clean]
  obtain ⟨-, kernelPower, bugcheck, -⟩ := reboot.finalisedRow_columns
  rw [BootOutcome.EndedCleanly, row, incident]
  simp [reboot, kernelPower, bugcheck, flag_eq_zero]

/-- **A session that ended cleanly, with no crash event at the boot that ended
it, is stored and reported as clean exactly when no Kernel-Power 41 and no
BugCheck is stamped between its window's start and that boot.** -/
theorem endedCleanly_iff (ready : ReadyFor db (step :: steps)) {sessionId : ℕ}
    (previous : (bootStep config db step).boot.previousSessionId = some sessionId)
    (clean : Holds ((bootStep config db step).window config) .shutdownClean)
    (quiet : ∀ event ∈ (bootStep config db step).window config,
      (bootStep config db step).boot.bootTime ≤ event.timestamp → ¬ CrashSignal event) :
    (bootStep config db step).EndedCleanly sessionId ↔
      ∀ event ∈ (bootStep config db step).window config,
        event.timestamp < (bootStep config db step).boot.bootTime →
        classifyEvent event ≠ .kernelPower ∧ classifyEvent event ≠ .bugcheck := by
  cases latest : db.latestSession with
  | none =>
    have unknown := bootStep_transition_first config ready latest
    have absent := congrArg Transition.previousSessionId unknown
    exact absurd (previous.symm.trans absent) nofun
  | some prev =>
    have linked := congrArg Transition.previousSessionId (bootStep_transition config ready latest)
    have same : prev.id = sessionId := Option.some.inj (linked.symm.trans previous)
    subst same
    have window := window_bootStep config ready latest
    rw [window] at clean quiet ⊢
    rw [endedCleanly_iff_holds config ready latest clean]
    constructor
    · rintro ⟨noKernelPower, noBugcheck⟩ event member _
      exact ⟨fun power => noKernelPower ⟨event, member, power⟩,
        fun bugcheck => noBugcheck ⟨event, member, bugcheck⟩⟩
    · intro earlier
      refine ⟨?_, ?_⟩
      · rintro ⟨event, member, power⟩
        rcases lt_or_ge event.timestamp (bootStep config db step).boot.bootTime with before | after
        · exact (earlier event member before).1 power
        · exact quiet event member after (.inl (.inl power))
      · rintro ⟨event, member, bugcheck⟩
        rcases lt_or_ge event.timestamp (bootStep config db step).boot.bootTime with before | after
        · exact (earlier event member before).2 bugcheck
        · exact quiet event member after (.inr bugcheck)

/-! ## Whole runs -/

/-- The empty database fits every run of real boots. -/
theorem readyFor_empty (real : RealBoots steps) : ReadyFor .empty steps :=
  ⟨real, fun _ latest => absurd latest nofun⟩

/-- **In every run of real boots each crash event counts once exactly when no
boot but the last has a crash event in its two minutes; and a session that
ended cleanly is stored and reported as clean exactly when no Kernel-Power 41
and no BugCheck of its window is older than the boot that ended it.** -/
theorem crash_counted_once_iff (config : ValidConfig) (steps : List BootStep)
    (real : RealBoots steps) :
    let outcomes := bootRun config.toConfig steps
    (outcomes.Pairwise (fun earlier later => ∀ entry,
        ¬ (earlier.Raises config.toConfig entry ∧ later.Raises config.toConfig entry)) ↔
      ∀ outcome ∈ outcomes.dropLast, ¬ outcome.CrashAtBoot) ∧
    ∀ outcome ∈ outcomes, ∀ sessionId, outcome.boot.previousSessionId = some sessionId →
      Holds (outcome.window config.toConfig) .shutdownClean →
      (∀ event ∈ outcome.window config.toConfig,
        outcome.boot.bootTime ≤ event.timestamp → ¬ CrashSignal event) →
      (outcome.EndedCleanly sessionId ↔
        ∀ event ∈ outcome.window config.toConfig,
          event.timestamp < outcome.boot.bootTime →
          classifyEvent event ≠ .kernelPower ∧ classifyEvent event ≠ .bugcheck) := by
  intro outcomes
  have next : ∀ state op ops, ReadyFor state (op :: ops) →
      ReadyFor (bootStep config.toConfig state op).after ops :=
    fun _ _ _ ready => ready.next config.toConfig
  constructor
  · exact Runs.trace_pairwise_iff ReadyFor next
      (fun _ _ _ _ ready => raises_once_iff config.toConfig config.retention_pos.le ready)
      (readyFor_empty real)
  · exact Runs.trace_forall ReadyFor next
      (fun _ _ _ ready _ => endedCleanly_iff config.toConfig ready) (readyFor_empty real)

/-- Three boots; the second follows a blue screen, the third a clean shutdown. -/
def crashThenClean : List BootStep :=
  [⟨[], 1000, 1000⟩, ⟨[.insertEvents [bugcheck1001 2001] 1], 2000, 2000⟩,
    ⟨[.insertEvents [eventLog6006 2990] 2], 3000, 3000⟩]

theorem crashThenClean_real : RealBoots crashThenClean where
  background := by simp [crashThenClean, Operation.Background]
  positive := by simp [crashThenClean]
  apart := by simp [crashThenClean]; norm_num

/-- The first two of these boots count the blue screen once. -/
theorem crash_counted_once_first :
    (bootRun {} (crashThenClean.take 2)).Pairwise fun earlier later => ∀ entry,
      ¬ (earlier.Raises {} entry ∧ later.Raises {} entry) := by
  have real : RealBoots (crashThenClean.take 2) :=
    { background := fun step member =>
        crashThenClean_real.background step (List.mem_of_mem_take member)
      positive := fun step member =>
        crashThenClean_real.positive step (List.mem_of_mem_take member)
      apart := crashThenClean_real.apart.sublist (List.take_sublist 2 _) }
  exact (crash_counted_once_iff .default (crashThenClean.take 2) real).1.mpr (by decide +kernel)

/-- The blue screen is counted again at the third boot: the session that ended
cleanly is stored with a BugCheck and reported. -/
theorem crash_counted_twice :
    RealBoots crashThenClean ∧
      (¬ (bootRun {} crashThenClean).Pairwise fun earlier later => ∀ entry,
        ¬ (earlier.Raises {} entry ∧ later.Raises {} entry)) ∧
      ∃ outcome ∈ bootRun {} crashThenClean,
        outcome.boot.previousSessionId = some 2 ∧
        Holds (outcome.window {}) .shutdownClean ∧
        (∀ event ∈ outcome.window {},
          outcome.boot.bootTime ≤ event.timestamp → ¬ CrashSignal event) ∧
        (outcome.after.getSession 2).bind SessionRow.bugcheckDetected = some 1 ∧
        outcome.result.incident.isSome := by
  refine ⟨crashThenClean_real, fun once => ?_, by decide +kernel⟩
  have second := (List.pairwise_cons.mp (List.pairwise_cons.mp once).2).1 _ List.mem_cons_self
  exact second ⟨1, Database.eventRow 1 (bugcheck1001 2001)⟩ (by decide +kernel)

end Agent

end PcDiagnosticAgent
