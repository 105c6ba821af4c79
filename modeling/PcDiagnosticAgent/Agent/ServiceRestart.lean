import PcDiagnosticAgent.Agent.Lifecycle
import PcDiagnosticAgent.Diagnostics.RebootAnalysis

/-!
# Service restarts within one boot

A restart of the service within a boot finds the session of that boot as the
latest one and reads everything about the transition from its row. But the
outcome of the previous session stands in the row before it, and the columns
of the latest row are still empty.

So a restart never returns what the start of the boot returned
(`restart_loses_outcome`): the previous session counts as unclean and its
uptime as unknown. It reports an incident that the start did not report
exactly when the window holds a clean event next to Kernel-Power 41 or 6008
and no BugCheck.

The incident of a boot is recognised by the boot time it was stored with, to
five seconds, while a restart may read a boot time that is off by up to a
minute. At most one row is stored exactly when every later start that sees a
crash event reads a boot time close to that of a stored incident
(`one_incident_per_boot_iff`).
-/

set_option autoImplicit false

namespace PcDiagnosticAgent

open AutoTables EventAnalyzer BootDetector Diagnosis WindowsEvents

/-! ## What a restart returns -/

namespace BootDetector

/-- The restart returns the transition of the start. -/
structure CarriedOver (start restart : BootResult) : Prop where
  previousBootTime : restart.previousBootTime = start.previousBootTime
  previousSessionId : restart.previousSessionId = start.previousSessionId
  previousSessionClean : restart.previousSessionClean = start.previousSessionClean
  unexpectedShutdown : restart.unexpectedShutdown = start.unexpectedShutdown
  kernelPowerDetected : restart.kernelPowerDetected = start.kernelPowerDetected
  bugcheckDetected : restart.bugcheckDetected = start.bugcheckDetected
  uptimeBeforeBoot : restart.uptimeBeforeBoot = start.uptimeBeforeBoot

namespace Reboot

variable {db : Database} (reboot : Reboot db)

/-- What a restart returns: the previous boot and session, and nothing about
how the session ended. -/
def restartResult : BootResult where
  bootTime := reboot.bootTime
  previousBootTime := some reboot.prev.row.bootTime
  previousSessionId := some reboot.prev.id
  previousSessionClean := none
  unexpectedShutdown := false
  kernelPowerDetected := false
  bugcheckDetected := false
  uptimeBeforeBoot := none
  sessionId := db.sessions.seq + 1

/-- A start at the same boot time changes nothing and returns the restart's
result, as long as the sessions are as the reboot left them. -/
theorem detectBoot_restart {now : Epoch} {later : Database}
    (sessions : later.sessions = (reboot.booted now).sessions) (restartNow : Epoch) :
    detectBoot later restartNow reboot.bootTime = (later, reboot.restartResult) := by
  have latest := reboot.latestSession_later sessions
  have earlier := reboot.earlierSession_later sessions
  have same : SameBoot ⟨db.sessions.seq + 1, reboot.openedRow now⟩ reboot.bootTime := by
    simp [SameBoot, openedRow]
  rw [detectBoot_sameBoot latest same restartNow, resumeSession, earlier]
  rfl

/-- The start of the boot knew how the session ended, a restart does not. -/
theorem not_carriedOver (now : Epoch) :
    ¬ CarriedOver (detectBoot db now reboot.bootTime).2 reboot.restartResult := by
  intro carried
  have clean := carried.previousSessionClean
  rw [reboot.detectBoot_result] at clean
  exact absurd clean nofun

end Reboot

end BootDetector

namespace Agent

/-- Every boot detection reads the given boot time. -/
def Operation.WithinBoot (bootTime : Epoch) : Operation → Prop
  | .detectBoot _ read => read = bootTime
  | _ => True

/-- Within a boot the sessions stay as the reboot left them. -/
theorem sessions_withinBoot {db : Database} (reboot : Reboot db) (now : Epoch)
    {ops : List Operation} (within : ∀ op ∈ ops, op.WithinBoot reboot.bootTime) :
    (applyAll (reboot.booted now) ops).sessions = (reboot.booted now).sessions := by
  refine Runs.run_invariant
    (fun later : Database => later.sessions = (reboot.booted now).sessions) ?_ rfl within
  intro later op inBoot sessions
  cases op with
  | detectBoot restartNow bootTime =>
    have same : bootTime = reboot.bootTime := inBoot
    have resumed := reboot.detectBoot_restart sessions restartNow
    rw [← same] at resumed
    exact (congrArg (fun result => result.1.sessions) resumed).trans sessions
  | runDiagnosis transition config => exact (runDiagnosis_sessions ..).trans sessions
  | collect log sessionId => exact (collect_sessions ..).trans sessions
  | insertSnapshot snapshot timestamp sessionId =>
    exact (Database.insertSnapshot_sessions ..).trans sessions
  | pruneMetrics pruneNow retentionHours =>
    exact (Retention.pruneMetrics_unchanged (·.sessions) (fun _ _ => rfl) later pruneNow
      retentionHours).trans sessions
  | insertEvents rows sessionId => exact sessions
  | updateHeartbeat timestamp => exact sessions
  | setState key value => exact sessions

/-- **No restart returns what the start of the boot returned, and a restart
reports an incident that the start did not report exactly when the window
holds a clean event, Kernel-Power 41 or 6008, and no BugCheck.** -/
theorem restart_loses_outcome {db : Database} (reboot : Reboot db) (now later : Epoch)
    (config : Config) (ops : List Operation)
    (within : ∀ op ∈ ops, op.WithinBoot reboot.bootTime)
    (quiet : (applyAll (detectBoot db now reboot.bootTime).1 ops).eventsBetween
      reboot.prev.row.bootTime (reboot.bootTime + 120) = reboot.window) :
    let start := detectBoot db now reboot.bootTime
    let restart := detectBoot (applyAll start.1 ops) later reboot.bootTime
    let atStart := (runDiagnosis start.1 start.2.toTransition config true).2
    let atRestart := (runDiagnosis restart.1 restart.2.toTransition config true).2
    ¬ CarriedOver start.2 restart.2 ∧
      restart.2.toTransition ≠
        latestTransition restart.1 ⟨db.sessions.seq + 1, reboot.openedRow now⟩ ∧
      (atRestart.incident.isSome ∧ atStart.incident = none ↔
        Holds reboot.window .shutdownClean ∧ ¬ Holds reboot.window .bugcheck ∧
          (Holds reboot.window .kernelPower ∨ Holds reboot.window .shutdownUnexpected)) := by
  intro start restart atStart atRestart
  have sessions := sessions_withinBoot reboot now within
  have resumed : restart = (applyAll (reboot.booted now) ops, reboot.restartResult) :=
    reboot.detectBoot_restart sessions later
  have started : atStart.incident.isSome ↔ _ := reboot.runDiagnosis_isSome_iff now config true
  have restarted : atRestart.incident.isSome ↔
      (Holds reboot.window .kernelPower ∨ Holds reboot.window .shutdownUnexpected) ∨
        Holds reboot.window .bugcheck := by
    have events : transitionEvents (applyAll (reboot.booted now) ops)
        reboot.restartResult.toTransition config = reboot.window := quiet
    rw [runDiagnosis_isSome, resumed, diagnose_unknown_iff rfl, events, exists_crashSignal_iff]
  refine ⟨?_, ?_, ?_⟩
  · rw [resumed]
    exact reboot.not_carriedOver now
  · rw [resumed, reboot.latestTransition_booted now sessions]
    exact fun same => absurd (congrArg Transition.previousSessionClean same) nofun
  · rw [← Option.not_isSome_iff_eq_none, started, restarted]
    constructor
    · rintro ⟨crash, silent⟩
      obtain ⟨noBugcheck, silentUnclean⟩ := not_or.mp silent
      have crashes := crash.resolve_right noBugcheck
      refine ⟨?_, noBugcheck, crashes⟩
      by_contra unclean
      exact silentUnclean ⟨unclean, crashes⟩
    · rintro ⟨clean, noBugcheck, crashes⟩
      exact ⟨.inl crashes, fun reports =>
        reports.elim noBugcheck fun unclean => unclean.1 clean⟩

theorem restart_loses_outcome_idle :
    let start := detectBoot (oneSession [kernelPower41 2000]) 2000 2000
    ¬ CarriedOver start.2 (detectBoot start.1 2500 2000).2 :=
  (restart_loses_outcome (oneSession.reboot [kernelPower41 2000] 2000 (by decide +kernel)) 2000
    2500 {} [] (by simp) (by decide +kernel)).1

/-- After a clean shutdown with Kernel-Power 41 at the boot, the start reports
nothing and a restart reports an incident. -/
theorem restart_reports_incident :
    let start := detectBoot (oneSession [eventLog6006 1990, kernelPower41 2000]) 2000 2000
    let restart := detectBoot start.1 2500 2000
    start.2.previousSessionClean = some true ∧ restart.2.previousSessionClean = none ∧
      start.2.uptimeBeforeBoot = some 1000 ∧ restart.2.uptimeBeforeBoot = none ∧
      (runDiagnosis start.1 start.2.toTransition {} true).2.incident.isSome = false ∧
      (diagnoseLatest restart.1 {}).incident.isSome = false ∧
      (runDiagnosis restart.1 restart.2.toTransition {} true).2.incident.isSome = true := by
  decide +kernel

/-! ## Starts within one boot -/

/-- A start and what the agent wrote before it. -/
structure Start where
  background : List Operation
  inputs : StartInputs

/-- A start: the database it found, what it handed to the diagnosis, and the
database it left. -/
structure StartOutcome where
  before : Database
  seen : Database
  boot : BootResult
  after : Database

def start (config : Config) (db : Database) (step : Start) : StartOutcome :=
  let before := applyAll db step.background
  let (booted, boot) := detectBoot before step.inputs.now step.inputs.bootTime
  { before
    seen := collect booted "System" step.inputs.log boot.sessionId
    boot
    after := (startupAnalysis before config step.inputs).database }

/-- The diagnosis is handed a crash event, and the boot time it reads is more than
five seconds from the reboot time of every stored incident. -/
def StartOutcome.Unrecognised (config : Config) (outcome : StartOutcome) : Prop :=
  (∃ event ∈ transitionEvents outcome.seen outcome.boot.toTransition config,
      CrashSignal event) ∧
    ∀ row ∈ outcome.seen.incidents.rows, ∀ stored ∈ row.rebootTimestamp,
      5 < |outcome.boot.bootTime - stored|

instance (config : Config) (outcome : StartOutcome) : Decidable (outcome.Unrecognised config) :=
  inferInstanceAs (Decidable (_ ∧ _))

/-- An incident is not recognised when every stored one is more than five seconds
away. -/
theorem incidentExists_eq_false_iff {db : Database} (previous : Option ℕ) {bootTime : Epoch} :
    incidentExists db previous bootTime = false ↔
      ∀ row ∈ db.incidents.rows, ∀ stored ∈ row.rebootTimestamp, 5 < |bootTime - stored| := by
  simp only [incidentExists, List.any_eq_false, Option.any_eq_true, decide_eq_true_eq,
    not_exists, not_and]
  refine forall₂_congr fun row _ => forall_congr' fun stored => ?_
  refine forall_congr' fun _ => ?_
  rw [← not_le, abs_le, not_and]
  constructor
  · exact fun away below above => away (by linarith) (by linarith)
  · exact fun away below above => away (by linarith) (by linarith)

def incidentCount (db : Database) : ℕ := db.incidents.entries.length

/-- The later starts belong to the boot of the newest session, whose own row
does not say yet how it ended. -/
structure WithinSession (bootTime : Epoch) (db : Database) (starts : List Start) : Prop where
  session : ∃ entry, db.latestSession = some entry ∧ entry.row.bootTime = bootTime ∧
    entry.row.previousSessionClean = none
  background : ∀ step ∈ starts, ∀ op ∈ step.background, op.Background
  drift : ∀ step ∈ starts, |bootTime - step.inputs.bootTime| < 60

section Starts

variable (config : Config) {db : Database} {bootTime : Epoch} {step : Start}
  {starts : List Start}

theorem start_after :
    (start config db step).after = (runDiagnosis (start config db step).seen
      (start config db step).boot.toTransition config true).1 := rfl

/-- A later start resumes the session: boot detection writes nothing and says
nothing about how the previous session ended. -/
theorem WithinSession.resumes (within : WithinSession bootTime db (step :: starts)) :
    (start config db step).seen.sessions = db.sessions ∧
      (start config db step).seen.incidents = db.incidents ∧
      (start config db step).boot.previousSessionClean = none := by
  obtain ⟨entry, latest, booted, unknown⟩ := within.session
  have background := within.background step List.mem_cons_self
  have sessions := applyAll_sessions db background
  have incidents := applyAll_incidents db background
  have found : (applyAll db step.background).latestSession = some entry := by
    rw [Database.latestSession, sessions]
    exact latest
  have same : SameBoot entry step.inputs.bootTime := by
    rw [SameBoot, booted]
    exact within.drift step List.mem_cons_self
  have resumed := detectBoot_sameBoot found same step.inputs.now
  refine ⟨?_, ?_, ?_⟩
  · simp only [start, resumed, collect_sessions, sessions]
  · simp only [start, resumed, collect_incidents, incidents]
  · simp only [start, resumed, resumeSession, unknown, Option.map_none]

theorem WithinSession.next (within : WithinSession bootTime db (step :: starts)) :
    WithinSession bootTime (start config db step).after starts := by
  have unchanged : (start config db step).after.sessions = db.sessions := by
    rw [start_after, runDiagnosis_sessions]
    exact (within.resumes config).1
  refine ⟨?_, fun other member => within.background other (List.mem_cons_of_mem _ member),
    fun other member => within.drift other (List.mem_cons_of_mem _ member)⟩
  rw [Database.latestSession, unchanged]
  exact within.session

/-- An unrecognised start stores one more incident. -/
theorem WithinSession.raises (within : WithinSession bootTime db (step :: starts))
    (unrecognised : (start config db step).Unrecognised config) :
    incidentCount (start config db step).after = incidentCount db + 1 := by
  obtain ⟨-, incidents, unknown⟩ := within.resumes config
  have reported := (diagnose_unknown_iff unknown config).mpr unrecognised.1
  have absent := (incidentExists_eq_false_iff
    (start config db step).boot.previousSessionId).mpr unrecognised.2
  rw [start_after, incidentCount, incidentCount, runDiagnosis_raises reported absent, incidents]

/-- Every other start stores none. -/
theorem WithinSession.keeps (within : WithinSession bootTime db (step :: starts))
    (recognised : ¬ (start config db step).Unrecognised config) :
    incidentCount (start config db step).after = incidentCount db := by
  obtain ⟨-, incidents, unknown⟩ := within.resumes config
  rw [StartOutcome.Unrecognised, ← diagnose_unknown_iff unknown config,
    ← incidentExists_eq_false_iff (start config db step).boot.previousSessionId] at recognised
  rw [start_after, incidentCount, incidentCount, runDiagnosis_keeps recognised, incidents]

/-- The start that opens the session of the boot stores at most one incident. -/
theorem first_start {first : StartInputs}
    (fresh : ∀ prev, db.latestSession = some prev → ¬ SameBoot prev first.bootTime)
    (background : ∀ step ∈ starts, ∀ op ∈ step.background, op.Background)
    (drift : ∀ step ∈ starts, |first.bootTime - step.inputs.bootTime| < 60) :
    WithinSession first.bootTime (startupAnalysis db config first).database starts ∧
      incidentCount (startupAnalysis db config first).database ≤ incidentCount db + 1 := by
  obtain ⟨previous, opened⟩ := detectBoot_opened fresh first.now
  let booted := detectBoot db first.now first.bootTime
  let seen := collect booted.1 "System" first.log booted.2.sessionId
  have incidents : seen.incidents = db.incidents :=
    (collect_incidents ..).trans (detectBoot_incidents ..)
  have sessions : (startupAnalysis db config first).database.sessions = booted.1.sessions :=
    (runDiagnosis_sessions seen ..).trans (collect_sessions ..)
  refine ⟨⟨?_, background, drift⟩, ?_⟩
  · rw [Database.latestSession, sessions]
    exact ⟨_, opened, rfl, rfl⟩
  · have count : incidentCount (startupAnalysis db config first).database =
        (runDiagnosis seen booted.2.toTransition config true).1.incidents.entries.length := rfl
    rw [count, incidentCount, ← incidents]
    by_cases stored : (diagnose seen booted.2.toTransition config).incident.isSome ∧
        incidentExists seen booted.2.previousSessionId booted.2.bootTime = false
    · exact (runDiagnosis_raises stored.1 stored.2).le
    · rw [runDiagnosis_keeps stored]
      exact Nat.le_succ _

end Starts

/-- **At most one incident is stored in a boot exactly when, once one is
stored, every later start that sees a crash event finds an incident within
five seconds of the boot time it reads.** -/
theorem one_incident_per_boot_iff (config : Config) (db : Database) (first : StartInputs)
    (starts : List Start)
    (fresh : ∀ prev, db.latestSession = some prev → ¬ SameBoot prev first.bootTime)
    (background : ∀ step ∈ starts, ∀ op ∈ step.background, op.Background)
    (drift : ∀ step ∈ starts, |first.bootTime - step.inputs.bootTime| < 60) :
    let started := (startupAnalysis db config first).database
    let ended := Runs.run (fun db step => (start config db step).after) started starts
    incidentCount ended ≤ incidentCount db + 1 ↔
      ∀ outcome ∈ Runs.trace (start config) StartOutcome.after started starts,
        incidentCount db + 1 ≤ incidentCount outcome.before →
        ¬ outcome.Unrecognised config := by
  intro started ended
  obtain ⟨within, atMostOne⟩ := first_start config fresh background drift
  refine Runs.trace_count_le_iff (WithinSession first.bootTime)
    (fun _ _ _ ready => ready.next config) (fun _ _ _ ready => ready.raises config)
    (fun _ _ _ ready => ready.keeps config) ?_ within atMostOne
  intro state step steps ready
  have before := applyAll_incidents state (ready.background step List.mem_cons_self)
  have same : incidentCount (start config state step).before = incidentCount state :=
    congrArg (fun table => table.entries.length) before
  rw [same]

/-- A start at 2000 and a restart that reads the given boot time, both without
a new record in the log. -/
def startsReading (bootTime : Epoch) : List Start :=
  [⟨[], ⟨2010, some bootTime, some []⟩⟩]

/-- A restart that reads the same boot time stores nothing more. -/
theorem one_incident_per_boot_repeated :
    incidentCount (Runs.run (fun db step => (start {} db step).after)
      (startupAnalysis (oneSession [kernelPower41 2000]) {} ⟨2000, some 2000, some []⟩).database
      (startsReading 2000)) ≤ 1 :=
  (one_incident_per_boot_iff {} (oneSession [kernelPower41 2000]) ⟨2000, some 2000, some []⟩
    (startsReading 2000)
    (fun prev latest => by
      rw [← Option.some.inj latest]
      decide +kernel)
    (by simp [startsReading]) (by decide +kernel)).mpr (by decide +kernel)

/-- A restart that reads a boot time six seconds later stores the incident
again. -/
theorem incident_stored_twice :
    let started :=
      (startupAnalysis (oneSession [kernelPower41 2000]) {} ⟨2000, some 2000, some []⟩).database
    |(2000 : ℚ) - 2006| < 60 ∧
      incidentCount (oneSession [kernelPower41 2000]) = 0 ∧
      incidentCount (Runs.run (fun db step => (start {} db step).after) started
        (startsReading 2006)) = 2 := by
  decide +kernel

end Agent

end PcDiagnosticAgent
