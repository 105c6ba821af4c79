import PcDiagnosticAgent.Agent.LateEvidence
import PcDiagnosticAgent.Diagnostics.Findings
import PcDiagnosticAgent.Storage.EvidenceWindow

/-!
# Reports after the reboot

A start that opens a session may store an incident; the cycles of the new
session then write metrics and the heartbeat into the tables that
`diagnose_latest` reads. The metric window of the diagnosis reaches past the
reboot, so a later sample can add a finding.

What stands is the account of the termination. As long as the last activity
before the boot is that of a metric row, no cycle of the new session changes
the type, the confidence, the last activity or the duration of the reported
incident: new rows are stamped after the boot, and retention keeps what lies
around the newest incident. The findings about thresholds follow the samples of
the configured window, and the others stay (`account_stands`).
-/

set_option autoImplicit false

namespace PcDiagnosticAgent

open AutoTables EventAnalyzer BootDetector Diagnosis WindowsEvents Retention OptionalMax

/-! ## Reports from the same events and activity -/

namespace Diagnosis

/-- A report gives the stored account of a termination, and the thresholds that
the samples around the reboot reach. -/
structure StandsBy (config : Config) (row : IncidentRow) (db : Database) (incident : Incident) :
    Prop where
  type : row.incidentType = some incident.incidentType
  confidence : row.confidence = some incident.confidence
  lastActivity : row.lastMetricTimestamp = incident.lastMetricTimestamp
  duration : row.durationEstimate = incident.durationEstimate
  findings : ∀ type, ¬ FromSamples type → (type ∈ incident.findings ↔ type ∈ row.findings)
  samples : ∀ threshold ∈ thresholds config, threshold.finding ∈ incident.findings ↔
    threshold.Reached db
      (incident.rebootTimestamp - config.incidentWindowBeforeMinutes * 60)
      (incident.rebootTimestamp + config.incidentWindowAfterMinutes * 60)

theorem diagnose_findings {db : Database} {transition : Transition} {config : Config}
    {incident : Incident} (found : (diagnose db transition config).incident = some incident) :
    incident.rebootTimestamp = transition.bootTime ∧
      incident.findings = (buildFindings (summarize (incidentEvents db transition config))
        (aggregates db (transition.bootTime - config.incidentWindowBeforeMinutes * 60)
          (transition.bootTime + config.incidentWindowAfterMinutes * 60))
        (inferTermination (crashSignals db transition config)
          (lastMetricTimestamp db transition.bootTime) transition.bootTime
          config.collectionIntervalSeconds) config).map Finding.type := by
  simp only [diagnose] at found
  split at found
  · rw [← Option.some.inj found]
    exact ⟨rfl, rfl⟩
  · cases found

/-- **A diagnosis of the same events with the same last activity stands by the
incident of the first one.** -/
theorem diagnose_standsBy {seen later : Database} {transition : Transition} {config : Config}
    {first : Incident} (events : later.events = seen.events)
    (activity : lastMetricTimestamp later transition.bootTime =
      lastMetricTimestamp seen transition.bootTime)
    (found : (diagnose seen transition config).incident = some first) :
    ∃ incident, (diagnose later transition config).incident = some incident ∧
      StandsBy config (Database.incidentRow first) later incident := by
  have windows : later.eventsBetween = seen.eventsBetween := by
    funext start stop
    exact Database.eventsBetween_congr events start stop
  have signals : crashSignals later transition config = crashSignals seen transition config := by
    simp only [crashSignals, transitionEvents, windows]
  have around : incidentEvents later transition config =
      incidentEvents seen transition config := by
    simp only [incidentEvents, windows]
  have verdicts : (diagnose later transition config).incident.map verdictOf =
      some (verdictOf first) := by
    rw [diagnose_verdict, activity, transitionEvents, windows, ← transitionEvents,
      ← diagnose_verdict, found, Option.map_some]
  obtain ⟨incident, reported, same⟩ := Option.map_eq_some_iff.mp verdicts
  obtain ⟨-, before⟩ := diagnose_findings found
  obtain ⟨boot, after⟩ := diagnose_findings reported
  refine ⟨incident, reported, ?_, ?_, ?_, ?_, fun type standing => ?_,
    fun threshold member => ?_⟩
  · exact congrArg (fun verdict => some verdict.type) same.symm
  · exact congrArg (fun verdict => some verdict.confidence) same.symm
  · have last := diagnose_lastMetricTimestamp reported
    rw [activity, ← diagnose_lastMetricTimestamp found] at last
    exact last.symm
  · exact congrArg Verdict.duration same.symm
  · have stored : (Database.incidentRow first).findings = first.findings := rfl
    rw [stored, before, after, mem_findingTypes_standing standing,
      mem_findingTypes_standing standing, signals, around, activity]
  · rw [after, boot]
    exact threshold.reported_iff member _ later _ _ _

end Diagnosis

/-! ## Opened sessions -/

namespace BootDetector

/-- The boot is none of the newest session, which has no outcome yet. -/
structure Opens (db : Database) (bootTime : Epoch) : Prop where
  other : ∀ prev, db.latestSession = some prev → ¬ SameBoot prev bootTime
  pending : ∀ prev, db.latestSession = some prev → prev.row.previousSessionClean = none

/-- The session before the opened one was the newest. -/
theorem openSession_earlier (db : Database) (bootTime now : Epoch)
    (previousBootTime : Option Epoch) :
    (openSession db bootTime now previousBootTime).1.earlierSession (db.sessions.seq + 1) =
      db.latestSession := by
  cases previousBootTime with
  | none => exact AutoTable.before_insert _ _
  | some previous =>
    exact (AutoTable.before_update_of_le _ (le_refl _)).trans (AutoTable.before_insert _ _)

/-- **The transition that is read back from the rows is the one the start was
given.** -/
theorem Opens.latestTransition {db : Database} {bootTime : Epoch} (opens : Opens db bootTime)
    (now : Epoch) {later : Database}
    (sessions : later.sessions = (detectBoot db now bootTime).1.sessions) :
    ∃ entry, later.latestSession = some entry ∧
      Diagnosis.latestTransition later entry =
        (detectBoot db now bootTime).2.toTransition := by
  by_cases rebooted : ∃ reboot : Reboot db, reboot.bootTime = bootTime
  · obtain ⟨reboot, rfl⟩ := rebooted
    refine ⟨_, reboot.latestSession_later sessions, ?_⟩
    rw [reboot.latestTransition_booted now sessions, reboot.detectBoot_transition]
  · -- nothing was finalised: there is no session, or its boot time is zero
    have unfinished : ∃ previousBootTime,
        detectBoot db now bootTime = ((openSession db bootTime now previousBootTime).1,
          unknownResult db.latestSession bootTime (db.sessions.seq + 1)) ∧
        previousBootTime = db.latestSession.map (·.row.bootTime) ∧
        ∀ previous ∈ previousBootTime, previous = 0 := by
      unfold detectBoot
      cases latest : db.latestSession with
      | none => exact ⟨none, rfl, rfl, by simp⟩
      | some prev =>
        by_cases zero : prev.row.bootTime = 0
        · refine ⟨some prev.row.bootTime, ?_, rfl, by simp [zero]⟩
          simp only [if_neg (opens.other prev latest), if_pos zero]
          rfl
        · exact absurd ⟨⟨prev, bootTime, latest, zero,
            not_lt.mp (opens.other prev latest)⟩, rfl⟩ rebooted
    obtain ⟨previousBootTime, opened, previous, zero⟩ := unfinished
    rw [opened] at sessions ⊢
    have newest : later.latestSession = some ⟨db.sessions.seq + 1,
        { bootTime, previousBootTime, createdAt := now }⟩ := by
      rw [Database.latestSession, sessions]
      exact openSession_latest db bootTime now previousBootTime
    have earlier : later.earlierSession (db.sessions.seq + 1) = db.latestSession := by
      rw [Database.earlierSession, sessions]
      exact openSession_earlier db bootTime now previousBootTime
    refine ⟨_, newest, ?_⟩
    simp only [Diagnosis.latestTransition, earlier]
    cases latest : db.latestSession with
    | none =>
      rw [latest] at previous
      rw [previous]
      rfl
    | some prev =>
      have pending := opens.pending prev latest
      rw [latest] at previous
      rw [previous] at zero ⊢
      have nothing : prev.row.bootTime = 0 := zero _ rfl
      simp [unknownResult, pending, nothing]

end BootDetector

/-! ## Activity before the boot -/

namespace Diagnosis

/-- The metrics give the last activity before the boot, with or without the
heartbeat. -/
structure Grounded (bootTime : Epoch) (last : Option Epoch) (db : Database) : Prop where
  metrics : Greatest (metricTimes db ∩ Set.Iio bootTime) last
  activity : Greatest (activityTimes db ∩ Set.Iio bootTime) last

/-- A heartbeat before the boot is not newer than every metric before it. -/
def HeartbeatRecorded (db : Database) (bootTime : Epoch) : Prop :=
  ∀ beat, db.heartbeat = some beat → beat < bootTime →
    ∃ time ∈ metricTimes db, beat ≤ time ∧ time < bootTime

theorem Grounded.lastMetricTimestamp {bootTime : Epoch} {last : Option Epoch} {db : Database}
    (grounded : Grounded bootTime last db) : lastMetricTimestamp db bootTime = last :=
  (lastMetricTimestamp_greatest db bootTime).unique grounded.activity

theorem HeartbeatRecorded.grounded {db : Database} {bootTime : Epoch}
    (recorded : HeartbeatRecorded db bootTime) :
    Grounded bootTime (Diagnosis.lastMetricTimestamp db bootTime) db := by
  have activity := lastMetricTimestamp_greatest db bootTime
  refine ⟨Greatest.of_matched ?_ ?_ activity, activity⟩
  · exact Set.inter_subset_inter_left _ Set.subset_union_left
  · rintro time ⟨metric | beat, early⟩
    · exact ⟨time, ⟨metric, early⟩, le_refl _⟩
    · obtain ⟨other, metric, above, before⟩ := recorded time beat early
      exact ⟨other, ⟨metric, before⟩, above⟩

/-- The metrics before the boot stay, and the heartbeat stays or is not before
the boot. -/
theorem Grounded.congr {bootTime : Epoch} {last : Option Epoch} {db later : Database}
    (grounded : Grounded bootTime last db)
    (metrics : metricTimes later ∩ Set.Iio bootTime = metricTimes db ∩ Set.Iio bootTime)
    (heartbeat : ∀ beat, later.heartbeat = some beat → beat < bootTime →
      db.heartbeat = some beat) : Grounded bootTime last later := by
  have same : Greatest (metricTimes later ∩ Set.Iio bootTime) last := metrics ▸ grounded.metrics
  refine ⟨same, Greatest.of_subset ?_ (fun time isLast => ?_) grounded.activity⟩
  · rintro time ⟨metric | beat, early⟩
    · have old : time ∈ metricTimes db ∩ Set.Iio bootTime := metrics ▸ ⟨metric, early⟩
      exact ⟨.inl old.1, early⟩
    · exact ⟨.inr (heartbeat time beat early), early⟩
  · rw [isLast] at same
    exact ⟨.inl same.1.1, same.1.2⟩

/-- Metrics may go, except those of the last activity. -/
theorem Grounded.pruned {bootTime : Epoch} {last : Option Epoch} {db later : Database}
    (grounded : Grounded bootTime last db) (fewer : metricTimes later ⊆ metricTimes db)
    (kept : ∀ time, last = some time → time ∈ metricTimes later)
    (heartbeat : later.heartbeat = db.heartbeat) : Grounded bootTime last later := by
  have early : ∀ time, last = some time → time < bootTime := by
    rintro time rfl
    exact grounded.metrics.1.2
  constructor
  · refine Greatest.of_subset (Set.inter_subset_inter_left _ fewer) ?_ grounded.metrics
    exact fun time isLast => ⟨kept time isLast, early time isLast⟩
  · refine Greatest.of_subset (Set.inter_subset_inter_left _ ?_) ?_ grounded.activity
    · rintro time (metric | beat)
      · exact .inl (fewer metric)
      · exact .inr (heartbeat ▸ beat)
    · exact fun time isLast => ⟨.inl (kept time isLast), early time isLast⟩

/-- A snapshot stamped at or after the boot leaves the metrics before it. -/
theorem metricTimes_insertSnapshot {db : Database} {bootTime now : Epoch}
    (afterBoot : bootTime ≤ now) (snapshot : Snapshot) (sessionId : ℕ) :
    metricTimes (db.insertSnapshot snapshot now sessionId) ∩ Set.Iio bootTime =
      metricTimes db ∩ Set.Iio bootTime := by
  ext time
  constructor
  · rintro ⟨⟨table, active, row, member, stamped⟩, early⟩
    rcases Database.mem_metrics_insertSnapshot member with old | fresh
    · exact ⟨⟨table, active, row, old, stamped⟩, early⟩
    · rw [← stamped, fresh] at early
      exact absurd early (not_lt.mpr afterBoot)
  · rintro ⟨⟨table, active, row, member, stamped⟩, early⟩
    exact ⟨⟨table, active, row, Database.metrics_subset_insertSnapshot member, stamped⟩, early⟩

end Diagnosis

/-! ## Cycles of the session -/

namespace Agent

open Scheduling

/-- A cycle that is stamped at or after the boot and finds no record in the log
that was not read by the given database. -/
def SessionStep.Cycle (bootTime : Epoch) (started : Database) : SessionStep → Prop
  | .collectHigh _ now => bootTime ≤ now
  | .collectLow answers now => bootTime ≤ now ∧
      ∀ results, answers.log = some results → unreadRecords started "System" results = []
  | .restart _ => False

/-- What the cycles of the session leave as the start left it. -/
structure Undisturbed (bootTime : Epoch) (last : Option Epoch) (started later : Database) :
    Prop where
  sessions : later.sessions = started.sessions
  events : later.events = started.events
  incidents : later.incidents = started.incidents
  cursor : later.agentState = started.agentState
  grounded : Grounded bootTime last later

namespace Undisturbed

variable {bootTime : Epoch} {last : Option Epoch} {started later : Database}
  (undisturbed : Undisturbed bootTime last started later) {now : Epoch}

include undisturbed

theorem insertSnapshot (afterBoot : bootTime ≤ now) (snapshot : Snapshot) (sessionId : ℕ) :
    Undisturbed bootTime last started (later.insertSnapshot snapshot now sessionId) := by
  have unchanged : ∀ {Seen : Type} (observe : Database → Seen),
      (∀ db metrics, observe { db with metrics } = observe db) →
      observe (later.insertSnapshot snapshot now sessionId) = observe later :=
    fun observe metrics =>
      Database.insertSnapshot_unchanged observe (fun _ _ _ => metrics ..) later snapshot now
        sessionId
  refine ⟨?_, ?_, ?_, ?_, ?_⟩
  · exact (unchanged (·.sessions) fun _ _ => rfl).trans undisturbed.sessions
  · exact (unchanged (·.events) fun _ _ => rfl).trans undisturbed.events
  · exact (unchanged (·.incidents) fun _ _ => rfl).trans undisturbed.incidents
  · exact (unchanged (·.agentState) fun _ _ => rfl).trans undisturbed.cursor
  · refine undisturbed.grounded.congr (metricTimes_insertSnapshot afterBoot snapshot sessionId) ?_
    intro beat isBeat _
    rwa [unchanged (·.heartbeat) fun _ _ => rfl] at isBeat

theorem updateHeartbeat (afterBoot : bootTime ≤ now) :
    Undisturbed bootTime last started (later.updateHeartbeat now) := by
  refine { undisturbed with grounded := undisturbed.grounded.congr rfl ?_ }
  intro beat isBeat early
  have same : now = beat := Option.some.inj isBeat
  exact absurd early (not_lt.mpr (same ▸ afterBoot))

/-- Retention keeps the last activity when it lies around a stored incident. -/
theorem pruneMetrics (kept : ∀ time, last = some time → time ∈ keptTimes started.incidents)
    (clock : Epoch) (retentionHours : ℚ) :
    Undisturbed bootTime last started (Retention.pruneMetrics later clock retentionHours).1 := by
  have unchanged : ∀ {Seen : Type} (observe : Database → Seen),
      (∀ db metrics, observe { db with metrics } = observe db) →
      observe (Retention.pruneMetrics later clock retentionHours).1 = observe later :=
    fun observe metrics => pruneMetrics_unchanged observe metrics later clock retentionHours
  refine ⟨?_, ?_, ?_, ?_, ?_⟩
  · exact (unchanged (·.sessions) fun _ _ => rfl).trans undisturbed.sessions
  · exact (unchanged (·.events) fun _ _ => rfl).trans undisturbed.events
  · exact (unchanged (·.incidents) fun _ _ => rfl).trans undisturbed.incidents
  · exact (unchanged (·.agentState) fun _ _ => rfl).trans undisturbed.cursor
  · refine undisturbed.grounded.pruned ?_ ?_ (unchanged (·.heartbeat) fun _ _ => rfl)
    · rintro time ⟨table, active, row, member, stamped⟩
      exact ⟨table, active, row, pruneMetrics_subset member, stamped⟩
    · intro time isLast
      have metric := undisturbed.grounded.metrics
      rw [isLast] at metric
      obtain ⟨table, active, row, member, stamped⟩ := metric.1.1
      refine ⟨table, active, row, mem_pruneMetrics_of_kept member ?_, stamped⟩
      rw [undisturbed.incidents, stamped]
      exact kept time isLast

/-- A log without new records is not read. -/
theorem collect {log : Option (List ReadResult)} (sessionId : ℕ)
    (quiet : ∀ results, log = some results → unreadRecords started "System" results = []) :
    WindowsEvents.collect later "System" log sessionId = later := by
  cases log with
  | none => rfl
  | some results =>
    have none : unreadRecords later "System" results = [] := by
      have unread := quiet results rfl
      simpa only [unreadRecords, lastId, lastTs, Database.getState, undisturbed.cursor] using
        unread
    simp only [WindowsEvents.collect, none, if_true]

theorem sampleLow {answers : LowAnswers} (sessionId : ℕ) (afterBoot : bootTime ≤ now)
    (quiet : ∀ results, answers.log = some results →
      unreadRecords started "System" results = []) :
    Undisturbed bootTime last started (Scheduling.sampleLow later answers now sessionId) := by
  simp only [Scheduling.sampleLow, undisturbed.collect sessionId quiet]
  split
  · exact undisturbed
  · exact undisturbed.insertSnapshot afterBoot _ sessionId

end Undisturbed

/-- A cycle of the session leaves undisturbed what the start left. -/
theorem Undisturbed.step {config : Config} {bootTime : Epoch} {last : Option Epoch}
    {started : Database} {service : Service}
    (kept : ∀ time, last = some time → time ∈ keptTimes started.incidents)
    (undisturbed : Undisturbed bootTime last started service.database) {step : SessionStep}
    (cycle : step.Cycle bootTime started) :
    Undisturbed bootTime last started (service.step config step).database := by
  cases step with
  | collectHigh answers now =>
    have sampled := undisturbed.insertSnapshot cycle (highSnapshot answers now) service.sessionId
    exact sampled.updateHeartbeat cycle
  | collectLow answers now =>
    obtain ⟨afterBoot, quiet⟩ := cycle
    have sampled := undisturbed.sampleLow service.sessionId afterBoot quiet
    simp only [Service.step, Scheduling.collectLow]
    split
    · exact sampled.pruneMetrics kept answers.retentionClock config.retentionHours
    · exact sampled
  | restart inputs => exact cycle.elim

theorem Undisturbed.run {config : Config} {bootTime : Epoch} {last : Option Epoch}
    {started : Database} {service : Service}
    (kept : ∀ time, last = some time → time ∈ keptTimes started.incidents)
    (undisturbed : Undisturbed bootTime last started service.database)
    {steps : List SessionStep} (cycles : ∀ step ∈ steps, step.Cycle bootTime started) :
    Undisturbed bootTime last started (service.run config steps).database :=
  Runs.run_invariant
    (fun later : Service => Undisturbed bootTime last started later.database)
    (fun _ (step : SessionStep) (cycle : step.Cycle bootTime started) before =>
      before.step kept cycle)
    undisturbed cycles

/-! ## The start -/

section Start

variable {config : Config} {db : Database} {inputs : StartInputs}

theorem handed_metrics : (handed db inputs).seen.metrics = db.metrics :=
  (collect_unchanged (·.metrics) (fun _ _ => rfl) (fun _ _ => rfl) ..).trans
    (detectBoot_metrics ..)

theorem handed_heartbeat : (handed db inputs).seen.heartbeat = db.heartbeat :=
  (collect_unchanged (·.heartbeat) (fun _ _ => rfl) (fun _ _ => rfl) ..).trans
    (detectBoot_heartbeat ..)

/-- A start leaves the metrics and the heartbeat alone. -/
theorem startService_metrics :
    (startService config db inputs).database.metrics = db.metrics := by
  rw [startService_database, runDiagnosis_metrics, handed_metrics]

theorem startService_heartbeat :
    (startService config db inputs).database.heartbeat = db.heartbeat := by
  rw [startService_database, runDiagnosis_heartbeat, handed_heartbeat]

variable (config db inputs) in
/-- A start stores at most one incident. -/
theorem startService_incidents :
    (startService config db inputs).database.incidents = db.incidents ∨
      ∃ row, (startService config db inputs).database.incidents = db.incidents.insert row := by
  rw [startService_database, runDiagnosis_incidents, handed_incidents]
  split
  · exact .inl rfl
  · split
    · exact .inr ⟨_, rfl⟩
    · exact .inl rfl

variable {entry : Entry IncidentRow}
  (stored : entry ∈ (startService config db inputs).database.incidents.entries)
  (fresh : entry ∉ db.incidents.entries)

include stored fresh

/-- An incident the start stored is the one it diagnosed. -/
theorem stored_diagnosed : ∃ first,
    (diagnose (handed db inputs).seen (handed db inputs).transition config).incident =
      some first ∧ entry.row = Database.incidentRow first := by
  rw [← handed_incidents db inputs] at fresh
  exact runDiagnosis_stored stored fresh

/-- It is the newest one. -/
theorem stored_newest : entry ∈
    (startService config db inputs).database.incidents.entries.reverse.take 200 := by
  rcases startService_incidents config db inputs with same | ⟨row, appended⟩
  · rw [same] at stored
    exact absurd stored fresh
  · rw [appended, AutoTable.insert_entries] at stored ⊢
    have new := (List.mem_append.mp stored).resolve_left fresh
    rw [List.reverse_append, List.mem_singleton.mp new]
    exact List.mem_cons_self

theorem stored_lastMetricTimestamp :
    entry.row.lastMetricTimestamp = lastMetricTimestamp db inputs.bootTime := by
  obtain ⟨first, found, row⟩ := stored_diagnosed stored fresh
  have last := diagnose_lastMetricTimestamp found
  rw [handed_bootTime] at last
  rw [row]
  exact last.trans (lastMetricTimestamp_congr handed_metrics handed_heartbeat _)

/-- Retention keeps the last activity of a stored incident, when neither time is
zero. -/
theorem stored_kept (booted : inputs.bootTime ≠ 0)
    (active : entry.row.lastMetricTimestamp ≠ some 0) :
    ∀ time, lastMetricTimestamp db inputs.bootTime = some time →
      time ∈ keptTimes (startService config db inputs).database.incidents := by
  intro time isLast
  have last := stored_lastMetricTimestamp stored fresh
  rw [isLast] at last
  obtain ⟨first, found, row⟩ := stored_diagnosed stored fresh
  obtain ⟨boot, -⟩ := diagnose_findings found
  rw [handed_bootTime] at boot
  have reboot : entry.row.rebootTimestamp = some inputs.bootTime := by
    rw [row, ← boot]
    rfl
  have greatest := lastMetricTimestamp_greatest db inputs.bootTime
  rw [isLast] at greatest
  have early : time < inputs.bootTime := greatest.1.2
  rw [last] at active
  refine ⟨entry, stored_newest stored fresh, time, last, inputs.bootTime, reboot,
    fun zero => active (congrArg some zero), booted, ?_, ?_⟩
  · linarith
  · linarith

end Start

/-- **After a start that opened a session and stored an incident, every report
of the session stands by its account, as long as the last activity before the
boot is that of a metric row.** -/
theorem account_stands (config : Config) {db : Database} {inputs : StartInputs}
    (opens : Opens db inputs.bootTime) (recorded : HeartbeatRecorded db inputs.bootTime)
    {entry : Entry IncidentRow}
    (stored : entry ∈ (startService config db inputs).database.incidents.entries)
    (fresh : entry ∉ db.incidents.entries) (booted : inputs.bootTime ≠ 0)
    (active : entry.row.lastMetricTimestamp ≠ some 0) {steps : List SessionStep}
    (cycles : ∀ step ∈ steps,
      step.Cycle inputs.bootTime (startService config db inputs).database) :
    let later := ((startService config db inputs).run config steps).database
    ∃ incident, (diagnoseLatest later config).incident = some incident ∧
      StandsBy config entry.row later incident := by
  intro later
  have initial : Grounded inputs.bootTime (lastMetricTimestamp db inputs.bootTime)
      (startService config db inputs).database := by
    refine recorded.grounded.congr ?_ fun beat isBeat _ => ?_
    · simp only [metricTimes, startService_metrics]
    · rwa [startService_heartbeat] at isBeat
  have undisturbed : Undisturbed inputs.bootTime (lastMetricTimestamp db inputs.bootTime)
      (startService config db inputs).database later :=
    Undisturbed.run (stored_kept stored fresh booted active) ⟨rfl, rfl, rfl, rfl, initial⟩ cycles
  have sessions : later.sessions =
      (detectBoot db inputs.now inputs.bootTime).1.sessions := by
    rw [undisturbed.sessions, startService_database, runDiagnosis_sessions]
    exact collect_sessions ..
  obtain ⟨newest, latest, transition⟩ := opens.latestTransition inputs.now sessions
  obtain ⟨first, found, row⟩ := stored_diagnosed stored fresh
  have events : later.events = (handed db inputs).seen.events := by
    rw [undisturbed.events, startService_database, runDiagnosis_events]
  have activity : lastMetricTimestamp later (handed db inputs).transition.bootTime =
      lastMetricTimestamp (handed db inputs).seen (handed db inputs).transition.bootTime := by
    rw [← diagnose_lastMetricTimestamp found, handed_bootTime,
      undisturbed.grounded.lastMetricTimestamp, ← stored_lastMetricTimestamp stored fresh, row]
    rfl
  obtain ⟨incident, reported, stands⟩ := diagnose_standsBy events activity found
  refine ⟨incident, ?_, row ▸ stands⟩
  simp only [diagnoseLatest, latest, runDiagnosis_dry, transition]
  exact reported

/-- A session that collected until 1900 and froze before the reboot at 2000. -/
def frozenSession : Database :=
  Scheduling.collectHigh (oneSession [kernelPower41 2000])
    { cpu := some ⟨20, none, none⟩ } 1900 1

/-- A start at 2000 that reads nothing new. -/
def quietStart : StartInputs := ⟨2000, some 2000, some []⟩

/-- A cycle ten seconds after the boot, with a busy processor. -/
def busyCycle : SessionStep := .collectHigh { cpu := some ⟨99, none, none⟩ } 2010

theorem account_stands_busy :
    let later := ((startService {} frozenSession quietStart).run {}
      [busyCycle, .collectLow { retentionClock := 200000 } 200000]).database
    ∃ incident, (diagnoseLatest later {}).incident = some incident ∧
      incident.incidentType = .hardHang ∧ incident.durationEstimate = some 100 := by
  intro later
  have opens : Opens frozenSession quietStart.bootTime := by
    constructor
    · intro prev latest
      rw [← Option.some.inj latest]
      decide +kernel
    · intro prev latest
      rw [← Option.some.inj latest]
      decide +kernel
  have recorded : HeartbeatRecorded frozenSession quietStart.bootTime := by
    intro beat isBeat early
    have same : 1900 = beat := Option.some.inj isBeat
    refine ⟨1900, ⟨.cpu, by decide, _, List.mem_singleton_self _, rfl⟩, same.ge, ?_⟩
    exact lt_of_eq_of_lt same early
  have cycles : ∀ step ∈ [busyCycle, .collectLow { retentionClock := 200000 } 200000],
      step.Cycle quietStart.bootTime (startService {} frozenSession quietStart).database := by
    intro step member
    simp only [List.mem_cons, List.not_mem_nil, or_false] at member
    rcases member with rfl | rfl
    · show (2000 : ℚ) ≤ 2010
      norm_num
    · exact ⟨show (2000 : ℚ) ≤ 200000 by norm_num, nofun⟩
  obtain ⟨entry, only⟩ : ∃ entry,
      (startService {} frozenSession quietStart).database.incidents.entries = [entry] :=
    List.length_eq_one_iff.mp (by decide +kernel)
  have account : (startService {} frozenSession quietStart).database.incidents.rows.map
      (fun row => (row.incidentType, row.lastMetricTimestamp, row.durationEstimate)) =
        [(some .hardHang, some 1900, some 100)] := by
    decide +kernel
  simp only [AutoTable.rows, only, List.map_cons, List.map_nil, List.cons.injEq, and_true,
    Prod.mk.injEq] at account
  obtain ⟨type, last, duration⟩ := account
  have active : entry.row.lastMetricTimestamp ≠ some 0 := by
    rw [last]
    decide +kernel
  obtain ⟨incident, reported, stands⟩ := account_stands {} opens recorded
    (only ▸ List.mem_singleton_self entry) List.not_mem_nil (by decide +kernel) active cycles
  refine ⟨incident, reported, ?_, stands.duration.symm.trans duration⟩
  exact Option.some.inj (stands.type.symm.trans type)

/-- A sample taken ten seconds after the boot adds a finding to the report on
what happened before it. -/
theorem later_sample_adds_finding :
    let started := startService {} frozenSession quietStart
    started.database.incidents.rows.map IncidentRow.findings = [[.hardHang]] ∧
      (diagnoseLatest started.database {}).incident.map Incident.findings =
        some [.hardHang] ∧
      (diagnoseLatest (started.run {} [busyCycle]).database {}).incident.map
        Incident.findings = some [.hardHang, .cpu] := by
  decide +kernel

end Agent

end PcDiagnosticAgent
