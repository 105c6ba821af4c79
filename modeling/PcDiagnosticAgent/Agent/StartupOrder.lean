import PcDiagnosticAgent.Agent.Lifecycle
import PcDiagnosticAgent.Diagnostics.RebootAnalysis

/-!
# The order of the startup steps

`startup_analysis` finalises the previous session before it reads the event
log, and diagnoses after it. The flags that are stored are those of the events
that were there before, while the diagnosis sees the new ones too.

Reading the log first would give flags and a verdict that rest on all events
of the window (`ingestFirst_fromAllEvents`). The order of the code gives the
same exactly when the unread events bring no kind of evidence that the stored
ones lack (`startup_fromAllEvents_iff`).
-/

set_option autoImplicit false

namespace PcDiagnosticAgent

open AutoTables EventAnalyzer BootDetector Diagnosis WindowsEvents

namespace BootDetector

theorem flag_inj {first second : Bool} : flag first = flag second ↔ first = second := by
  cases first <;> cases second <;> decide

/-- The row says that the session ended as the summary does. -/
def StoredAs (row : SessionRow) (summary : Summary) : Prop :=
  row.previousSessionClean = some (flag summary.cleanShutdown) ∧
    row.unexpectedShutdown = some (flag (unexpectedEnd summary)) ∧
    row.kernelPowerDetected = some (flag summary.kernelPowerDetected) ∧
    row.bugcheckDetected = some (flag summary.bugcheckDetected)

theorem Reboot.finalisedRow_storedAs {db : Database} (reboot : Reboot db) :
    StoredAs reboot.finalisedRow reboot.summary := ⟨rfl, rfl, rfl, rfl⟩

end BootDetector

namespace Agent

/-! ## The verdict of all events -/

/-- The window of the transition as the database holds it at the end. -/
def StartupOutcome.finalWindow (outcome : StartupOutcome) (prev : Entry SessionRow) :
    List EventRow :=
  outcome.database.eventsBetween prev.row.bootTime (outcome.boot.bootTime + 120)

/-- The stored flags and the reported incident are those of all events that
the window holds at the end. -/
structure StartupOutcome.FromAllEvents (outcome : StartupOutcome) (prev : Entry SessionRow)
    (config : Config) : Prop where
  stored : ∃ row, outcome.database.getSession prev.id = some row ∧
    StoredAs row (summarize (outcome.finalWindow prev))
  decided : outcome.result.incident.map verdictOf =
    verdict (outcome.finalWindow prev) (summarize (outcome.finalWindow prev)).cleanShutdown
      (activityGap (lastMetricTimestamp outcome.database outcome.boot.bootTime)
        outcome.boot.bootTime)
      config.collectionIntervalSeconds

/-- The diagnosis decides from all events, so the flags are what is left to
compare. -/
theorem fromAllEvents_iff {seen : Database} {boot : BootResult} {prev : Entry SessionRow}
    {row : SessionRow} {clean : Bool} (config : Config)
    (start : boot.previousBootTime = some prev.row.bootTime)
    (returned : boot.previousSessionClean = some clean)
    (found : seen.getSession prev.id = some row)
    (stored : row.previousSessionClean = some (flag clean)) :
    (diagnosed seen boot config).FromAllEvents prev config ↔
      StoredAs row (summarize (seen.eventsBetween prev.row.bootTime (boot.bootTime + 120))) := by
  have window : (diagnosed seen boot config).finalWindow prev =
      seen.eventsBetween prev.row.bootTime (boot.bootTime + 120) :=
    Database.eventsBetween_congr (runDiagnosis_events ..) _ _
  have sessions : (diagnosed seen boot config).database.getSession prev.id = some row := by
    have same : (diagnosed seen boot config).database.sessions = seen.sessions :=
      runDiagnosis_sessions ..
    rw [Database.getSession, same]
    exact found
  constructor
  · rintro ⟨⟨other, same, all⟩, -⟩
    rw [sessions] at same
    rwa [← Option.some.inj same, window] at all
  · intro all
    refine ⟨⟨row, sessions, window.symm ▸ all⟩, ?_⟩
    have last : lastMetricTimestamp (diagnosed seen boot config).database boot.bootTime =
        lastMetricTimestamp seen boot.bootTime :=
      lastMetricTimestamp_congr (runDiagnosis_metrics ..) (runDiagnosis_heartbeat ..) _
    have events : transitionEvents seen boot.toTransition config =
        seen.eventsBetween prev.row.bootTime (boot.bootTime + 120) := by
      rw [transitionEvents, transitionStart, start]
      rfl
    have cleanLate : (summarize (seen.eventsBetween prev.row.bootTime
        (boot.bootTime + 120))).cleanShutdown = clean := by
      have same := all.1.symm.trans stored
      exact flag_inj.mp (Option.some.inj same)
    have table : (diagnosed seen boot config).result.incident.map verdictOf = _ :=
      reported_eq seen boot.toTransition config true
    rw [events, returned] at table
    have same : (diagnosed seen boot config).boot = boot := rfl
    rw [window, cleanLate, same, last]
    exact table

/-! ## Evidence that is new -/

/-- The unread events bring no kind of evidence that the stored ones lack;
6008 adds nothing to a clean event and nothing to Kernel-Power 41. -/
structure NothingNew (stored unread : List EventRow) : Prop where
  clean : Holds unread .shutdownClean → Holds stored .shutdownClean
  kernelPower : Holds unread .kernelPower → Holds stored .kernelPower
  bugcheck : Holds unread .bugcheck → Holds stored .bugcheck
  unexpected : Holds unread .shutdownUnexpected →
    Holds stored .shutdownUnexpected ∨ Holds stored .shutdownClean ∨ Holds stored .kernelPower

theorem unexpectedEnd_summarize (events : List EventRow) :
    unexpectedEnd (summarize events) = true ↔ ¬ Holds events .shutdownClean ∧
      (Holds events .kernelPower ∨ Holds events .shutdownUnexpected) := by
  obtain ⟨clean, unexpected, kernelPower, -⟩ := summarize_flags events
  simp [unexpectedEnd, clean, unexpected, kernelPower]

/-- A row keeps telling the truth when events are added exactly when no flag
changes. -/
theorem storedAs_congr {stored all : List EventRow} {row : SessionRow}
    (early : StoredAs row (summarize stored)) :
    StoredAs row (summarize all) ↔
      (Holds stored .shutdownClean ↔ Holds all .shutdownClean) ∧
        (unexpectedEnd (summarize stored) = unexpectedEnd (summarize all)) ∧
        (Holds stored .kernelPower ↔ Holds all .kernelPower) ∧
        (Holds stored .bugcheck ↔ Holds all .bugcheck) := by
  obtain ⟨clean, unexpected, kernelPower, bugcheck⟩ := early
  obtain ⟨cleanEarly, -, powerEarly, bugEarly⟩ := summarize_flags stored
  obtain ⟨cleanLate, -, powerLate, bugLate⟩ := summarize_flags all
  rw [StoredAs, clean, unexpected, kernelPower, bugcheck]
  simp only [Option.some.injEq, flag_inj, cleanEarly, powerEarly, bugEarly, cleanLate, powerLate,
    bugLate, decide_eq_decide]

/-- What was stored about the early events holds of all events exactly when the
others bring nothing new. -/
theorem storedAs_all_iff {stored unread all : List EventRow} {row : SessionRow}
    (union : ∀ category, Holds all category ↔ Holds stored category ∨ Holds unread category)
    (early : StoredAs row (summarize stored)) :
    StoredAs row (summarize all) ↔ NothingNew stored unread := by
  rw [storedAs_congr early, Bool.eq_iff_iff, unexpectedEnd_summarize, unexpectedEnd_summarize]
  simp only [union]
  constructor
  · rintro ⟨clean, sameEnd, kernelPower, bugcheck⟩
    refine ⟨fun fresh => clean.mpr (.inr fresh), fun fresh => kernelPower.mpr (.inr fresh),
      fun fresh => bugcheck.mpr (.inr fresh), fun fresh => ?_⟩
    by_contra unknown
    rw [not_or, not_or] at unknown
    obtain ⟨noUnexpected, noClean, noKernelPower⟩ := unknown
    have stillUnclean := clean.not.mp noClean
    have ended := sameEnd.mpr ⟨stillUnclean, .inr (.inr fresh)⟩
    exact ended.2.elim noKernelPower noUnexpected
  · rintro ⟨clean, kernelPower, bugcheck, unexpected⟩
    refine ⟨(or_iff_left_of_imp clean).symm, ?_, (or_iff_left_of_imp kernelPower).symm,
      (or_iff_left_of_imp bugcheck).symm⟩
    rw [or_iff_left_of_imp clean, or_iff_left_of_imp kernelPower]
    refine and_congr_right fun unclean => ⟨Or.imp_right .inl, fun late => ?_⟩
    rcases late with power | known | fresh
    · exact .inl power
    · exact .inr known
    · rcases unexpected fresh with known | clean | power
      · exact .inr known
      · exact absurd clean unclean
      · exact .inl power

/-! ## The two orders -/

/-- The startup with the event log read first. -/
def ingestFirst (db : Database) (config : Config) (inputs : StartInputs) (sessionId : ℕ) :
    StartupOutcome :=
  let db := collect db "System" inputs.log sessionId
  let (db, boot) := detectBoot db inputs.now inputs.bootTime
  diagnosed db boot config

/-- **With the log read first, the verdict rests on all events.** -/
theorem ingestFirst_fromAllEvents {db : Database} (reboot : Reboot db) (config : Config)
    (inputs : StartInputs) (boots : inputs.bootTime = reboot.bootTime) (sessionId : ℕ) :
    (ingestFirst db config inputs sessionId).FromAllEvents reboot.prev config := by
  have latest : (collect db "System" inputs.log sessionId).latestSession = some reboot.prev := by
    rw [Database.latestSession, collect_sessions]
    exact reboot.latest
  let after : Reboot (collect db "System" inputs.log sessionId) :=
    { reboot with latest := latest }
  rw [ingestFirst, boots]
  have returned := after.detectBoot_transition inputs.now
  refine (fromAllEvents_iff config (congrArg Transition.previousBootTime returned)
    (congrArg Transition.previousSessionClean returned) (after.getSession_after inputs.now)
    rfl).mpr ?_
  have window : (after.booted inputs.now).eventsBetween after.prev.row.bootTime
      (after.bootTime + 120) = after.window :=
    Database.eventsBetween_congr (after.booted_events inputs.now) _ _
  have bootTime := congrArg Transition.bootTime returned
  have stored := after.finalisedRow_storedAs
  rw [Reboot.summary, ← window] at stored
  exact bootTime ▸ stored

/-- The unread events of the window, as the startup stores them. -/
def unreadInWindow {db : Database} (reboot : Reboot db) (results : List ReadResult) :
    List EventRow :=
  ((unreadEvents db "System" results).map (Database.eventRow (db.sessions.seq + 1))).filter
    fun event => reboot.prev.row.bootTime ≤ event.timestamp ∧
      event.timestamp ≤ reboot.bootTime + 120

theorem holds_insertEvents (db : Database) (rows : List Event) (sessionId : ℕ)
    (start stop : Epoch) (category : Category) :
    Holds ((db.insertEvents rows sessionId).eventsBetween start stop) category ↔
      Holds (db.eventsBetween start stop) category ∨
        Holds ((rows.map (Database.eventRow sessionId)).filter fun event =>
          start ≤ event.timestamp ∧ event.timestamp ≤ stop) category := by
  simp only [Holds, Database.mem_eventsBetween, Database.insertEvents, AutoTable.rows_insertAll,
    List.mem_append, List.mem_filter, decide_eq_true_eq]
  constructor
  · rintro ⟨event, ⟨old | new, inside⟩, same⟩
    · exact .inl ⟨event, ⟨old, inside⟩, same⟩
    · exact .inr ⟨event, ⟨new, inside⟩, same⟩
  · rintro (⟨event, ⟨old, inside⟩, same⟩ | ⟨event, ⟨new, inside⟩, same⟩)
    · exact ⟨event, ⟨.inl old, inside⟩, same⟩
    · exact ⟨event, ⟨.inr new, inside⟩, same⟩

/-- Boot detection leaves the cursor of the collector alone. -/
theorem unreadEvents_detectBoot (db : Database) (now bootTime : Epoch) (channel : String)
    (results : List ReadResult) :
    unreadEvents (detectBoot db now bootTime).1 channel results =
      unreadEvents db channel results := by
  have state : (detectBoot db now bootTime).1.agentState = db.agentState :=
    detectBoot_unchanged (·.agentState) (fun _ _ _ previous => by cases previous <;> rfl)
      (fun _ _ _ => rfl) db now bootTime
  simp only [unreadEvents, unreadRecords, lastId, lastTs, Database.getState, state]

/-- The window at the end of the startup holds what was stored and what was
unread. -/
theorem holds_startup_iff {db : Database} (reboot : Reboot db) (now : Epoch)
    (results : List ReadResult) (category : Category) :
    Holds ((collect (reboot.booted now) "System" (some results)
        (db.sessions.seq + 1)).eventsBetween reboot.prev.row.bootTime (reboot.bootTime + 120))
        category ↔
      Holds reboot.window category ∨ Holds (unreadInWindow reboot results) category := by
  have unread : unreadEvents (reboot.booted now) "System" results =
      unreadEvents db "System" results := unreadEvents_detectBoot ..
  have all := collect_events (reboot.booted now) "System" results (db.sessions.seq + 1)
  have early := Database.eventsBetween_congr (reboot.booted_events now)
    reboot.prev.row.bootTime (reboot.bootTime + 120)
  rw [unread] at all
  rw [Database.eventsBetween_congr all, holds_insertEvents, early]
  rfl

/-- **The verdict of a startup rests on all events of the window exactly when
the unread ones bring nothing new.** -/
theorem startup_fromAllEvents_iff {db : Database} (reboot : Reboot db) (config : Config)
    (inputs : StartInputs) (results : List ReadResult)
    (boots : inputs.bootTime = reboot.bootTime) (log : inputs.log = some results) :
    (startupAnalysis db config inputs).FromAllEvents reboot.prev config ↔
      NothingNew reboot.window (unreadInWindow reboot results) := by
  let seen := collect (reboot.booted inputs.now) "System" (some results) (db.sessions.seq + 1)
  have startup : startupAnalysis db config inputs =
      diagnosed seen (detectBoot db inputs.now reboot.bootTime).2 config := by
    have opened : (detectBoot db inputs.now reboot.bootTime).2.sessionId =
        db.sessions.seq + 1 := by
      rw [reboot.detectBoot_result]
      rfl
    rw [startupAnalysis_eq, boots, log, opened]
    rfl
  have returned := reboot.detectBoot_transition inputs.now
  have found : seen.getSession reboot.prev.id = some reboot.finalisedRow :=
    reboot.getSession_later (collect_sessions ..)
  rw [startup, fromAllEvents_iff config (congrArg Transition.previousBootTime returned)
    (congrArg Transition.previousSessionClean returned) found rfl]
  have bootTime := congrArg Transition.bootTime returned
  rw [show (detectBoot db inputs.now reboot.bootTime).2.bootTime = reboot.bootTime from bootTime]
  exact storedAs_all_iff (holds_startup_iff reboot inputs.now results)
    reboot.finalisedRow_storedAs

/-- A startup at 2000 with the given unread records, newest first. -/
def startAt2000 (records : List LogRecord) : StartInputs where
  now := 2000
  psutilBootTime := some 2000
  log := some [.batch records]

/-- A second copy of an event that is stored brings nothing new. -/
theorem startup_fromAllEvents_repeated :
    (startupAnalysis (oneSession [kernelPower41 2000]) {} (startAt2000
      [{ timeGenerated := 2000, sourceName := some "Kernel-Power", eventId := some 41 }])
      ).FromAllEvents ⟨1, { bootTime := 1000, createdAt := 1000 }⟩ {} :=
  (startup_fromAllEvents_iff (oneSession.reboot [kernelPower41 2000] 2000 (by decide +kernel)) {}
    (startAt2000 [{ timeGenerated := 2000, sourceName := some "Kernel-Power", eventId := some 41 }])
    _ rfl rfl).mpr
    ⟨by decide +kernel, by decide +kernel, by decide +kernel, by decide +kernel⟩

/-- A shutdown that is still unread at the startup leaves the session marked
unclean, though the window holds its event at the end. -/
theorem shutdown_read_too_late :
    let outcome := startupAnalysis (oneSession []) {} (startAt2000
      [{ timeGenerated := 1990, sourceName := some "User32", eventId := some 1074 }])
    let prev : Entry SessionRow := ⟨1, { bootTime := 1000, createdAt := 1000 }⟩
    (outcome.database.getSession 1).bind SessionRow.previousSessionClean = some 0 ∧
      (summarize (outcome.finalWindow prev)).cleanShutdown = true ∧
      ¬ outcome.FromAllEvents prev {} := by
  intro outcome prev
  have marked : (outcome.database.getSession 1).bind SessionRow.previousSessionClean = some 0 := by
    decide +kernel
  have shutDown : (summarize (outcome.finalWindow prev)).cleanShutdown = true := by
    decide +kernel
  refine ⟨marked, shutDown, fun fromAll => ?_⟩
  obtain ⟨row, found, clean, -⟩ := fromAll.stored
  rw [shutDown] at clean
  have stored := (congrArg (·.bind SessionRow.previousSessionClean) found).symm.trans marked
  exact absurd (clean.symm.trans stored) (by decide)

end Agent

end PcDiagnosticAgent
