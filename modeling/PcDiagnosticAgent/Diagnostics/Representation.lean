import PcDiagnosticAgent.Collectors.WindowsEvents
import PcDiagnosticAgent.Diagnostics.Reads

/-!
# The form of the stored events

The collectors insert events in different orders, and an id with high bits is
stored raw by one of them and reduced by another. Neither reaches the analysis:
the classifier reads the low 16 bits of an id, and of a window the engine keeps
counts and earliest times. Databases whose events differ in form only
(`DifferInForm`) give the same boot result, the same session rows and the same
diagnosis (`form_irrelevant`).
-/

set_option autoImplicit false

namespace PcDiagnosticAgent

open AutoTables EventAnalyzer BootDetector Diagnosis

namespace EventAnalyzer

/-- The event with its id reduced to the low 16 bits. -/
def normalised (event : EventRow) : EventRow := { event with eventId := eventId event }

@[simp] theorem normalised_timestamp (event : EventRow) :
    (normalised event).timestamp = event.timestamp := rfl

theorem eventId_normalised (event : EventRow) : eventId (normalised event) = eventId event := by
  simp only [normalised, eventId, Option.map_map]
  refine congrArg (Option.map · event.eventId) (funext fun raw => ?_)
  exact Int.emod_emod_of_dvd raw (dvd_refl 65536)

/-- The classifier does not see more of an id than its low 16 bits. -/
@[simp] theorem classifyEvent_normalised (event : EventRow) :
    classifyEvent (normalised event) = classifyEvent event := by
  simp only [classifyEvent, eventId_normalised]
  rfl

/-- An id that the collector reduced is read like the raw one. -/
theorem normalised_normalizeEventId (event : EventRow) :
    normalised { event with eventId := WindowsEvents.normalizeEventId event.eventId } =
      normalised event :=
  congrArg (fun id => { event with eventId := id }) (eventId_normalised event)

/-! ## Lists of events -/

/-- The same events up to their order and the form of their ids. -/
def SameEvents (first second : List EventRow) : Prop :=
  (first.map normalised).Perm (second.map normalised)

namespace SameEvents

variable {first second : List EventRow}

theorem filter (same : SameEvents first second) {keep : EventRow → Bool}
    (reads : ∀ event, keep (normalised event) = keep event) :
    SameEvents (first.filter keep) (second.filter keep) := by
  have mapped : ∀ events : List EventRow,
      (events.filter keep).map normalised = (events.map normalised).filter keep := by
    intro events
    rw [List.filter_map]
    exact congrArg (List.map normalised) (List.filter_congr fun event _ => (reads event).symm)
  rw [SameEvents, mapped, mapped]
  exact List.Perm.filter keep same

theorem insertionSort (same : SameEvents first second) {order : EventRow → EventRow → Prop}
    [DecidableRel order] : SameEvents (first.insertionSort order) (second.insertionSort order) :=
  (((List.perm_insertionSort order first).map normalised).trans same).trans
    ((List.perm_insertionSort order second).map normalised).symm

theorem length (same : SameEvents first second) : first.length = second.length := by
  simpa using List.Perm.length_eq same

theorem category (same : SameEvents first second) (category : Category) :
    SameEvents (first.filter (classifyEvent · = category))
      (second.filter (classifyEvent · = category)) :=
  same.filter fun event => by rw [classifyEvent_normalised]

theorem mem_timestamps (same : SameEvents first second) (time : Epoch) :
    time ∈ first.map (·.timestamp) ↔ time ∈ second.map (·.timestamp) := by
  have read : ∀ events : List EventRow,
      events.map (·.timestamp) = (events.map normalised).map (·.timestamp) := fun events => by
    rw [List.map_map]
    rfl
  rw [read first, read second]
  exact (List.Perm.map _ same).mem_iff

end SameEvents

end EventAnalyzer

/-- Lists with the same members have the same minimum. -/
theorem min?_congr {α : Type} [LinearOrder α] {first second : List α}
    (same : ∀ value, value ∈ first ↔ value ∈ second) : first.min? = second.min? := by
  refine Option.ext fun best => ?_
  rw [List.min?_eq_some_iff, List.min?_eq_some_iff]
  simp only [same]

namespace EventAnalyzer.SameEvents

variable {first second : List EventRow}

theorem firstTs (same : SameEvents first second) :
    Diagnosis.firstTs first = Diagnosis.firstTs second := by
  refine min?_congr fun time => ?_
  simp only [List.mem_filter, same.mem_timestamps]

/-- The engine does not tell the two lists apart. -/
theorem alike (same : SameEvents first second) : Alike first second where
  counts := by
    funext category
    exact (counts_tally first category).trans
      ((same.category category).length.trans (counts_tally second category).symm)
  earliest category := by
    rw [byCategory_tally, byCategory_tally]
    exact (same.category category).firstTs

end EventAnalyzer.SameEvents

/-! ## Databases -/

/-- Two databases that differ in the order of their events and in the form of
the ids only. -/
structure DifferInForm (db other : Database) : Prop where
  sessions : db.sessions = other.sessions
  incidents : db.incidents = other.incidents
  findings : db.findings = other.findings
  metrics : db.metrics = other.metrics
  heartbeat : db.heartbeat = other.heartbeat
  events : SameEvents db.events.rows other.events.rows

namespace DifferInForm

variable {db other : Database}

theorem eventsBetween (differ : DifferInForm db other) (start stop : Epoch) :
    SameEvents (db.eventsBetween start stop) (other.eventsBetween start stop) :=
  (differ.events.filter fun _ => rfl).insertionSort

theorem count (differ : DifferInForm db other) (start stop : Epoch) (category : Category) :
    (tally (db.eventsBetween start stop)).counts category =
      (tally (other.eventsBetween start stop)).counts category :=
  (differ.eventsBetween start stop).alike.count category

theorem detectCrash (differ : DifferInForm db other) (start stop : Epoch)
    (clean : Option Bool) :
    detectCrash (summarize (db.eventsBetween start stop)) clean =
      detectCrash (summarize (other.eventsBetween start stop)) clean := by
  simp only [PcDiagnosticAgent.detectCrash, summarize, differ.count]

theorem sameReads (differ : DifferInForm db other) (transition : Transition) (config : Config) :
    SameReads db other transition config where
  signals := differ.detectCrash ..
  around := (differ.eventsBetween ..).alike
  last := lastMetricTimestamp_congr differ.metrics differ.heartbeat _
  maxima := by simp only [aggregates, maxOf, differ.metrics]

/-- A session is finalised with the same values. -/
theorem outcomeFields (differ : DifferInForm db other) (previousBootTime bootTime : Epoch)
    (uptime : ℚ) :
    outcomeFields (transitionSummary db previousBootTime bootTime) uptime =
      outcomeFields (transitionSummary other previousBootTime bootTime) uptime := by
  simp only [BootDetector.outcomeFields, transitionSummary, unexpectedEnd, summarize,
    differ.count]

theorem rebootResult (differ : DifferInForm db other) (prev : Entry SessionRow)
    (bootTime : Epoch) (sessionId : ℕ) :
    rebootResult prev (transitionSummary db prev.row.bootTime bootTime) bootTime sessionId =
      rebootResult prev (transitionSummary other prev.row.bootTime bootTime) bootTime
        sessionId := by
  simp only [BootDetector.rebootResult, transitionSummary, unexpectedEnd, summarize,
    differ.count]

end DifferInForm

/-- What `openSession` stores and answers depends on the sessions only. -/
theorem openSession_congr {db other : Database} (same : db.sessions = other.sessions)
    (bootTime now : Epoch) (previousBootTime : Option Epoch) :
    (openSession db bootTime now previousBootTime).1.sessions =
        (openSession other bootTime now previousBootTime).1.sessions ∧
      (openSession db bootTime now previousBootTime).2 =
        (openSession other bootTime now previousBootTime).2 := by
  cases previousBootTime <;>
    simp [openSession, Database.createSession, Database.updateSession, same]

/-- Boot detection stores the same rows and returns the same result. -/
theorem DifferInForm.detectBoot {db other : Database} (differ : DifferInForm db other)
    (now bootTime : Epoch) :
    (detectBoot db now bootTime).2 = (detectBoot other now bootTime).2 ∧
      (detectBoot db now bootTime).1.sessions = (detectBoot other now bootTime).1.sessions := by
  have latest : db.latestSession = other.latestSession := congrArg AutoTable.latest differ.sessions
  unfold BootDetector.detectBoot
  rw [latest]
  split
  · obtain ⟨rows, id⟩ := openSession_congr differ.sessions bootTime now none
    exact ⟨congrArg (unknownResult none bootTime) id, rows⟩
  · rename_i prev _
    split
    · have earlier : db.earlierSession prev.id = other.earlierSession prev.id :=
        congrArg (AutoTable.before · prev.id) differ.sessions
      exact ⟨by simp only [resumeSession, earlier], differ.sessions⟩
    · split
      · obtain ⟨rows, id⟩ :=
          openSession_congr differ.sessions bootTime now (some prev.row.bootTime)
        exact ⟨congrArg (unknownResult (some prev) bootTime) id, rows⟩
      · have finalised : (finaliseSession db prev bootTime).sessions =
            (finaliseSession other prev bootTime).sessions := by
          simp only [finaliseSession, Database.updateSession, differ.sessions,
            differ.outcomeFields]
        obtain ⟨rows, id⟩ :=
          openSession_congr finalised bootTime now (some prev.row.bootTime)
        refine ⟨?_, rows⟩
        simp only [differ.rebootResult, id]

/-- **The order of the events and the form of their ids reach neither the boot
result nor the session rows nor the diagnosis.** -/
theorem form_irrelevant (db other : Database) (differ : DifferInForm db other)
    (now bootTime : Epoch) (transition : Transition) (config : Config) (persist : Bool) :
    (detectBoot db now bootTime).2 = (detectBoot other now bootTime).2 ∧
      (detectBoot db now bootTime).1.sessions = (detectBoot other now bootTime).1.sessions ∧
      let first := runDiagnosis db transition config persist
      let second := runDiagnosis other transition config persist
      SameResult first.2 second.2 ∧ first.1.incidents = second.1.incidents ∧
        first.1.findings = second.1.findings := by
  obtain ⟨result, sessions⟩ := differ.detectBoot now bootTime
  refine ⟨result, sessions, ?_⟩
  exact (differ.sameReads transition config).runDiagnosis differ.incidents differ.findings persist

/-- 6006 as one reader stores it and as the other one does, in either order with
an older power loss. -/
theorem form_irrelevant_signed :
    let signed := { eventLog6006 2000 with eventId := some (-2147477642) }
    let booted := fun db => detectBoot db 3000 3000
    (booted (oneSession [signed, kernelPower41 1500])).2 =
        (booted (oneSession [kernelPower41 1500, eventLog6006 2000])).2 ∧
      (booted (oneSession [signed, kernelPower41 1500])).2.previousSessionClean = some true := by
  intro signed booted
  refine ⟨?_, by decide +kernel⟩
  have differ : DifferInForm (oneSession [signed, kernelPower41 1500])
      (oneSession [kernelPower41 1500, eventLog6006 2000]) := by
    refine ⟨rfl, rfl, rfl, rfl, rfl, ?_⟩
    exact List.Perm.swap _ _ []
  exact (form_irrelevant _ _ differ 3000 3000 ⟨3000, some 1000, some 1, some true⟩ {} true).1

end PcDiagnosticAgent
