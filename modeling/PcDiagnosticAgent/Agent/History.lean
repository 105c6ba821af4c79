import PcDiagnosticAgent.Agent.AppendedSessions

/-!
# The history of a database

What processes of the agent did to one database since it was created: each
detects the boot, may die between two of its commits, and else works under the
session it was given and diagnoses the boot it detected, as often and in whatever
order. Services and their restarts have such a history (`lives_written`).

No table declares a foreign key. All the same every event and every metric row
belongs to a stored session, every finding to a stored incident, every incident
names no session or a stored one, and every session that names a previous boot
follows the session of that boot (`references_resolve`).
-/

set_option autoImplicit false

namespace PcDiagnosticAgent

open AutoTables EventAnalyzer BootDetector Diagnosis WindowsEvents Retention

/-! ## Processes -/

namespace Agent

/-- The database and the boot that the running process has detected. -/
structure Process where
  database : Database
  boot : Option BootResult

/-- What a process of the agent does next. A boot detection either returns or
dies after some of its commits. -/
inductive Write where
  | start (now bootTime : Epoch)
  | interruptedStart (done : ℕ) (now bootTime : Epoch)
  | operate (op : Operation)
  | diagnose (config : Config)

def Process.step (process : Process) : Write → Process
  | .start now bootTime =>
    let (db, boot) := detectBoot process.database now bootTime
    { database := db, boot := some boot }
  | .interruptedStart done now bootTime =>
    { database := interruptedBoot process.database now bootTime done, boot := none }
  | .operate op => { process with database := op.apply process.database }
  | .diagnose config =>
    match process.boot with
    | none => process
    | some boot =>
      { process with
        database := (runDiagnosis process.database boot.toTransition config true).1 }

/-- The rows an operation writes belong to the session. -/
def Operation.InSession (sessionId : ℕ) : Operation → Prop
  | .collect _ id => id = sessionId
  | .insertEvents _ id => id = sessionId
  | .insertSnapshot _ _ id => id = sessionId
  | _ => True

instance (sessionId : ℕ) (op : Operation) : Decidable (op.InSession sessionId) := by
  unfold Operation.InSession
  split <;> infer_instance

instance (op : Operation) : Decidable op.Background := by
  unfold Operation.Background
  split <;> infer_instance

/-- A process works in the background of its own session. -/
def Process.Allows (process : Process) : Write → Prop
  | .operate op => op.Background ∧ ∃ boot ∈ process.boot, op.InSession boot.sessionId
  | _ => True

instance (process : Process) (write : Write) : Decidable (process.Allows write) := by
  unfold Process.Allows
  split <;> infer_instance

/-- The new database. -/
def Process.created : Process := ⟨.empty, none⟩

/-- The writes of processes, from the creation of the database. -/
def Writes (writes : List Write) : Prop :=
  Runs.Guarded Process.step Process.Allows .created writes

instance (writes : List Write) : Decidable (Writes writes) :=
  inferInstanceAs (Decidable (Runs.Guarded _ _ _ _))

def written (writes : List Write) : Process := Runs.run Process.step .created writes

/-- The database after a step: a boot detection or a part of it, background work
in the session of the boot, nothing, or one more incident for the boot. -/
inductive Steps (process : Process) (write : Write) : Database → Prop
  | opened {bootTime : Epoch} {later : Database}
      (opened : Opened process.database bootTime later) : Steps process write later
  | worked {op : Operation} {boot : BootResult} (known : process.boot = some boot)
      (background : op.Background) (inSession : op.InSession boot.sessionId) :
      Steps process write (op.apply process.database)
  | kept : Steps process write process.database
  | raised {boot : BootResult} {config : Config} {incident : Incident}
      (asked : write = .diagnose config) (known : process.boot = some boot)
      (found : (diagnose process.database boot.toTransition config).incident = some incident) :
      Steps process write (process.database.createIncident incident
        (diagnose process.database boot.toTransition config).findings).1

/-- **What one step does to the database.** -/
theorem Process.step_database {process : Process} {write : Write} (allowed : process.Allows write) :
    Steps process write (process.step write).database := by
  cases write with
  | start now bootTime => exact .opened (detectBoot_isOpened ..)
  | interruptedStart done now bootTime => exact .opened (interruptedBoot_opened ..)
  | operate op =>
    obtain ⟨background, boot, known, inSession⟩ := allowed
    exact .worked known background inSession
  | diagnose config =>
    simp only [Process.step]
    cases known : process.boot with
    | none => exact .kept
    | some boot =>
      simp only [runDiagnosis]
      split
      · exact .kept
      · rename_i incident found
        split
        · exact .raised rfl known found
        · exact .kept

/-- A background operation adds events and metrics of its session only. -/
theorem Operation.apply_rows {op : Operation} {sessionId : ℕ} (background : op.Background)
    (inSession : op.InSession sessionId) (db : Database) :
    (∀ entry ∈ (op.apply db).events.entries,
        entry ∈ db.events.entries ∨ entry.row.sessionId = sessionId) ∧
      ∀ table, ∀ row ∈ (op.apply db).metrics table,
        row ∈ db.metrics table ∨ row.sessionId = sessionId := by
  have inserted : ∀ rows : List Event, ∀ entry ∈ (db.insertEvents rows sessionId).events.entries,
      entry ∈ db.events.entries ∨ entry.row.sessionId = sessionId := by
    intro rows entry member
    refine (AutoTable.mem_insertAll member).imp_right fun added => ?_
    obtain ⟨event, -, row⟩ := List.mem_map.mp added
    rw [← row]
    rfl
  cases op with
  | detectBoot now bootTime => exact background.elim
  | runDiagnosis transition config => exact background.elim
  | collect log id =>
    obtain rfl : id = sessionId := inSession
    constructor
    · cases log with
      | none => exact fun entry member => .inl member
      | some results =>
        intro entry member
        rw [Operation.apply, collect_events] at member
        exact inserted _ entry member
    · intro table row member
      have same := collect_unchanged (·.metrics) (fun _ _ => rfl) (fun _ _ => rfl) db "System"
        log id
      exact .inl (same ▸ member)
  | insertEvents rows id =>
    obtain rfl : id = sessionId := inSession
    exact ⟨inserted rows, fun table row member => .inl member⟩
  | insertSnapshot snapshot timestamp id =>
    obtain rfl : id = sessionId := inSession
    constructor
    · intro entry member
      exact .inl (Database.insertSnapshot_events db snapshot timestamp id ▸ member)
    · intro table row member
      exact (Database.mem_insertSnapshot member).imp_right And.right
  | updateHeartbeat timestamp =>
    exact ⟨fun entry member => .inl member, fun table row member => .inl member⟩
  | setState key value =>
    exact ⟨fun entry member => .inl member, fun table row member => .inl member⟩
  | pruneMetrics now retentionHours =>
    constructor
    · intro entry member
      have same := pruneMetrics_unchanged (·.events) (fun _ _ => rfl) db now retentionHours
      exact .inl (same ▸ member)
    · intro table row member
      exact .inl (pruneMetrics_subset member)

section Frames

variable {op : Operation} (background : op.Background) (db : Database)

include background

theorem Operation.Background.sessions : (op.apply db).sessions = db.sessions :=
  Operation.Background.unchanged (·.sessions) (fun _ _ => rfl) (fun _ _ => rfl)
    (fun _ _ => rfl) (fun _ _ => rfl) db op background

theorem Operation.Background.incidents : (op.apply db).incidents = db.incidents :=
  Operation.Background.unchanged (·.incidents) (fun _ _ => rfl) (fun _ _ => rfl)
    (fun _ _ => rfl) (fun _ _ => rfl) db op background

theorem Operation.Background.findings : (op.apply db).findings = db.findings :=
  Operation.Background.unchanged (·.findings) (fun _ _ => rfl) (fun _ _ => rfl)
    (fun _ _ => rfl) (fun _ _ => rfl) db op background

end Frames

/-- Every step only appends sessions and events. -/
theorem Steps.grows {process : Process} {write : Write} {later : Database}
    (steps : Steps process write later) : Grows process.database later := by
  cases steps with
  | opened opened => exact opened.appends
  | worked known background inSession =>
    constructor
    · have same : (Operation.apply process.database _).sessionKeys = process.database.sessionKeys :=
        congrArg (fun table => table.entries.map sessionKey) (background.sessions process.database)
      exact same.symm ▸ List.prefix_rfl
    · exact fun entry member => Operation.apply_events member
  | kept => exact ⟨List.prefix_rfl, fun entry member => member⟩
  | raised asked known found => exact ⟨List.prefix_rfl, fun entry member => member⟩

/-! ## References -/

/-- A session with the given id is stored. -/
def StoredSession (db : Database) (id : ℕ) : Prop :=
  ∃ session ∈ db.sessions.entries, session.id = id

theorem StoredSession.extend {db later : Database} {id : ℕ} (stored : StoredSession db id)
    (grows : Grows db later) : StoredSession later id := by
  obtain ⟨session, member, rfl⟩ := stored
  obtain ⟨same, kept, key, -⟩ := grows.session member
  exact ⟨same, kept, congrArg SessionKey.id key⟩

/-- Every reference between rows leads to a stored row. -/
structure Resolves (db : Database) : Prop where
  events : ∀ entry ∈ db.events.entries, StoredSession db entry.row.sessionId
  metrics : ∀ table, ∀ row ∈ db.metrics table, StoredSession db row.sessionId
  findings : ∀ finding ∈ db.findings.entries,
    ∃ incident ∈ db.incidents.entries, incident.id = finding.row.incidentId
  incidents : ∀ incident ∈ db.incidents.entries, ∀ id ∈ incident.row.previousSessionId,
    StoredSession db id
  links : ∀ session ∈ db.sessions.entries, ∀ time ∈ session.row.previousBootTime,
    ∃ before, db.earlierSession session.id = some before ∧ before.row.bootTime = time

/-- The session before another one is stored. -/
theorem storedSession_earlier {db : Database} {id previous : ℕ}
    (before : (db.earlierSession id).map Entry.id = some previous) : StoredSession db previous := by
  obtain ⟨session, found, rfl⟩ := Option.map_eq_some_iff.mp before
  exact ⟨session, (List.mem_filter.mp (List.mem_of_getLast? found)).1, rfl⟩

/-- An incident repeats the boot and the previous session it was diagnosed for,
and lists the findings that are stored with it. -/
theorem diagnose_repeats {db : Database} {transition : Transition} {config : Config}
    {incident : Incident} (found : (diagnose db transition config).incident = some incident) :
    incident.detectedAt = transition.bootTime ∧ incident.rebootTimestamp = transition.bootTime ∧
      incident.previousSessionId = transition.previousSessionId ∧
      incident.findings = (diagnose db transition config).findings.map Finding.type := by
  simp only [diagnose] at found ⊢
  split at found
  · rename_i reports
    rw [← Option.some.inj found, if_pos reports]
    exact ⟨rfl, rfl, rfl, rfl⟩
  · cases found

namespace Resolves

variable {db : Database} (resolves : Resolves db)

theorem empty : Resolves .empty where
  events _ member := absurd member List.not_mem_nil
  metrics _ _ member := absurd member List.not_mem_nil
  findings _ member := absurd member List.not_mem_nil
  incidents _ member := absurd member List.not_mem_nil
  links _ member := absurd member List.not_mem_nil

include resolves

/-- The links as facts about the keys. -/
theorem key_links {key : SessionKey} (member : key ∈ db.sessionKeys) {time : Epoch}
    (linked : time ∈ key.previousBootTime) :
    ∃ before, keyBefore db.sessionKeys key.id = some before ∧ before.bootTime = time := by
  obtain ⟨session, stored, rfl⟩ := List.mem_map.mp member
  obtain ⟨before, found, booted⟩ := resolves.links session stored time linked
  refine ⟨sessionKey before, ?_, booted⟩
  rw [← earlierSession_key]
  exact congrArg (Option.map sessionKey) found

/-- A new session is linked to the latest one before it. -/
theorem links_opened {bootTime : Epoch} {later : Database} (opened : Opened db bootTime later) :
    ∀ session ∈ later.sessions.entries, ∀ time ∈ session.row.previousBootTime,
      ∃ before, later.earlierSession session.id = some before ∧ before.row.bootTime = time := by
  have grows := opened.appends
  intro session member time linked
  have found : ∃ before, keyBefore later.sessionKeys session.id = some before ∧
      before.bootTime = time := by
    by_cases old : sessionKey session ∈ db.sessionKeys
    · rw [show session.id = (sessionKey session).id from rfl, grows.keyBefore old]
      exact resolves.key_links old linked
    · rcases opened.sessions with same | ⟨link, added, linkedLatest⟩
      · exact absurd (same ▸ mem_sessionKeys member) old
      · have new : sessionKey session = ⟨db.sessions.seq + 1, bootTime, link⟩ := by
          have either := mem_sessionKeys member
          rw [added, List.mem_append, List.mem_singleton] at either
          exact either.resolve_left old
        obtain ⟨id, -, sameLink⟩ := SessionKey.mk.inj new
        obtain ⟨latest, newest, booted⟩ := linkedLatest time (sameLink ▸ linked)
        refine ⟨sessionKey latest, ?_, booted⟩
        have below : keyBefore db.sessionKeys (db.sessions.seq + 1) =
            db.latestSession.map sessionKey := by
          have all : db.sessionKeys.filter (fun key => decide (key.id < db.sessions.seq + 1)) =
              db.sessionKeys := by
            refine List.filter_eq_self.mpr fun key stored => ?_
            obtain ⟨other, assigned, rfl⟩ := List.mem_map.mp stored
            exact decide_eq_true (Nat.lt_succ_of_le (db.sessions.assigned other assigned).2)
          rw [keyBefore, all, Database.sessionKeys, List.getLast?_map]
          rfl
        rw [id, added, keyBefore_append (by simp), below, newest]
        rfl
  obtain ⟨before, isBefore, booted⟩ := found
  rw [← earlierSession_key] at isBefore
  obtain ⟨entry, earlier, rfl⟩ := Option.map_eq_some_iff.mp isBefore
  exact ⟨entry, earlier, booted⟩

end Resolves

/-- What is known of the boot stays known, or a new boot is detected. -/
structure Sound (process : Process) : Prop where
  known : ∀ boot, process.boot = some boot → Known process.database boot
  resolves : Resolves process.database

theorem Resolves.step {process : Process} {write : Write} {later : Database}
    (sound : Sound process) (steps : Steps process write later) : Resolves later := by
  have grows := steps.grows
  obtain ⟨known, resolves⟩ := sound
  cases steps with
  | opened opened =>
    have links := resolves.links_opened opened
    rw [opened.rest] at grows links ⊢
    exact ⟨fun entry member => (resolves.events entry member).extend grows,
      fun table row member => (resolves.metrics table row member).extend grows,
      resolves.findings,
      fun incident member id previous =>
        (resolves.incidents incident member id previous).extend grows, links⟩
  | worked isBoot background inSession =>
    obtain ⟨⟨session, member, id, -⟩, -⟩ := known _ isBoot
    obtain ⟨events, metrics⟩ := Operation.apply_rows background inSession process.database
    have own : StoredSession process.database _ := ⟨session, member, id⟩
    refine ⟨fun entry stored => ?_, fun table row stored => ?_, ?_, ?_, ?_⟩
    · rcases events entry stored with old | new
      · exact (resolves.events entry old).extend grows
      · exact (new ▸ own).extend grows
    · rcases metrics table row stored with old | new
      · exact (resolves.metrics table row old).extend grows
      · exact (new ▸ own).extend grows
    · rw [background.findings, background.incidents]
      exact resolves.findings
    · rw [background.incidents]
      exact fun incident stored id previous =>
        (resolves.incidents incident stored id previous).extend grows
    · simp only [Database.earlierSession, background.sessions]
      exact resolves.links
  | kept => exact resolves
  | raised asked isBoot found =>
    refine ⟨resolves.events, resolves.metrics, fun finding member => ?_, fun incident member => ?_,
      resolves.links⟩
    · rcases AutoTable.mem_insertAll member with old | new
      · obtain ⟨incident, stored, id⟩ := resolves.findings finding old
        exact ⟨incident, List.mem_append_left _ stored, id⟩
      · obtain ⟨_, -, row⟩ := List.mem_map.mp new
        refine ⟨_, List.mem_append_right _ (List.mem_singleton_self _), ?_⟩
        rw [← row]
    · rcases List.mem_append.mp member with old | new
      · exact resolves.incidents incident old
      · obtain ⟨-, -, previous, -⟩ := diagnose_repeats found
        rw [List.mem_singleton.mp new]
        intro id named
        refine storedSession_earlier ((known _ isBoot).previous.trans ?_)
        exact previous.symm.trans named

theorem Sound.step {process : Process} {write : Write} (sound : Sound process)
    (allowed : process.Allows write) : Sound (process.step write) := by
  have steps := process.step_database allowed
  refine ⟨fun boot isBoot => ?_, Resolves.step sound steps⟩
  cases write with
  | start now bootTime =>
    rw [← Option.some.inj isBoot]
    exact known_detectBoot ..
  | interruptedStart done now bootTime => cases isBoot
  | operate op => exact (sound.known boot isBoot).extend steps.grows
  | diagnose config =>
    refine (sound.known boot ?_).extend steps.grows
    rw [← isBoot, Process.step]
    cases same : process.boot with
    | none => exact same.symm
    | some earlier => rfl

theorem Sound.created : Sound .created := ⟨nofun, .empty⟩

theorem sound_written {writes : List Write} (allowed : Writes writes) : Sound (written writes) :=
  Runs.Guarded.invariant Sound (fun _ _ legal sound => sound.step legal) allowed .created

/-- **Whatever processes did to a database, and wherever they died, every event
and metric row belongs to a stored session, every finding to a stored incident,
every incident names no session or a stored one, and a session with a previous boot
follows the session of that boot.** -/
theorem references_resolve (writes : List Write) (allowed : Writes writes) :
    Resolves (written writes).database :=
  (sound_written allowed).resolves

/-- A start that dies after its first commit, the same start again, and a boot
that crashed. -/
theorem references_resolve_crash :
    Resolves (written [.interruptedStart 1 1000 1000, .start 1001 1000,
      .operate (.insertEvents [kernelPower41 2000] 1), .start 2001 2000, .diagnose {},
      .operate (.updateHeartbeat 2010)]).database :=
  references_resolve _ (by decide +kernel)

/-! ## Services -/

/-- One process can become another one by its writes. -/
def Reaches (process later : Process) : Prop :=
  ∃ writes, Runs.Guarded Process.step Process.Allows process writes ∧
    Runs.run Process.step process writes = later

theorem Reaches.refl (process : Process) : Reaches process process := ⟨[], trivial, rfl⟩

theorem Reaches.trans {first second third : Process} (before : Reaches first second)
    (after : Reaches second third) : Reaches first third := by
  obtain ⟨writes, allowed, rfl⟩ := before
  obtain ⟨more, allowedMore, rfl⟩ := after
  exact ⟨writes ++ more, Runs.guarded_append.mpr ⟨allowed, allowedMore⟩, Runs.run_append ..⟩

/-- Background operations of the session, one after the other. -/
theorem reaches_operations {boot : BootResult} {ops : List Operation}
    (own : ∀ op ∈ ops, op.Background ∧ op.InSession boot.sessionId) (db : Database) :
    Reaches ⟨db, some boot⟩ ⟨applyAll db ops, some boot⟩ := by
  induction ops generalizing db with
  | nil => exact .refl _
  | cons op ops ih =>
    obtain ⟨background, inSession⟩ := own op List.mem_cons_self
    refine Reaches.trans ⟨[.operate op], ⟨⟨background, boot, rfl, inSession⟩, trivial⟩, rfl⟩ ?_
    exact ih (fun other member => own other (List.mem_cons_of_mem _ member)) _

/-- The process of a service. -/
def Service.RunsAs (service : Service) (process : Process) : Prop :=
  process.database = service.database ∧
    ∃ boot, process.boot = some boot ∧ boot.sessionId = service.sessionId

/-- **A start of the service is a boot detection, a run of the collector and a
diagnosis.** -/
theorem startService_reached (config : Config) (process : Process) (inputs : StartInputs) :
    ∃ started, Reaches process started ∧
      (startService config process.database inputs).RunsAs started := by
  let detected := detectBoot process.database inputs.now inputs.bootTime
  let writes : List Write := [.start inputs.now inputs.bootTime,
    .operate (.collect inputs.log detected.2.sessionId), .diagnose config]
  refine ⟨Runs.run Process.step process writes, ⟨writes, ?_, rfl⟩, rfl, detected.2, rfl, rfl⟩
  exact ⟨trivial, ⟨trivial, detected.2, rfl, rfl⟩, trivial, trivial⟩

/-- **A step of a service is a run of writes.** -/
theorem Service.step_reached {config : Config} {service : Service} {process : Process}
    (runs : service.RunsAs process) (step : SessionStep) :
    ∃ later, Reaches process later ∧ (service.step config step).RunsAs later := by
  obtain ⟨db, boot⟩ := process
  obtain ⟨rfl, boot, rfl, session⟩ := runs
  cases step with
  | collectHigh answers now =>
    have own : ∀ op ∈ highOperations answers now service.sessionId,
        op.Background ∧ op.InSession boot.sessionId := by
      intro op member
      simp only [highOperations, List.mem_cons, List.not_mem_nil, or_false] at member
      rcases member with rfl | rfl
      · exact ⟨trivial, session.symm⟩
      · exact ⟨trivial, trivial⟩
    exact ⟨_, reaches_operations own _, rfl, boot, rfl, session⟩
  | collectLow answers now =>
    have own : ∀ op ∈ lowOperations config service.lastRetention answers now service.sessionId,
        op.Background ∧ op.InSession boot.sessionId := by
      intro op member
      simp only [lowOperations, List.mem_append, List.mem_cons, List.not_mem_nil,
        or_false] at member
      rcases member with (rfl | rfl) | pruned
      · exact ⟨trivial, session.symm⟩
      · exact ⟨trivial, session.symm⟩
      · split at pruned
        · rw [List.mem_singleton.mp pruned]
          exact ⟨trivial, trivial⟩
        · cases pruned
    have written := collectLow_eq config service.toScheduler answers now service.sessionId
    exact ⟨_, reaches_operations own _, written.symm, boot, rfl, session⟩
  | restart inputs => exact startService_reached config ⟨service.database, some boot⟩ inputs

/-- One life of a service: what it finds at its start, and its steps until it
ends. -/
structure Life where
  config : Config
  inputs : StartInputs
  steps : List SessionStep

def Life.leaves (db : Database) (life : Life) : Database :=
  ((startService life.config db life.inputs).run life.config life.steps).database

/-- **The lives of services, one after the other, are writes of processes.** -/
theorem lives_written (lives : List Life) :
    ∃ writes, Writes writes ∧ (written writes).database = Runs.run Life.leaves .empty lives := by
  have service : ∀ (config : Config) (steps : List SessionStep) (service : Service)
      (process : Process), service.RunsAs process → ∃ later, Reaches process later ∧
        (service.run config steps).RunsAs later := by
    intro config steps
    induction steps with
    | nil => exact fun service process runs => ⟨process, .refl _, runs⟩
    | cons step steps ih =>
      intro service process runs
      obtain ⟨next, reached, runsNext⟩ := Service.step_reached runs step
      obtain ⟨later, reachedLater, runsLater⟩ := ih _ next runsNext
      exact ⟨later, reached.trans reachedLater, runsLater⟩
  have all : ∀ process : Process, ∃ later, Reaches process later ∧
      later.database = Runs.run Life.leaves process.database lives := by
    induction lives with
    | nil => exact fun process => ⟨process, .refl _, rfl⟩
    | cons life lives ih =>
      intro process
      obtain ⟨started, reached, runs⟩ := startService_reached life.config process life.inputs
      obtain ⟨ended, reachedEnd, runsEnd⟩ := service life.config life.steps _ started runs
      obtain ⟨later, reachedLater, left⟩ := ih ended
      refine ⟨later, (reached.trans reachedEnd).trans reachedLater, left.trans ?_⟩
      rw [runsEnd.1]
      rfl
  obtain ⟨later, ⟨writes, allowed, reached⟩, left⟩ := all .created
  exact ⟨writes, allowed, (congrArg Process.database reached).trans left⟩

end Agent

end PcDiagnosticAgent
