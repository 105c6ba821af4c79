import PcDiagnosticAgent.Agent.History
import PcDiagnosticAgent.Storage.StoredRetention

/-!
# Histories on disk

The history of a database is made of the operations of the storage: a boot
detection, a collection and a diagnosis are each a list of typed writes, a boot
detection that is cut short is a part of its list, and pruning is the last kind of
action (`run_typedActions`). So when the connection gets arguments that mean these
writes, the rows on disk are the rows of the history, and what holds of every
history holds of the cells: every reference between rows leads to a row on disk
(`history_on_disk`).
-/

set_option autoImplicit false

namespace PcDiagnosticAgent

open AutoTables EventAnalyzer BootDetector Connection Diagnosis Transactions

namespace Agent

/-! ## The writes of a process -/

/-- The commits of a boot detection as writes. -/
def bootWrites (db : Database) (now bootTime : Epoch) : List TypedWrite :=
  match db.latestSession with
  | none => [.createSession bootTime now]
  | some prev =>
    if SameBoot prev bootTime then []
    else
      let opened : List TypedWrite := [.createSession bootTime now,
        .updateSession (db.sessions.seq + 1) { previousBootTime := some prev.row.bootTime }]
      if prev.row.bootTime = 0 then opened
      else .updateSession prev.id (outcomeFields (transitionSummary db prev.row.bootTime bootTime)
        (bootTime - prev.row.bootTime)) :: opened

def collectWrites (db : Database) (channel : String)
    (log : Option (List WindowsEvents.ReadResult)) (sessionId : ℕ) : List TypedWrite :=
  match log with
  | none => []
  | some results =>
    let records := WindowsEvents.unreadRecords db channel results
    if records = [] then []
    else
      [.insertEvents (records.map (WindowsEvents.eventOf channel)) sessionId,
        .setState (WindowsEvents.stateKeyId channel)
          (.int (records.foldl (fun best record => max best record.number)
            (WindowsEvents.lastId db channel))),
        .setState (WindowsEvents.stateKeyTs channel)
          (.float (records.foldl (fun best record => max best record.timeGenerated)
            (WindowsEvents.lastTs db channel)))]

def diagnosisWrites (db : Database) (transition : Transition) (config : Config) :
    List TypedWrite :=
  match (diagnose db transition config).incident with
  | none => []
  | some incident =>
    if !incidentExists db transition.previousSessionId transition.bootTime then
      [.createIncident incident (diagnose db transition config).findings]
    else []

def Operation.actions (op : Operation) (db : Database) : List TypedAction :=
  match op with
  | .detectBoot now bootTime => (bootWrites db now bootTime).map .write
  | .collect log sessionId => (collectWrites db "System" log sessionId).map .write
  | .insertEvents rows sessionId => [.write (.insertEvents rows sessionId)]
  | .insertSnapshot snapshot timestamp sessionId =>
    [.write (.insertSnapshot snapshot timestamp sessionId)]
  | .updateHeartbeat timestamp => [.write (.updateHeartbeat timestamp)]
  | .setState key value => [.write (.setState key value)]
  | .runDiagnosis transition config => (diagnosisWrites db transition config).map .write
  | .pruneMetrics now retentionHours => [.prune now retentionHours]

def Process.actions (process : Process) : Write → List TypedAction
  | .start now bootTime => (bootWrites process.database now bootTime).map .write
  | .interruptedStart done now bootTime =>
    ((bootWrites process.database now bootTime).take done).map .write
  | .operate op => op.actions process.database
  | .diagnose config =>
    match process.boot with
    | none => []
    | some boot => (diagnosisWrites process.database boot.toTransition config).map .write

/-- The actions of a history. -/
def typedActions (process : Process) : List Write → List TypedAction
  | [] => []
  | write :: writes => process.actions write ++ typedActions (process.step write) writes

/-! ## They are what happens to the database -/

theorem interruptedBoot_eq (db : Database) (now bootTime : Epoch) (done : ℕ) :
    interruptedBoot db now bootTime done =
      Runs.run TypedWrite.apply db ((bootWrites db now bootTime).take done) := by
  rw [interruptedBoot, commits, bootWrites]
  cases db.latestSession with
  | none =>
    rcases done with _ | done
    · rfl
    · simp only [List.take_succ_cons, List.take_nil]
      rfl
  | some prev =>
    simp only
    split
    · simp
    · split
      · rcases done with _ | _ | done
        · rfl
        · rfl
        · simp only [List.take_succ_cons, List.take_nil]
          rfl
      · rcases done with _ | _ | _ | done
        · rfl
        · rfl
        · rfl
        · simp only [List.take_succ_cons, List.take_nil]
          rfl

theorem detectBoot_eq (db : Database) (now bootTime : Epoch) :
    (detectBoot db now bootTime).1 = Runs.run TypedWrite.apply db (bootWrites db now bootTime) := by
  have few : (bootWrites db now bootTime).length ≤ (commits db now bootTime).length := by
    rw [commits, bootWrites]
    cases db.latestSession with
    | none => exact le_rfl
    | some prev =>
      simp only
      split
      · exact le_rfl
      · split <;> exact le_rfl
  have whole := interruptedBoot_eq db now bootTime (commits db now bootTime).length
  rw [List.take_of_length_le few, interruptedBoot, List.take_length] at whole
  rw [← commits_getLast? db now bootTime, whole]

theorem collect_eq (db : Database) (channel : String)
    (log : Option (List WindowsEvents.ReadResult)) (sessionId : ℕ) :
    WindowsEvents.collect db channel log sessionId =
      Runs.run TypedWrite.apply db (collectWrites db channel log sessionId) := by
  cases log with
  | none => rfl
  | some results =>
    simp only [WindowsEvents.collect, collectWrites]
    split <;> rfl

theorem runDiagnosis_eq (db : Database) (transition : Transition) (config : Config) :
    (runDiagnosis db transition config true).1 =
      Runs.run TypedWrite.apply db (diagnosisWrites db transition config) := by
  simp only [runDiagnosis, diagnosisWrites, Bool.true_and]
  cases (diagnose db transition config).incident with
  | none => rfl
  | some incident =>
    simp only
    split <;> rfl

theorem run_writes (db : Database) (writes : List TypedWrite) :
    Runs.run TypedAction.apply db (writes.map .write) = Runs.run TypedWrite.apply db writes := by
  rw [Runs.run, Runs.run, List.foldl_map]
  rfl

/-- Every step of a process is what its actions do. -/
theorem Process.step_eq (process : Process) (write : Write) :
    (process.step write).database =
      Runs.run TypedAction.apply process.database (process.actions write) := by
  cases write with
  | start now bootTime => exact (detectBoot_eq ..).trans (run_writes ..).symm
  | interruptedStart done now bootTime =>
    exact (interruptedBoot_eq ..).trans (run_writes ..).symm
  | diagnose config =>
    simp only [Process.step, Process.actions]
    cases process.boot with
    | none => rfl
    | some boot => exact (runDiagnosis_eq ..).trans (run_writes ..).symm
  | operate op =>
    cases op with
    | detectBoot now bootTime => exact (detectBoot_eq ..).trans (run_writes ..).symm
    | collect log sessionId => exact (collect_eq ..).trans (run_writes ..).symm
    | insertEvents rows sessionId => rfl
    | insertSnapshot snapshot timestamp sessionId => rfl
    | updateHeartbeat timestamp => rfl
    | setState key value => rfl
    | runDiagnosis transition config => exact (runDiagnosis_eq ..).trans (run_writes ..).symm
    | pruneMetrics now retentionHours => rfl

/-- **A history is the run of its actions.** -/
theorem run_typedActions (process : Process) (writes : List Write) :
    (Runs.run Process.step process writes).database =
      Runs.run TypedAction.apply process.database (typedActions process writes) := by
  induction writes generalizing process with
  | nil => rfl
  | cons write writes ih =>
    rw [Runs.run_cons, ih (process.step write), process.step_eq, typedActions, Runs.run_append]

/-! ## On disk -/

/-- The cell of the column is the id of a row of the table. -/
def Refers (disk : Store) (row : Row) (column : String) (table : TableName) : Prop :=
  ∃ entry ∈ (disk.rows table).entries,
    ((row.lookup column).getD .null).datum = some (.number entry.id)

/-- Every reference between the rows on disk leads to a row on disk. -/
structure ResolvesOnDisk (disk : Store) : Prop where
  events : ∀ row ∈ (disk.rows .events).rows, Refers disk row "session_id" .sessions
  metrics : ∀ table, ∀ row ∈ (disk.rows (.metric table)).rows,
    Refers disk row "session_id" .sessions
  findings : ∀ row ∈ (disk.rows .findings).rows, Refers disk row "incident_id" .incidents
  incidents : ∀ row ∈ (disk.rows .incidents).rows,
    ((row.lookup "previous_session_id").getD .null).datum = some .null ∨
      Refers disk row "previous_session_id" .sessions

section OnDisk

variable {stateText : StateValue → PyStr} {disk : Store} {db : Database}

theorem StoredSession.refers (represents : Represents stateText disk db) {id : ℕ}
    (stored : StoredSession db id) {row : Row} {column : String}
    (reads : ((row.lookup column).getD .null).datum = some (.number id)) :
    Refers disk row column .sessions := by
  obtain ⟨session, opened, rfl⟩ := stored
  obtain ⟨onDisk, found, sameId, -⟩ := represents.sessions.exists_entry opened
  exact ⟨onDisk, found, by rw [sameId]; exact reads⟩

/-- Cells that read as rows with references refer as these do. -/
theorem Resolves.onDisk (resolves : Resolves db) (represents : Represents stateText disk db) :
    ResolvesOnDisk disk where
  events row member := by
    obtain ⟨typed, isRow, reads⟩ := exists_right represents.events.rows member
    obtain ⟨entry, stored, rfl⟩ := List.mem_map.mp isRow
    exact (resolves.events entry stored).refers represents (reads "session_id")
  metrics table row member := by
    obtain ⟨typed, stored, reads⟩ := exists_right (represents.metrics table) member
    exact (resolves.metrics table typed stored).refers represents (reads "session_id")
  findings row member := by
    obtain ⟨typed, isRow, reads⟩ := exists_right represents.findings.rows member
    obtain ⟨entry, stored, rfl⟩ := List.mem_map.mp isRow
    obtain ⟨incident, raised, id⟩ := resolves.findings entry stored
    obtain ⟨onDisk, found, sameId, -⟩ := represents.incidents.exists_entry raised
    refine ⟨onDisk, found, (reads "incident_id").trans ?_⟩
    rw [sameId, id]
    rfl
  incidents row member := by
    obtain ⟨typed, isRow, reads⟩ := exists_right represents.incidents.rows member
    obtain ⟨entry, stored, rfl⟩ := List.mem_map.mp isRow
    have cell := reads "previous_session_id"
    cases previous : entry.row.previousSessionId with
    | none =>
      refine .inl (cell.trans ?_)
      simp [incidentData, dataOf, previous, Datum.ofInteger, Datum.ofNumber, List.lookup_cons]
    | some id =>
      refine .inr ((resolves.incidents entry stored id previous).refers represents
        (cell.trans ?_))
      simp [incidentData, dataOf, previous, Datum.ofInteger, Datum.ofNumber, List.lookup_cons]

end OnDisk

/-- **When a connection gets what a history does, the history is on disk, and there
every event, metric row, finding and incident refers to rows that are on disk.** -/
theorem history_on_disk {writes : List Write} (allowed : Writes writes)
    {stateText : StateValue → PyStr} {rendering : Rendering} (dumps : DumpsTexts rendering)
    {given : List Action}
    (does : List.Forall₂ (Does stateText) given (typedActions .created writes)) :
    let ended := Runs.run (Action.run rendering) ⟨emptyStore, emptyStore⟩ given
    Represents stateText ended.disk (written writes).database ∧ ResolvesOnDisk ended.disk := by
  intro ended
  have represents : Represents stateText ended.disk (written writes).database := by
    rw [written, run_typedActions]
    exact (run_actions_represents dumps does rfl (.empty stateText)).2
  exact ⟨represents, (sound_written allowed).resolves.onDisk represents⟩

/-- A boot, a heartbeat, an event, and retention of a day. -/
theorem history_on_disk_event :
    let event : PyValue := .ofItems [("timestamp", .float (.finite 2000)),
      ("event_id", .int 41), ("provider", .text "Microsoft-Windows-Kernel-Power")]
    let given : List Action := [.write (.createSession (.float (.finite 1000)) (.int 1001)),
      .write (.updateHeartbeat (.float (.finite 1900))), .write (.insertEvents [event] (.int 1)),
      .prune 90000 24]
    let writes : List Write := [.start 1001 1000, .operate (.updateHeartbeat 1900),
      .operate (.insertEvents [kernelPower41 2000] 1), .operate (.pruneMetrics 90000 24)]
    let ended := Runs.run (Action.run ⟨fun _ => none, textDumps⟩) ⟨emptyStore, emptyStore⟩ given
    Represents (fun _ => []) ended.disk (written writes).database ∧
      ResolvesOnDisk ended.disk := by
  intro event given writes ended
  have does : List.Forall₂ (Does fun _ => []) given (typedActions .created writes) := by
    refine .cons (.write (.createSession rfl (by decide +kernel))) (.cons
      (.write (.updateHeartbeat rfl)) (.cons (.write (.insertEvents (.cons ⟨?_, rfl⟩ .nil)
      (by decide +kernel))) (.cons (.prune ..) .nil)))
    decide +kernel
  exact history_on_disk (by decide +kernel) dumpsTexts_textDumps does

end Agent

end PcDiagnosticAgent
