import PcDiagnosticAgent.Storage.Database

/-!
# The event log collector

`WindowsEventCollector` of `collectors/windows_events.py`. A run reads the log
backwards in batches, newest record first, until it meets a record that both
halves of the cursor cover, reaches the cap or the end of the log, or a read
fails. It stores what it read in log order and advances the cursor.

A log record carries the epoch its `TimeGenerated` converts to. What
`ReadEventLog` returns is a list of results, one for each call; the end of the
list is the end of the log.
-/

set_option autoImplicit false

namespace PcDiagnosticAgent

namespace WindowsEvents

/-- A record of the event log. -/
structure LogRecord where
  timeGenerated : Epoch
  recordNumber : Option ℤ := none
  sourceName : Option String := none
  eventId : Option ℤ := none
  eventType : Option ℤ := none
  message : Option String := none
  computerName : Option String := none
deriving DecidableEq, Repr

/-- The result of one call of `ReadEventLog`. -/
inductive ReadResult where
  | batch (records : List LogRecord)
  | failed
deriving DecidableEq, Repr

/-- `MAX_EVENTS_PER_RUN`. -/
def maxEventsPerRun : ℕ := 1000

/-- `MAX_MESSAGE_LEN`. -/
def maxMessageLen : ℕ := 4000

/-- The number the stop test uses; an absent number counts as zero. -/
def LogRecord.number (record : LogRecord) : ℤ := record.recordNumber.getD 0

/-- The cursor covers a record when both its number and its time are not
newer. -/
def Covered (lastId : ℤ) (lastTs : Epoch) (record : LogRecord) : Prop :=
  record.number ≤ lastId ∧ record.timeGenerated ≤ lastTs

instance (lastId : ℤ) (lastTs : Epoch) (record : LogRecord) :
    Decidable (Covered lastId lastTs record) :=
  inferInstanceAs (Decidable (_ ∧ _))

/-- Append the records of one batch up to the first covered one, and say
whether there was one. -/
def readBatch (lastId : ℤ) (lastTs : Epoch) (records : List LogRecord) :
    List LogRecord → List LogRecord × Bool
  | [] => (records, false)
  | record :: rest =>
    if Covered lastId lastTs record then (records, true)
    else readBatch lastId lastTs (records ++ [record]) rest

/-- The read loop, newest record first. -/
def readLoop (lastId : ℤ) (lastTs : Epoch) :
    List LogRecord → List ReadResult → List LogRecord
  | records, [] => records
  | records, result :: results =>
    if records.length < maxEventsPerRun then
      match result with
      | .failed => records
      | .batch [] => records
      | .batch batch =>
        let (records, stop) := readBatch lastId lastTs records batch
        if stop then records else readLoop lastId lastTs records results
    else records

/-- `_read_new`: the new records in log order. -/
def readNew (results : List ReadResult) (lastId : ℤ) (lastTs : Epoch) : List LogRecord :=
  (readLoop lastId lastTs [] results).reverse

/-- `_int_or_none`. -/
def intOrNone : Option StateValue → Option ℤ
  | some (.int value) => some value
  | _ => none

/-- `_float_or_none`. -/
def floatOrNone : Option StateValue → Option ℚ
  | some (.int value) => some value
  | some (.float value) => some value
  | none => none

def stateKeyId (channel : String) : String := "event_last_record_id:" ++ channel

def stateKeyTs (channel : String) : String := "event_last_timestamp:" ++ channel

/-- `_normalize_event_id`. -/
def normalizeEventId (raw : Option ℤ) : Option ℤ := raw.map (· % 65536)

/-- The row stored for a record. -/
def eventOf (channel : String) (record : LogRecord) : Event where
  timestamp := record.timeGenerated
  provider := record.sourceName
  eventId := normalizeEventId record.eventId
  level := record.eventType
  channel := some channel
  recordId := record.recordNumber
  message := Database.clip record.message maxMessageLen
  computer := record.computerName

/-- The record half of the stored cursor. -/
def lastId (db : Database) (channel : String) : ℤ :=
  (intOrNone (db.getState (stateKeyId channel))).getD 0

/-- The time half of the stored cursor. -/
def lastTs (db : Database) (channel : String) : Epoch :=
  (floatOrNone (db.getState (stateKeyTs channel))).getD 0

/-- The records a run reads. -/
def unreadRecords (db : Database) (channel : String) (results : List ReadResult) :
    List LogRecord :=
  readNew results (lastId db channel) (lastTs db channel)

/-- The events a run stores. -/
def unreadEvents (db : Database) (channel : String) (results : List ReadResult) : List Event :=
  (unreadRecords db channel results).map (eventOf channel)

/-- One run. Without pywin32 there are no results at all. -/
def collect (db : Database) (channel : String) (results : Option (List ReadResult))
    (sessionId : ℕ) : Database :=
  match results with
  | none => db
  | some results =>
    let records := unreadRecords db channel results
    if records = [] then db
    else
      let maxId := records.foldl (fun best record => max best record.number) (lastId db channel)
      let maxTs := records.foldl (fun best record => max best record.timeGenerated)
        (lastTs db channel)
      ((db.insertEvents (records.map (eventOf channel)) sessionId).setState
        (stateKeyId channel) (.int maxId)).setState (stateKeyTs channel) (.float maxTs)

/-- A run stores its unread events after those already stored. -/
theorem collect_events (db : Database) (channel : String) (results : List ReadResult)
    (sessionId : ℕ) :
    (collect db channel (some results) sessionId).events =
      (db.insertEvents (unreadEvents db channel results) sessionId).events := by
  simp only [collect, unreadEvents]
  split
  · rename_i none
    simp [none, Database.insertEvents]
  · rfl

/-- A run keeps the events that are stored. -/
theorem mem_collect_events {db : Database} {entry : AutoTables.Entry EventRow}
    (channel : String) (results : Option (List ReadResult)) (sessionId : ℕ)
    (member : entry ∈ db.events.entries) :
    entry ∈ (collect db channel results sessionId).events.entries := by
  cases results with
  | none => exact member
  | some results =>
    rw [collect_events]
    exact AutoTables.AutoTable.mem_insertAll_of_mem _ member

/-- A run writes events and the cursor only. -/
theorem collect_unchanged {Seen : Type} (observe : Database → Seen)
    (events : ∀ db events, observe { db with events } = observe db)
    (state : ∀ db agentState, observe { db with agentState } = observe db)
    (db : Database) (channel : String) (results : Option (List ReadResult)) (sessionId : ℕ) :
    observe (collect db channel results sessionId) = observe db := by
  cases results with
  | none => rfl
  | some results =>
    simp only [collect]
    split
    · rfl
    · exact ((state _ _).trans (state _ _)).trans (events _ _)

@[simp] theorem collect_sessions (db : Database) (channel : String)
    (results : Option (List ReadResult)) (sessionId : ℕ) :
    (collect db channel results sessionId).sessions = db.sessions :=
  collect_unchanged (·.sessions) (fun _ _ => rfl) (fun _ _ => rfl) db channel results sessionId

@[simp] theorem collect_incidents (db : Database) (channel : String)
    (results : Option (List ReadResult)) (sessionId : ℕ) :
    (collect db channel results sessionId).incidents = db.incidents :=
  collect_unchanged (·.incidents) (fun _ _ => rfl) (fun _ _ => rfl) db channel results sessionId

end WindowsEvents

end PcDiagnosticAgent
