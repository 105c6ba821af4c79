import PcDiagnosticAgent.Collectors.WindowsEvents
import PcDiagnosticAgent.Library.LogTail
import PcDiagnosticAgent.Library.Runs

/-!
# Tailing the event log

The System log with the collector that follows it. Windows numbers the records
of a log from 1, stamps them in seconds since 1970, overwrites the oldest ones,
and starts numbering again when the log is cleared. `ReadEventLog` hands the
log out backwards in batches that are not empty, however it splits them.

The two halves of the stored cursor are one element of a product order, and a
covered record is one whose stamp is not above it. So the collector is a reader
in the sense of `LogTail`: a run reads the unread records
(`unreadRecords_eq`), or the newest of them when it meets the cap
(`unreadRecords_suffix`), stores them (`storedEvents_collect`) and advances the
cursor by them (`cursor_collect`). `Follows` relates the database to such a
reader.
-/

set_option autoImplicit false

namespace PcDiagnosticAgent

open AutoTables LogTail

namespace WindowsEvents

/-! ## The cursor -/

/-- A cursor is below another one when both of its numbers are. -/
instance : PartialOrder (ℤ × Epoch) := SemilatticeSup.toPartialOrder

instance : Preorder (ℤ × Epoch) := PartialOrder.toPreorder

/-- The two numbers of a record that the stop test compares. -/
def stamp (record : LogRecord) : ℤ × Epoch := (record.number, record.timeGenerated)

/-- The stored cursor. -/
def cursor (db : Database) (channel : String) : ℤ × Epoch := (lastId db channel, lastTs db channel)

theorem covered_iff {lastId : ℤ} {lastTs : Epoch} {record : LogRecord} :
    Covered lastId lastTs record ↔ stamp record ≤ (lastId, lastTs) := Iff.rfl

theorem stateKeyId_ne_stateKeyTs (channel : String) : stateKeyId channel ≠ stateKeyTs channel := by
  have id : (stateKeyId channel).toList =
      "event_last_r".toList ++ ("ecord_id:" ++ channel).toList := by
    rw [← String.toList_append, ← String.append_assoc]
    rfl
  have ts : (stateKeyTs channel).toList =
      "event_last_t".toList ++ ("imestamp:" ++ channel).toList := by
    rw [← String.toList_append, ← String.append_assoc]
    rfl
  have lengths : "event_last_t".toList.length = "event_last_r".toList.length := by decide +kernel
  have texts : "event_last_t".toList ≠ "event_last_r".toList := by decide +kernel
  intro same
  rw [same, ts] at id
  exact texts (List.append_inj_left id lengths)

/-! ## One run -/

/-- The answers of `ReadEventLog`: the batches, and then perhaps a failure. -/
def answers (batches : List (List LogRecord)) (fails : Bool) : List ReadResult :=
  batches.map .batch ++ if fails then [.failed] else []

theorem readBatch_eq (lastId : ℤ) (lastTs : Epoch) (records batch : List LogRecord) :
    readBatch lastId lastTs records batch =
      (records ++ batch.takeWhile fun record => ¬ Covered lastId lastTs record,
        decide (∃ record ∈ batch, Covered lastId lastTs record)) := by
  induction batch generalizing records with
  | nil => simp [readBatch]
  | cons record batch ih =>
    by_cases covered : Covered lastId lastTs record
    · simp [readBatch, covered]
    · simp [readBatch, covered, ih]

theorem takeWhile_append_of_stop {new : LogRecord → Bool} {first : List LogRecord}
    (second : List LogRecord) (stop : ∃ record ∈ first, new record = false) :
    (first ++ second).takeWhile new = first.takeWhile new := by
  rw [List.takeWhile_append, if_neg]
  intro same
  have all := List.takeWhile_eq_self_iff.mp ((List.takeWhile_prefix new).eq_of_length same)
  obtain ⟨record, member, old⟩ := stop
  exact absurd (all record member) (by simp [old])

/-- The loop appends the new records up to the first covered one, or some of
them when it meets the cap. -/
theorem readLoop_answers (lastId : ℤ) (lastTs : Epoch) {batches : List (List LogRecord)}
    (filled : [] ∉ batches) (fails : Bool) (records : List LogRecord) :
    let new := batches.flatten.takeWhile fun record => ¬ Covered lastId lastTs record
    ∃ read, readLoop lastId lastTs records (answers batches fails) = records ++ read ∧
      read <+: new ∧
      (records.length < maxEventsPerRun → new ≠ [] → read ≠ []) ∧
      (records.length + new.length < maxEventsPerRun → read = new) := by
  induction batches generalizing records with
  | nil =>
    refine ⟨[], ?_, List.nil_prefix, fun _ some => absurd rfl some, fun _ => rfl⟩
    rw [List.append_nil]
    cases fails with
    | false => rfl
    | true =>
      simp only [answers, List.map_nil, List.nil_append, if_true, readLoop]
      split <;> rfl
  | cons batch batches ih =>
    intro new
    obtain ⟨first, rest, rfl⟩ : ∃ first rest, batch = first :: rest :=
      List.exists_cons_of_ne_nil fun empty => filled (empty ▸ List.mem_cons_self)
    by_cases room : records.length < maxEventsPerRun
    · have loop : readLoop lastId lastTs records (answers ((first :: rest) :: batches) fails) =
          let met := readBatch lastId lastTs records (first :: rest)
          if met.2 then met.1 else readLoop lastId lastTs met.1 (answers batches fails) := by
        simp only [answers, List.map_cons, List.cons_append, readLoop, if_pos room]
      rw [loop, readBatch_eq]
      by_cases stop : ∃ record ∈ first :: rest, Covered lastId lastTs record
      · -- the batch holds a covered record
        have whole : new = (first :: rest).takeWhile
            fun record => ¬ Covered lastId lastTs record :=
          takeWhile_append_of_stop _ (by simpa using stop)
        refine ⟨new, ?_, List.prefix_rfl, fun _ some => some, fun _ => rfl⟩
        simp only [stop, decide_true, if_true, whole]
      · have all : ∀ record ∈ first :: rest, ¬ Covered lastId lastTs record :=
          fun record member covered => stop ⟨record, member, covered⟩
        have taken : (first :: rest).takeWhile (fun record => ¬ Covered lastId lastTs record) =
            first :: rest := List.takeWhile_eq_self_iff.mpr (by simpa using all)
        have whole : new = (first :: rest) ++ batches.flatten.takeWhile
            fun record => ¬ Covered lastId lastTs record :=
          List.takeWhile_append_of_pos (by simpa using all)
        obtain ⟨read, result, within, -, exact⟩ :=
          ih (fun empty => filled (List.mem_cons_of_mem _ empty)) (records ++ first :: rest)
        refine ⟨(first :: rest) ++ read, ?_, ?_, fun _ _ => by simp, fun fits => ?_⟩
        · simp only [stop, decide_false, Bool.false_eq_true, if_false, taken, result,
            List.append_assoc]
        · rw [whole]
          exact (List.prefix_append_right_inj _).mpr within
        · rw [whole, exact]
          rw [whole, List.length_append] at fits
          rw [List.length_append]
          omega
    · refine ⟨[], ?_, List.nil_prefix, fun some => absurd some room, fun fits => ?_⟩
      · simp only [answers, List.map_cons, List.cons_append, readLoop, if_neg room,
          List.append_nil]
      · omega

section Run

variable (db : Database) (channel : String) {batches : List (List LogRecord)}
  {delivered : List LogRecord} (filled : [] ∉ batches)
  (whole : batches.flatten = delivered.reverse) (fails : Bool)

include whole in
theorem takeWhile_flatten :
    (batches.flatten.takeWhile fun record =>
        ¬ Covered (lastId db channel) (lastTs db channel) record) =
      (unread stamp (cursor db channel) delivered).reverse := by
  rw [whole, unread, List.rtakeWhile, List.reverse_reverse]
  simp only [covered_iff]
  rfl

include filled whole

/-- A run reads the newest unread records, and at least one when there are
any. -/
theorem unreadRecords_suffix :
    unreadRecords db channel (answers batches fails) <:+
        unread stamp (cursor db channel) delivered ∧
      (unread stamp (cursor db channel) delivered ≠ [] →
        unreadRecords db channel (answers batches fails) ≠ []) := by
  obtain ⟨read, result, within, some, -⟩ :=
    readLoop_answers (lastId db channel) (lastTs db channel) filled fails []
  rw [takeWhile_flatten db channel whole] at within some
  rw [unreadRecords, readNew, result, List.nil_append]
  refine ⟨List.reverse_prefix.mp (by rwa [List.reverse_reverse]), fun unread => ?_⟩
  simpa using some (by decide) (by simpa using unread)

/-- **Below the cap a run reads exactly the unread records of what was
delivered.** -/
theorem unreadRecords_eq
    (room : (unread stamp (cursor db channel) delivered).length < maxEventsPerRun) :
    unreadRecords db channel (answers batches fails) =
      unread stamp (cursor db channel) delivered := by
  obtain ⟨read, result, -, -, exact⟩ :=
    readLoop_answers (lastId db channel) (lastTs db channel) filled fails []
  rw [takeWhile_flatten db channel whole] at exact
  rw [unreadRecords, readNew, result, List.nil_append, exact (by simpa using room),
    List.reverse_reverse]

end Run

/-! ## What a run writes -/

/-- The stored events, in the order in which they were stored. -/
def storedEvents (db : Database) : List Event := db.events.rows.map EventRow.toEvent

theorem clip_clip (message : Option String) :
    Database.clip (Database.clip message maxMessageLen) 4000 =
      Database.clip message maxMessageLen := by
  cases message with
  | none => rfl
  | some text =>
    simp only [Database.clip, Option.map_some, String.toList_ofList, List.take_take, maxMessageLen,
      Nat.min_self]

/-- The row of a record carries the event of the record. -/
theorem toEvent_eventRow (sessionId : ℕ) (channel : String) (record : LogRecord) :
    (Database.eventRow sessionId (eventOf channel record)).toEvent = eventOf channel record := by
  simp only [Database.eventRow, eventOf, clip_clip]

theorem storedEvents_collect (db : Database) (channel : String) (results : List ReadResult)
    (sessionId : ℕ) :
    storedEvents (collect db channel (some results) sessionId) =
      storedEvents db ++ (unreadRecords db channel results).map (eventOf channel) := by
  simp only [storedEvents, collect_events, Database.insertEvents, AutoTable.rows_insertAll,
    List.map_append, unreadEvents, List.map_map]
  congr 2
  funext record
  exact toEvent_eventRow sessionId channel record

theorem advance_stamp (records : List LogRecord) (lastId : ℤ) (lastTs : Epoch) :
    advance stamp (lastId, lastTs) records =
      (records.foldl (fun best record => max best record.number) lastId,
        records.foldl (fun best record => max best record.timeGenerated) lastTs) := by
  induction records generalizing lastId lastTs with
  | nil => rfl
  | cons record records ih => exact ih (max lastId record.number) (max lastTs record.timeGenerated)

theorem cursor_setState (db : Database) (channel : String) (id : ℤ) (ts : Epoch) :
    cursor ((db.setState (stateKeyId channel) (.int id)).setState (stateKeyTs channel) (.float ts))
      channel = (id, ts) := by
  have different := stateKeyId_ne_stateKeyTs channel
  simp [cursor, lastId, lastTs, Database.getState, Database.setState, different, intOrNone,
    floatOrNone]

/-- A run advances the cursor by what it read. -/
theorem cursor_collect (db : Database) (channel : String) (results : List ReadResult)
    (sessionId : ℕ) :
    cursor (collect db channel (some results) sessionId) channel =
      advance stamp (cursor db channel) (unreadRecords db channel results) := by
  simp only [collect]
  split
  · rename_i none
    rw [none]
    rfl
  · rw [cursor_setState, cursor, advance_stamp]

end WindowsEvents

end PcDiagnosticAgent
