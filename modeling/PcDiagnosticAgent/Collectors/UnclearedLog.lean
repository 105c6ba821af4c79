import PcDiagnosticAgent.Collectors.Tailing
import PcDiagnosticAgent.Library.OptionalMax

/-!
# A log that is never cleared

As long as the log keeps its numbering, a record that was not there at the last
run has a larger number than the cursor, whatever its time. So a run meets
exactly these records, and stores what is in the log of them
(`records_stored_once`): no record is lost or stored twice, the stored events
are in the order of their numbers, and the cursor is the largest number and the
largest time that was stored.

The first run may meet more records than the cap and leave older ones out.
-/

set_option autoImplicit false

namespace PcDiagnosticAgent

open AutoTables LogTail OptionalMax

namespace WindowsEvents

/-- Before the first run nothing is stored and there is no cursor. -/
structure Fresh (db : Database) : Prop where
  noEvents : storedEvents db = []
  noId : db.getState (stateKeyId "System") = none
  noTs : db.getState (stateKeyTs "System") = none

theorem fresh_empty : Fresh .empty := ⟨rfl, rfl, rfl⟩

/-- A step of a history in which the log is not cleared. -/
def Uncleared (state : Tailing) (op : LogOperation) : Prop :=
  state.Successful op ∧ op ≠ .clear

/-- A step in which Windows writes and the collector does not run. -/
def OnlyWritten (state : Tailing) (op : LogOperation) : Prop :=
  Uncleared state op ∧ ∀ batches sessionId, op ≠ .collect batches sessionId

/-- The first event has the smaller record number. -/
def NumberedBefore (earlier later : Event) : Prop :=
  ∃ first second, earlier.recordId = some first ∧ later.recordId = some second ∧ first < second

def storedNumbers (db : Database) : Set ℤ :=
  {number | ∃ event ∈ storedEvents db, event.recordId = some number}

def storedTimes (db : Database) : Set Epoch :=
  {time | ∃ event ∈ storedEvents db, event.timestamp = time}

/-- The stored cursor is the largest record number and the largest time of the
stored events, and absent as long as there are none. -/
structure CursorExact (db : Database) : Prop where
  number : Greatest (storedNumbers db) (intOrNone (db.getState (stateKeyId "System")))
  time : Greatest (storedTimes db) (floatOrNone (db.getState (stateKeyTs "System")))

/-! ## The cursor -/

theorem cursorExact_fresh {db : Database} (fresh : Fresh db) : CursorExact db where
  number := by
    have none : storedNumbers db = ∅ := by
      simp [storedNumbers, fresh.noEvents]
    rw [fresh.noId, none]
    exact .empty
  time := by
    have none : storedTimes db = ∅ := by
      simp [storedTimes, fresh.noEvents]
    rw [fresh.noTs, none]
    exact .empty

section Run

variable {db : Database} {results : List ReadResult} (sessionId : ℕ)

theorem storedNumbers_collect
    (wellFormed : ∀ record ∈ unreadRecords db "System" results, WellFormed record) :
    storedNumbers (collect db "System" (some results) sessionId) = storedNumbers db ∪
      {number | number ∈ (unreadRecords db "System" results).map LogRecord.number} := by
  ext number
  simp only [storedNumbers, storedEvents_collect, List.mem_append, List.mem_map, or_and_right,
    exists_or, Set.mem_union, Set.mem_ofPred_eq]
  refine or_congr_right ⟨?_, ?_⟩
  · rintro ⟨event, ⟨record, member, rfl⟩, same⟩
    have numbered : record.recordNumber = some number := same
    have same := (wellFormed record member).numbered.symm.trans numbered
    exact ⟨record, member, Option.some.inj same⟩
  · rintro ⟨record, member, rfl⟩
    exact ⟨_, ⟨record, member, rfl⟩, (wellFormed record member).numbered⟩

theorem storedTimes_collect :
    storedTimes (collect db "System" (some results) sessionId) = storedTimes db ∪
      {time | time ∈ (unreadRecords db "System" results).map LogRecord.timeGenerated} := by
  ext time
  simp only [storedTimes, storedEvents_collect, List.mem_append, List.mem_map, or_and_right,
    exists_or, Set.mem_union, Set.mem_ofPred_eq]
  refine or_congr_right ⟨?_, ?_⟩
  · rintro ⟨event, ⟨record, member, rfl⟩, same⟩
    exact ⟨record, member, same⟩
  · rintro ⟨record, member, same⟩
    exact ⟨_, ⟨record, member, rfl⟩, same⟩

/-- A run keeps the cursor exact. -/
theorem CursorExact.collect (exact : CursorExact db)
    (wellFormed : ∀ record ∈ unreadRecords db "System" results, WellFormed record) :
    CursorExact (WindowsEvents.collect db "System" (some results) sessionId) := by
  by_cases none : unreadRecords db "System" results = []
  · rwa [WindowsEvents.collect, if_pos none]
  · have different := stateKeyId_ne_stateKeyTs "System"
    have positive : ∀ number ∈ (unreadRecords db "System" results).map LogRecord.number,
        0 ≤ number := by
      simpa using fun record member => (wellFormed record member).positive.le
    have dated : ∀ time ∈ (unreadRecords db "System" results).map LogRecord.timeGenerated,
        0 ≤ time := by
      simpa using fun record member => (wellFormed record member).dated
    have numbers := exact.number.foldl_max 0 positive (by simpa using none)
    have times := exact.time.foldl_max 0 dated (by simpa using none)
    rw [List.foldl_map] at numbers times
    refine ⟨?_, ?_⟩
    · rw [storedNumbers_collect sessionId wellFormed]
      simpa [WindowsEvents.collect, none, Database.getState, Database.setState,
        different, intOrNone, lastId] using numbers
    · rw [storedTimes_collect sessionId]
      simpa [WindowsEvents.collect, none, Database.getState, Database.setState,
        floatOrNone, lastTs] using times

end Run

/-! ## One numbering -/

/-- All records belong to one numbering. -/
structure OneNumbering (log : EventLog) : Prop where
  epoch : log.epoch = 0
  wellFormed : ∀ record ∈ log.written, WellFormed record
  ascending : log.written.Pairwise fun earlier later => earlier.number < later.number

theorem OneNumbering.step {state : Tailing} {op : LogOperation} (numbering : OneNumbering state.log)
    (uncleared : Uncleared state op) : OneNumbering (state.step op).log := by
  obtain ⟨successful, notClear⟩ := uncleared
  cases op with
  | append record =>
    obtain ⟨wellFormed, above⟩ := successful
    rw [numbering.epoch, List.drop_zero] at above
    refine ⟨numbering.epoch, ?_, ?_⟩
    · intro other member
      rcases List.mem_append.mp member with old | new
      · exact numbering.wellFormed other old
      · rw [List.mem_singleton.mp new]
        exact wellFormed
    · refine List.pairwise_append.mpr ⟨numbering.ascending, List.pairwise_singleton _ _, ?_⟩
      intro earlier member later last
      rw [List.mem_singleton.mp last]
      exact above earlier member
  | overwrite count => exact ⟨numbering.epoch, numbering.wellFormed, numbering.ascending⟩
  | clear => exact absurd rfl notClear
  | collect batches sessionId => exact numbering

/-- The records at ascending positions have ascending numbers. -/
theorem recordsAt_pairwise {related : LogRecord → LogRecord → Prop} {written : List LogRecord}
    (ascending : written.Pairwise related) {positions : List ℕ}
    (order : positions.Pairwise fun earlier later => earlier < later) :
    (recordsAt written positions).Pairwise related := by
  refine List.Pairwise.filterMap _ ?_ order
  intro earlier later before first firstFound second secondFound
  obtain ⟨firstBound, rfl⟩ := List.getElem?_eq_some_iff.mp firstFound
  obtain ⟨secondBound, rfl⟩ := List.getElem?_eq_some_iff.mp secondFound
  exact List.pairwise_iff_getElem.mp ascending earlier later firstBound secondBound before

/-- Among ascending numbers each occurs once. -/
theorem filter_number_eq {records : List LogRecord}
    (ascending : records.Pairwise fun earlier later => earlier.number < later.number)
    {record : LogRecord} (member : record ∈ records) :
    records.filter (fun other => other.number = record.number) = [record] := by
  induction records with
  | nil => cases member
  | cons first rest ih =>
    obtain ⟨below, ascending⟩ := List.pairwise_cons.mp ascending
    rcases List.mem_cons.mp member with rfl | later
    · have others : rest.filter (fun other => other.number = record.number) = [] := by
        refine List.filter_eq_nil_iff.mpr fun other present => ?_
        simpa using (below other present).ne'
      simp [others]
    · have different : first.number ≠ record.number := (below record later).ne
      rw [List.filter_cons_of_neg (by simpa using different), ih ascending later]

/-! ## The reader of one numbering -/

/-- The first half of an advanced cursor stays below what the old one and all
records are below. -/
theorem advance_fst_lt {number : ℤ} {old : ℤ × Epoch} {records : List LogRecord}
    (below : old.1 < number) (all : ∀ record ∈ records, record.number < number) :
    (advance stamp old records).1 < number := by
  have bound : advance stamp old records ≤ (number - 1, (advance stamp old records).2) := by
    refine advance_le_iff.mpr ⟨⟨Int.le_sub_one_of_lt below, (le_advance old records).2⟩, ?_⟩
    intro record member
    exact ⟨Int.le_sub_one_of_lt (all record member), (stamp_le_advance old member).2⟩
  exact Int.lt_of_le_sub_one bound.1

/-- The records written since the last collection are numbered above the
cursor, and those seen from `base` on are stored as long as they are in the
log. -/
structure NothingLost (base : ℕ) (tail : Tail stamp) : Prop where
  below : ∀ number : ℤ, 0 < number → (∀ record ∈ tail.written, record.number < number) →
    tail.cursor.1 < number
  behind : ∀ position, tail.seen ≤ position → ∀ record ∈ tail.written[position]?,
    tail.cursor.1 < record.number
  kept : ∀ position, base ≤ position → position < tail.seen → tail.start ≤ position →
    position ∈ tail.stored

namespace NothingLost

variable {base : ℕ} {tail : Tail stamp}

theorem empty (base : ℕ) : NothingLost base (Tail.empty (0, 0)) where
  below := fun _ positive _ => positive
  behind := by simp [Tail.empty, Tail.opened]
  kept := by simp [Tail.empty, Tail.opened]

theorem append (nothingLost : NothingLost base tail) {record : LogRecord}
    (wellFormed : WellFormed record)
    (above : ∀ earlier ∈ tail.written, earlier.number < record.number) :
    NothingLost base (tail.append record) where
  below := fun number positive all =>
    nothingLost.below number positive fun other member =>
      all other (List.mem_append_left _ member)
  behind := by
    intro position unseen other found
    have found : other ∈ (tail.written ++ [record])[position]? := found
    rcases Nat.lt_or_ge position tail.written.length with old | new
    · rw [List.getElem?_append_left old] at found
      exact nothingLost.behind position unseen other found
    · rw [List.getElem?_append_right new] at found
      rw [List.mem_singleton.mp (List.mem_of_getElem? found)]
      exact nothingLost.below record.number wellFormed.positive above
  kept := nothingLost.kept

theorem forget (nothingLost : NothingLost base tail) (count : ℕ) :
    NothingLost base (tail.forget count) where
  below := nothingLost.below
  behind := nothingLost.behind
  kept := fun position late seen inside =>
    nothingLost.kept position late seen
      (le_trans (tail.later_forget count).start inside)

/-- A collection that may leave records out, none of them from `base` on. -/
theorem collect (nothingLost : NothingLost base tail) {count : ℕ}
    (within : count ≤ tail.unread.length) (newest : tail.unread ≠ [] → 0 < count)
    (complete : ∀ position, base ≤ position → position < tail.written.length →
      tail.start ≤ position → position ∈ (tail.collect count within newest).stored) :
    NothingLost base (tail.collect count within newest) where
  below := fun number positive all =>
    advance_fst_lt (nothingLost.below number positive all) fun record member =>
      all record (List.mem_of_mem_drop member)
  behind := by
    intro position unseen record found
    have unseen : tail.written.length ≤ position := unseen
    have none : tail.written[position]? = none := List.getElem?_eq_none unseen
    exact absurd (none.symm.trans found) nofun
  kept := complete

/-- A complete collection stores every record that is new. -/
theorem collectAll (nothingLost : NothingLost base tail) : NothingLost base tail.collectAll := by
  refine nothingLost.collect le_rfl List.length_pos_of_ne_nil ?_
  intro position late within inside
  refine (tail.mem_collectAll inside within).mpr ?_
  rcases Nat.lt_or_ge position tail.seen with seen | unseen
  · exact .inl (nothingLost.kept position late seen inside)
  · refine .inr fun record member covered => ?_
    obtain ⟨offset, bound, same⟩ := List.mem_drop_iff_getElem.mp member
    have new := nothingLost.behind (position + offset) (by omega) record
      (List.getElem?_eq_some_iff.mpr ⟨by omega, same⟩)
    exact absurd covered.1 (not_le.mpr new)

/-- In one numbering no step loses a record. -/
theorem track (nothingLost : NothingLost base tail) {state : Tailing} {op : LogOperation}
    (written : tail.written = state.log.written) (numbering : OneNumbering state.log)
    (uncleared : Uncleared state op) : NothingLost base (WindowsEvents.track tail op) := by
  obtain ⟨successful, notClear⟩ := uncleared
  cases op with
  | append record =>
    obtain ⟨wellFormed, above⟩ := successful
    rw [numbering.epoch, List.drop_zero, ← written] at above
    exact nothingLost.append wellFormed above
  | overwrite count => exact nothingLost.forget count
  | clear => exact absurd rfl notClear
  | collect batches sessionId => exact nothingLost.collectAll

end NothingLost

/-- What a run reads was written by Windows. -/
theorem wellFormed_read {state : Tailing}
    (formed : ∀ record ∈ state.log.written, WellFormed record) {batches : List (List LogRecord)}
    (delivers : state.log.Delivers batches) {record : LogRecord}
    (member : record ∈ unreadRecords state.db "System" (answers batches false)) :
    WellFormed record := by
  have suffix := (unreadRecords_suffix state.db "System" delivers.filled delivers.whole false).1
  refine formed record ?_
  exact List.mem_of_mem_drop ((suffix.trans (unread_suffix stamp _ _)).subset member)

/-! ## Histories in one numbering -/

/-- The reader, the log and the database of a history in one numbering. -/
structure InStep (base : ℕ) (tail : Tail stamp) (state : Tailing) : Prop where
  follows : Follows [] tail state
  numbering : OneNumbering state.log
  nothingLost : NothingLost base tail
  exact : CursorExact state.db

namespace InStep

variable {base : ℕ} {tail : Tail stamp} {state : Tailing}

theorem fresh {db : Database} (fresh : Fresh db) (base : ℕ) :
    InStep base (Tail.empty (0, 0)) ⟨.empty, db⟩ where
  follows := ⟨rfl, rfl, by simp [Tail.empty, Tail.opened, cursor, lastId, lastTs, fresh.noId,
    fresh.noTs, intOrNone, floatOrNone], fresh.noEvents⟩
  numbering := ⟨rfl, by simp [EventLog.empty], .nil⟩
  nothingLost := .empty base
  exact := cursorExact_fresh fresh

theorem step (inStep : InStep base tail state) {op : LogOperation}
    (uncleared : Uncleared state op) : InStep base (track tail op) (state.step op) where
  follows := inStep.follows.step uncleared.1
  numbering := inStep.numbering.step uncleared
  nothingLost := inStep.nothingLost.track inStep.follows.written inStep.numbering uncleared
  exact := by
    cases op with
    | append record => exact inStep.exact
    | overwrite count => exact inStep.exact
    | clear => exact inStep.exact
    | collect batches sessionId =>
      exact inStep.exact.collect sessionId fun _ member =>
        wellFormed_read inStep.numbering.wellFormed uncleared.1.1 member

theorem run (inStep : InStep base tail state) {ops : List LogOperation}
    (uncleared : Runs.Guarded Tailing.step Uncleared state ops) :
    InStep base (Runs.run track tail ops) (Runs.run Tailing.step state ops) := by
  induction ops generalizing tail state with
  | nil => exact inStep
  | cons op ops ih => exact ih (inStep.step uncleared.1) uncleared.2

/-- The first run may leave out records, but none that are written later. -/
theorem first (inStep : InStep state.log.written.length tail state)
    {batches : List (List LogRecord)} (delivers : state.log.Delivers batches) (sessionId : ℕ) :
    ∃ next, InStep state.log.written.length next (state.step (.collect batches sessionId)) := by
  obtain ⟨newest, some⟩ :=
    unreadRecords_suffix state.db "System" delivers.filled delivers.whole false
  obtain ⟨within, positive, follows⟩ := inStep.follows.read newest some sessionId
  refine ⟨_, follows, inStep.numbering, inStep.nothingLost.collect within positive ?_,
    inStep.exact.collect sessionId fun _ member =>
      wellFormed_read inStep.numbering.wellFormed delivers member⟩
  intro position late early
  rw [inStep.follows.written] at early
  exact absurd early (not_lt.mpr late)

theorem stored (inStep : InStep base tail state) :
    storedEvents state.db = (recordsAt tail.written tail.stored).map (eventOf "System") :=
  inStep.follows.stored.trans (List.nil_append _)

theorem ascending (inStep : InStep base tail state) :
    (recordsAt tail.written tail.stored).Pairwise fun earlier later =>
      earlier.number < later.number :=
  recordsAt_pairwise (inStep.follows.written ▸ inStep.numbering.ascending) tail.ascending

theorem numbered (inStep : InStep base tail state) {record : LogRecord}
    (member : record ∈ recordsAt tail.written tail.stored) :
    record.recordNumber = some record.number := by
  obtain ⟨position, -, found⟩ := List.mem_filterMap.mp member
  have written := List.mem_of_getElem? found
  rw [inStep.follows.written] at written
  exact (inStep.numbering.wellFormed record written).numbered

/-- The stored events are in the order of their record numbers. -/
theorem storedEvents_pairwise (inStep : InStep base tail state) :
    (storedEvents state.db).Pairwise NumberedBefore := by
  rw [inStep.stored, List.pairwise_map]
  refine inStep.ascending.imp_of_mem fun {earlier later} first second before => ?_
  exact ⟨_, _, inStep.numbered first, inStep.numbered second, before⟩

/-- A stored record has one event. -/
theorem storedEvents_filter (inStep : InStep base tail state) {record : LogRecord}
    (member : record ∈ recordsAt tail.written tail.stored) :
    (storedEvents state.db).filter (fun event => event.recordId = record.recordNumber) =
      [eventOf "System" record] := by
  have key : (recordsAt tail.written tail.stored).filter
      (fun other => (eventOf "System" other).recordId = record.recordNumber) =
      (recordsAt tail.written tail.stored).filter fun other => other.number = record.number := by
    refine List.filter_congr fun other present => ?_
    have same : (eventOf "System" other).recordId = other.recordNumber := rfl
    rw [same, inStep.numbered present, inStep.numbered member]
    simp
  rw [inStep.stored, List.filter_map]
  exact congrArg _ (key.trans (filter_number_eq inStep.ascending member))

end InStep

/-- **In a log that is never cleared every record that was appended after the
first run and is still in the log at a later run is stored exactly once, in the
order of the record numbers, and the cursor is the largest number and time
that is stored.** -/
theorem records_stored_once {db : Database} (fresh : Fresh db) (setup : List LogOperation)
    (first : List (List LogRecord)) (session : ℕ) (later : List LogOperation)
    (opened : Runs.Guarded Tailing.step OnlyWritten ⟨.empty, db⟩ setup)
    (delivers : (Runs.run Tailing.step ⟨.empty, db⟩ setup).log.Delivers first)
    (uncleared : Runs.Guarded Tailing.step Uncleared
      ((Runs.run Tailing.step ⟨.empty, db⟩ setup).step (.collect first session)) later) :
    let started := (Runs.run Tailing.step ⟨.empty, db⟩ setup).step (.collect first session)
    let ended := Runs.run Tailing.step started later
    (∀ done batches sessionId rest, later = done ++ .collect batches sessionId :: rest →
      let log := (Runs.run Tailing.step started done).log
      ∀ record ∈ log.written.drop (max log.start started.log.written.length),
        (storedEvents ended.db).filter (fun event => event.recordId = record.recordNumber) =
          [eventOf "System" record]) ∧
      (storedEvents ended.db).Pairwise NumberedBefore ∧ CursorExact ended.db := by
  intro started ended
  let before := Runs.run Tailing.step ⟨.empty, db⟩ setup
  have setUp : InStep before.log.written.length _ before :=
    (InStep.fresh fresh before.log.written.length).run (opened.mono fun _ _ only => only.1)
  obtain ⟨tail, atStart⟩ := setUp.first delivers session
  have atEnd := atStart.run uncleared
  refine ⟨fun done batches sessionId rest split => ?_, atEnd.storedEvents_pairwise, atEnd.exact⟩
  intro log record member
  rw [split, Runs.guarded_append] at uncleared
  have atRun := atStart.run uncleared.1
  have afterRun := atRun.step uncleared.2.1
  refine atEnd.storedEvents_filter ?_
  -- the position of the record is stored by this run and stays stored
  obtain ⟨offset, bound, same⟩ := List.mem_drop_iff_getElem.mp member
  have written : (Runs.run track tail done).written = log.written := atRun.follows.written
  have start : (Runs.run track tail done).start = log.start := atRun.follows.start
  let position := max log.start started.log.written.length + offset
  have stored : position ∈ (Runs.run track tail done).collectAll.stored := by
    refine atRun.nothingLost.collectAll.kept position ?_ ?_ ?_
    · exact le_trans (le_max_right _ _) (Nat.le_add_right _ _)
    · exact lt_of_lt_of_eq (by omega) (congrArg List.length written).symm
    · exact le_trans (le_of_eq start) (le_trans (le_max_left _ _) (Nat.le_add_right _ _))
  have whole : Runs.run track tail later =
      Runs.run track (Runs.run track tail done).collectAll rest := by
    rw [split, Runs.run_append]
    rfl
  rw [whole]
  have after := later_run (Runs.run track tail done).collectAll rest
  obtain ⟨more, grown, -⟩ := after.stored
  refine List.mem_filterMap.mpr ⟨position, grown ▸ List.mem_append_left _ stored, ?_⟩
  obtain ⟨new, whole⟩ := after.written
  have found : (Runs.run track tail done).written[position]? = some record :=
    written ▸ List.getElem?_eq_some_iff.mpr ⟨by omega, by rw [← same]⟩
  rw [← whole]
  exact (List.getElem?_append_left (List.getElem?_eq_some_iff.mp found).1).trans found

theorem records_stored_once_two_records :
    let first : LogRecord := { timeGenerated := 2000, recordNumber := some 1 }
    let second : LogRecord := { timeGenerated := 1000, recordNumber := some 2 }
    let started := Runs.run Tailing.step ⟨.empty, .empty⟩
      [.append first, .collect [[first]] 1]
    let ended := Runs.run Tailing.step started [.append second, .collect [[second], [first]] 1]
    (storedEvents ended.db).filter (fun event => event.recordId = some 2) =
        [eventOf "System" second] ∧
      (storedEvents ended.db).Pairwise NumberedBefore ∧ CursorExact ended.db := by
  intro first second started ended
  have once := records_stored_once fresh_empty [.append first] [[first]] 1
    [.append second, .collect [[second], [first]] 1]
    ⟨⟨⟨⟨⟨rfl, by decide, by decide +kernel⟩, by simp [EventLog.empty]⟩, nofun⟩, nofun⟩, trivial⟩
    ⟨by simp, rfl⟩
    ⟨⟨⟨⟨rfl, by decide, by decide +kernel⟩, by decide⟩, nofun⟩,
      ⟨⟨⟨by simp, rfl⟩, by decide +kernel⟩, nofun⟩, trivial⟩
  obtain ⟨stored, order, exact⟩ := once
  exact ⟨stored [.append second] _ _ [] rfl second (by decide +kernel), order, exact⟩

end WindowsEvents

end PcDiagnosticAgent
