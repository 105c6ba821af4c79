import PcDiagnosticAgent.Collectors.UnclearedLog

/-!
# A run that dies between its commits

A run commits the rows, then the record number of the cursor, then its time.
The process can die after any of these commits, and a row whose `INSERT` raises
is skipped while the cursor still moves past it.

In a consistent state every record of the log is either stored once or unread.
`interrupted_run_iff` says when the next run leads back to such a state.
-/

set_option autoImplicit false

namespace PcDiagnosticAgent

open AutoTables LogTail

namespace WindowsEvents

/-- The commits of a run that has read the records, in order. -/
def commits (db : Database) (channel : String) (records : List LogRecord) (sessionId : ℕ)
    (fails : LogRecord → Bool) : List (Database → Database) :=
  [fun current => current.insertEvents
      ((records.filter fun record => ¬ fails record).map (eventOf channel)) sessionId,
    fun current => current.setState (stateKeyId channel)
      (.int (records.foldl (fun best record => max best record.number) (lastId db channel))),
    fun current => current.setState (stateKeyTs channel)
      (.float (records.foldl (fun best record => max best record.timeGenerated)
        (lastTs db channel)))]

/-- The database after a run that dies when some of its commits are done. -/
def interrupted (db : Database) (channel : String) (results : List ReadResult) (sessionId : ℕ)
    (fails : LogRecord → Bool) (committed : ℕ) : Database :=
  let records := unreadRecords db channel results
  if records = [] then db
  else ((commits db channel records sessionId fails).take committed).foldl
    (fun current commit => commit current) db

/-- Without a death and without a failing row this is a whole run. -/
theorem interrupted_complete (db : Database) (channel : String) (results : List ReadResult)
    (sessionId : ℕ) :
    interrupted db channel results sessionId (fun _ => false) 3 =
      collect db channel (some results) sessionId := by
  simp [interrupted, collect, commits]

/-- Every record of the log is stored once, or unread and not stored. -/
def Consistent (state : Tailing) : Prop :=
  ∀ record ∈ state.log.records,
    (storedEvents state.db).count (eventOf "System" record) =
      if record ∈ state.unread then 0 else 1

/-! ## Records of one numbering -/

section Records

variable {records : List LogRecord} (wellFormed : ∀ record ∈ records, WellFormed record)
  (ascending : records.Pairwise fun earlier later => earlier.number < later.number)

include wellFormed ascending

/-- In one numbering the event tells the record. -/
theorem eventOf_injOn {first second : LogRecord} (firstMember : first ∈ records)
    (secondMember : second ∈ records)
    (same : eventOf "System" first = eventOf "System" second) : first = second := by
  have numbers : first.recordNumber = second.recordNumber := congrArg (·.recordId) same
  rw [(wellFormed first firstMember).numbered, (wellFormed second secondMember).numbered] at numbers
  have distinct : (records.map LogRecord.number).Nodup :=
    List.pairwise_map.mpr (ascending.imp ne_of_lt)
  exact List.inj_on_of_nodup_map distinct firstMember secondMember (Option.some.inj numbers)

/-- Some of the records have the event of a record as often as they have the
record. -/
theorem count_eventOf {some : List LogRecord} (distinct : some.Nodup) (within : some ⊆ records)
    {record : LogRecord} (member : record ∈ records) :
    (some.map (eventOf "System")).count (eventOf "System" record) =
      if record ∈ some then 1 else 0 := by
  have events : (some.map (eventOf "System")).Nodup := by
    refine distinct.map_on ?_
    intro first firstMember second secondMember same
    exact eventOf_injOn wellFormed ascending (within firstMember) (within secondMember) same
  have present : eventOf "System" record ∈ some.map (eventOf "System") ↔ record ∈ some := by
    refine ⟨fun found => ?_, fun found => List.mem_map_of_mem found⟩
    obtain ⟨other, otherMember, same⟩ := List.mem_map.mp found
    exact eventOf_injOn wellFormed ascending (within otherMember) member same ▸ otherMember
  rw [List.Nodup.count events]
  simp only [present]

end Records

theorem EventLog.Numbered.wellFormed_records {log : EventLog} (numbered : log.Numbered) :
    ∀ record ∈ log.records, WellFormed record :=
  fun record member => numbered.wellFormed record (List.mem_of_mem_drop member)

theorem nodup_of_ascending {records : List LogRecord}
    (ascending : records.Pairwise fun earlier later => earlier.number < later.number) :
    records.Nodup :=
  ascending.imp fun less same => absurd (same ▸ less) (lt_irrefl _)

/-- Every state of a history without clears is consistent. -/
theorem InStep.consistent {tail : Tail stamp} {state : Tailing} (inStep : InStep 0 tail state) :
    Consistent state := by
  intro record member
  have written := inStep.follows.written
  have ascending := inStep.numbering.ascending
  obtain ⟨position, inside, found⟩ :
      ∃ position, state.log.start ≤ position ∧ state.log.written[position]? = some record := by
    obtain ⟨offset, bound, found⟩ := List.mem_drop_iff_getElem.mp member
    exact ⟨state.log.start + offset, by omega, List.getElem?_eq_some_iff.mpr ⟨by omega, found⟩⟩
  have present : record ∈ recordsAt tail.written tail.stored ↔ position ∈ tail.stored := by
    rw [written]
    constructor
    · intro stored
      obtain ⟨place, placed, same⟩ := List.mem_filterMap.mp stored
      obtain ⟨placeBound, -⟩ := List.getElem?_eq_some_iff.mp same
      have one := (List.getElem?_inj placeBound (nodup_of_ascending ascending)).mp
        (same.trans found.symm)
      exact one ▸ placed
    · intro stored
      exact List.mem_filterMap.mpr ⟨position, stored, found⟩
  have unread_iff : record ∈ state.unread ↔ position ∉ tail.stored := by
    constructor
    · intro unread stored
      have new := List.mem_rtakeWhile_imp unread
      have covered := tail.covered position stored record (written ▸ found)
      rw [inStep.follows.cursor] at covered
      simp [covered] at new
    · intro unstored
      have unseen : tail.seen ≤ position := by
        by_contra seen
        refine unstored (inStep.nothingLost.kept position (Nat.zero_le _) (by omega) ?_)
        exact inStep.follows.start ▸ inside
      have records : state.log.records.Pairwise fun earlier later =>
          earlier.number < later.number := ascending.sublist (List.drop_sublist _ _)
      refine (mem_unread_iff records).mpr ⟨member, fun other otherMember after covered => ?_⟩
      -- the record is numbered above the cursor, so are those after it
      have new := inStep.nothingLost.behind position unseen record (written ▸ found)
      rw [inStep.follows.cursor] at new
      exact absurd covered.1 (not_le.mpr (lt_of_lt_of_le new after))
  have all := inStep.numbering.wellFormed
  rw [inStep.stored, count_eventOf all ascending (nodup_of_ascending inStep.ascending) ?_
    (List.mem_of_mem_drop member)]
  · by_cases stored : position ∈ tail.stored
    · rw [if_pos (present.mpr stored), if_neg (mt unread_iff.mp (not_not_intro stored))]
    · rw [if_neg (mt present.mp stored), if_pos (unread_iff.mpr stored)]
  · intro other stored
    obtain ⟨place, -, same⟩ := List.mem_filterMap.mp stored
    exact written ▸ List.mem_of_getElem? same

theorem consistent_of_uncleared {db : Database} (fresh : Fresh db) {ops : List LogOperation}
    (uncleared : Runs.Guarded Tailing.step Uncleared ⟨.empty, db⟩ ops) :
    Consistent (Runs.run Tailing.step ⟨.empty, db⟩ ops) :=
  ((InStep.fresh fresh 0).run uncleared).consistent

/-! ## The interrupted run -/

section Interrupted

variable (db : Database) (results : List ReadResult) (sessionId : ℕ) (fails : LogRecord → Bool)
  (committed : ℕ)

theorem storedEvents_interrupted :
    storedEvents (interrupted db "System" results sessionId fails committed) =
      storedEvents db ++ if committed = 0 then [] else
        ((unreadRecords db "System" results).filter fun record => ¬ fails record).map
          (eventOf "System") := by
  have insert : ∀ records : List LogRecord,
      storedEvents (db.insertEvents (records.map (eventOf "System")) sessionId) =
        storedEvents db ++ records.map (eventOf "System") := by
    intro records
    simp only [storedEvents, Database.insertEvents, AutoTable.rows_insertAll, List.map_append,
      List.map_map]
    congr 2
    funext record
    exact toEvent_eventRow sessionId "System" record
  by_cases none : unreadRecords db "System" results = []
  · simp [interrupted, none]
  · rw [interrupted, if_neg none]
    rcases committed with _ | _ | _ | committed
    · simp
    · exact insert _
    · exact insert _
    · rw [List.take_of_length_le (by simp [commits])]
      exact insert _

theorem cursor_interrupted (some : unreadRecords db "System" results ≠ []) :
    cursor (interrupted db "System" results sessionId fails committed) "System" =
      match committed with
      | 0 | 1 => cursor db "System"
      | 2 => ((advance stamp (cursor db "System") (unreadRecords db "System" results)).1,
          lastTs db "System")
      | _ => advance stamp (cursor db "System") (unreadRecords db "System" results) := by
  have different := stateKeyId_ne_stateKeyTs "System"
  rw [interrupted, if_neg some]
  rcases committed with _ | _ | _ | committed
  · rfl
  · rfl
  · rw [cursor, cursor, advance_stamp]
    simp [commits, lastId, lastTs, Database.getState, Database.setState, Database.insertEvents,
      different.symm, intOrNone]
  · rw [List.take_of_length_le (by simp [commits])]
    have both := advance_stamp (unreadRecords db "System" results) (lastId db "System")
      (lastTs db "System")
    exact (cursor_setState _ "System" _ _).trans both.symm

end Interrupted

/-! ## The next run -/

/-- The cursor that the interrupted run leaves hides a new record from the next
run: with the number committed a record from it on must not be later than the
old time, with both committed nothing is needed. -/
def Hidden (db : Database) (log : EventLog) (committed : ℕ) (record : LogRecord) : Prop :=
  match committed with
  | 0 | 1 => False
  | 2 => ∃ other ∈ log.records,
      record.number ≤ other.number ∧ other.timeGenerated ≤ lastTs db "System"
  | _ => True

section NextRun

variable {log next : EventLog} {db : Database} {batches : List (List LogRecord)} {sessionId : ℕ}
  {fails : LogRecord → Bool} {committed : ℕ} {kept appended : List LogRecord}

theorem read_suffix (delivers : log.Delivers batches) :
    unreadRecords db "System" (answers batches false) <:+ (Tailing.mk log db).unread :=
  (unreadRecords_suffix db "System" delivers.filled delivers.whole false).1

theorem unread_suffix_records : (Tailing.mk log db).unread <:+ log.records :=
  unread_suffix stamp _ _

/-- When there is something new, the newest record of the log is read. -/
theorem newest_read (numbered : log.Numbered) (delivers : log.Delivers batches)
    (some : unreadRecords db "System" (answers batches false) ≠ []) :
    ∃ newest ∈ unreadRecords db "System" (answers batches false),
      ∀ record ∈ log.records, record.number ≤ newest.number := by
  obtain ⟨older, whole⟩ := (read_suffix delivers).trans unread_suffix_records
  obtain ⟨first, newest, split⟩ := List.eq_nil_or_concat'
    (unreadRecords db "System" (answers batches false)) |>.resolve_left some
  refine ⟨newest, by simp [split], ?_⟩
  have ascending := numbered.records_ascending
  rw [← whole, split, ← List.append_assoc] at ascending ⊢
  intro record member
  rcases List.mem_append.mp member with earlier | same
  · exact ((List.pairwise_append.mp ascending).2.2 record earlier newest (by simp)).le
  · exact le_of_eq (congrArg _ (List.mem_singleton.mp same))

/-- A record that is still in the log is read again exactly when the cursor
covers no record from it on. -/
theorem mem_next_unread_iff {cursor : ℤ × Epoch} (numbered : log.Numbered)
    (nextNumbered : next.Numbered) (split : next.records = kept ++ appended)
    (old : kept <:+ log.records) (new : ∀ record ∈ appended, ¬ stamp record ≤ cursor)
    {record : LogRecord} (member : record ∈ kept) :
    record ∈ unread stamp cursor next.records ↔ ∀ other ∈ log.records,
      record.number ≤ other.number → ¬ stamp other ≤ cursor := by
  rw [mem_unread_iff nextNumbered.records_ascending, split]
  obtain ⟨older, whole⟩ := old
  have ascending := numbered.records_ascending
  rw [← whole] at ascending ⊢
  constructor
  · rintro ⟨-, none⟩ other otherMember after
    rcases List.mem_append.mp otherMember with gone | still
    · have before := (List.pairwise_append.mp ascending).2.2 other gone record member
      exact absurd after (not_le.mpr before)
    · exact none other (List.mem_append_left _ still) after
  · intro none
    refine ⟨List.mem_append_left _ member, fun other otherMember after => ?_⟩
    rcases List.mem_append.mp otherMember with still | fresh
    · exact none other (List.mem_append_right _ still) after
    · exact new other fresh

/-- What the next run reads again of the records that were new. -/
theorem reread_iff (numbered : log.Numbered) (delivers : log.Delivers batches)
    (nextNumbered : next.Numbered) (split : next.records = kept ++ appended)
    (old : kept <:+ log.records)
    (new : ∀ record ∈ appended, ¬ stamp record ≤
      cursor (interrupted db "System" (answers batches false) sessionId fails committed) "System")
    {record : LogRecord} (member : record ∈ kept)
    (unreadBefore : record ∈ (Tailing.mk log db).unread) :
    record ∈ unread stamp
        (cursor (interrupted db "System" (answers batches false) sessionId fails committed)
          "System") next.records ↔ ¬ Hidden db log committed record := by
  have inLog := old.subset member
  have uncovered := ((mem_unread_iff numbered.records_ascending).mp unreadBefore).2
  have some : unreadRecords db "System" (answers batches false) ≠ [] :=
    (unreadRecords_suffix db "System" delivers.filled delivers.whole false).2
      (List.ne_nil_of_mem unreadBefore)
  obtain ⟨newest, read, greatest⟩ := newest_read numbered delivers some
  have covered : stamp newest ≤ advance stamp (cursor db "System")
      (unreadRecords db "System" (answers batches false)) := stamp_le_advance _ read
  rw [mem_next_unread_iff numbered nextNumbered split old new member,
    cursor_interrupted _ _ _ _ _ some]
  rcases committed with _ | _ | _ | committed
  · exact iff_of_true uncovered id
  · exact iff_of_true uncovered id
  · -- every number of the log is covered, so the time decides
    have numbers : ∀ other ∈ log.records, other.number ≤
        (advance stamp (cursor db "System")
          (unreadRecords db "System" (answers batches false))).1 :=
      fun other otherMember => le_trans (greatest other otherMember) covered.1
    constructor
    · rintro none ⟨other, otherMember, after, early⟩
      exact none other otherMember after ⟨numbers other otherMember, early⟩
    · rintro none other otherMember after ⟨-, early⟩
      exact none ⟨other, otherMember, after, early⟩
  · have newestInLog := ((read_suffix delivers).trans unread_suffix_records).subset read
    refine iff_of_false (fun none => ?_) (not_not_intro trivial)
    exact none newest newestInLog (greatest record inLog) covered

/-- The cursor never moves back. -/
theorem cursor_le_interrupted (db : Database) (results : List ReadResult) (sessionId : ℕ)
    (fails : LogRecord → Bool) (committed : ℕ) :
    cursor db "System" ≤ cursor (interrupted db "System" results sessionId fails committed)
      "System" := by
  by_cases none : unreadRecords db "System" results = []
  · rw [interrupted, if_pos none]
  · have advanced := @le_advance _ _ _ stamp (cursor db "System")
      (unreadRecords db "System" results)
    rw [cursor_interrupted _ _ _ _ _ none]
    rcases committed with _ | _ | _ | committed
    · exact le_rfl
    · exact le_rfl
    · exact ⟨advanced.1, le_rfl⟩
    · exact advanced

/-- How often a record is stored after the interrupted run. -/
theorem count_interrupted (numbered : log.Numbered) (consistent : Consistent ⟨log, db⟩)
    (delivers : log.Delivers batches) {record : LogRecord} (member : record ∈ log.records) :
    (storedEvents (interrupted db "System" (answers batches false) sessionId fails
        committed)).count (eventOf "System" record) =
      (if record ∈ (Tailing.mk log db).unread then 0 else 1) +
        if committed ≠ 0 ∧ record ∈ unreadRecords db "System" (answers batches false) ∧
          ¬ fails record then 1 else 0 := by
  have within : ((unreadRecords db "System" (answers batches false)).filter
      fun record => ¬ fails record).Sublist log.records :=
    List.filter_sublist.trans ((read_suffix delivers).trans unread_suffix_records).sublist
  have rows := count_eventOf numbered.wellFormed_records numbered.records_ascending
    ((nodup_of_ascending numbered.records_ascending).sublist within) within.subset member
  rw [storedEvents_interrupted, List.count_append, consistent record member]
  by_cases none : committed = 0
  · simp [none]
  · rw [if_neg none, rows]
    simp [none]

/-- A successful run stores a record of the log once more exactly when it is new. -/
theorem count_collect {state : Tailing} (numbered : state.log.Numbered)
    {nextBatches : List (List LogRecord)} {nextSession : ℕ}
    (successful : state.Successful (.collect nextBatches nextSession)) {record : LogRecord}
    (member : record ∈ state.log.records) :
    (storedEvents (state.step (.collect nextBatches nextSession)).db).count
        (eventOf "System" record) =
      (storedEvents state.db).count (eventOf "System" record) +
        if record ∈ state.unread then 1 else 0 := by
  have all : unreadRecords state.db "System" (answers nextBatches false) = state.unread :=
    unreadRecords_eq state.db "System" successful.1.filled successful.1.whole false successful.2
  have within : state.unread.Sublist state.log.records := unread_suffix_records.sublist
  have ascending := numbered.records_ascending
  have rows := count_eventOf numbered.wellFormed_records ascending
    ((nodup_of_ascending ascending).sublist within) within.subset member
  rw [← rows, ← List.count_append, ← all, ← storedEvents_collect _ _ _ nextSession]
  rfl

/-- A record that was in the log at the interrupted run, once nothing fresh is
covered. -/
theorem kept_once_iff (numbered : log.Numbered) (consistent : Consistent ⟨log, db⟩)
    (delivers : log.Delivers batches) {crashed : Database}
    (crash : crashed =
      interrupted db "System" (answers batches false) sessionId fails committed)
    (nextNumbered : next.Numbered) (split : next.records = kept ++ appended)
    (old : kept <:+ log.records)
    (new : ∀ record ∈ appended, ¬ stamp record ≤ cursor crashed "System")
    {nextBatches : List (List LogRecord)} {nextSession : ℕ}
    (successful : (Tailing.mk next crashed).Successful (.collect nextBatches nextSession))
    {record : LogRecord} (member : record ∈ kept) :
    (storedEvents ((Tailing.mk next crashed).step (.collect nextBatches nextSession)).db).count
        (eventOf "System" record) = 1 ↔
      (record ∈ (Tailing.mk log db).unread → committed = 0 ∨
        ((record ∈ unreadRecords db "System" (answers batches false) ∧ ¬ fails record) ↔
          Hidden db log committed record)) := by
  subst crash
  rw [count_collect nextNumbered successful (split ▸ List.mem_append_left _ member),
    count_interrupted numbered consistent delivers (old.subset member)]
  let crashed := interrupted db "System" (answers batches false) sessionId fails committed
  by_cases unreadBefore : record ∈ (Tailing.mk log db).unread
  · have reread : record ∈ (Tailing.mk next crashed).unread ↔ ¬ Hidden db log committed record :=
      reread_iff numbered delivers nextNumbered split old new member unreadBefore
    rw [if_pos unreadBefore, Nat.zero_add, imp_iff_right unreadBefore]
    by_cases none : committed = 0
    · rw [if_neg (by simp [none]), if_pos (reread.mpr (by simp [none, Hidden]))]
      simp [none]
    · by_cases hidden : Hidden db log committed record
      · rw [if_neg (mt reread.mp (not_not_intro hidden))]
        simp [none, hidden]
      · rw [if_pos (reread.mpr hidden)]
        simp [none, hidden]
  · have notRead : record ∉ unreadRecords db "System" (answers batches false) := fun read =>
      unreadBefore ((read_suffix delivers).subset read)
    have notReread : record ∉ (Tailing.mk next crashed).unread := by
      rw [Tailing.unread, mem_next_unread_iff numbered nextNumbered split old new member]
      intro none
      refine unreadBefore ((mem_unread_iff numbered.records_ascending).mpr
        ⟨old.subset member, fun other otherMember after covered => ?_⟩)
      exact none other otherMember after
        (le_trans covered (cursor_le_interrupted db _ sessionId fails committed))
    simpa [unreadBefore, notRead] using notReread

variable (sessionId fails committed) in
/-- **After an interrupted run and the next successful one every record of the
log is stored once, exactly when the cursor covers no record that was appended
in the meantime and, if the rows were committed at all, the row of a new record
was written exactly when the cursor hides the record.** -/
theorem interrupted_run_iff (numbered : log.Numbered) (consistent : Consistent ⟨log, db⟩)
    (delivers : log.Delivers batches) {crashed : Database}
    (crash : crashed =
      interrupted db "System" (answers batches false) sessionId fails committed)
    (nextNumbered : next.Numbered) (split : next.records = kept ++ appended)
    (old : kept <:+ log.records)
    (unstored : ∀ record ∈ appended, eventOf "System" record ∉ storedEvents crashed)
    (nextBatches : List (List LogRecord)) (nextSession : ℕ)
    (successful : (Tailing.mk next crashed).Successful (.collect nextBatches nextSession)) :
    (∀ record ∈ next.records,
      (storedEvents ((Tailing.mk next crashed).step (.collect nextBatches nextSession)).db).count
        (eventOf "System" record) = 1) ↔
      (∀ record ∈ appended,
        ¬ Covered (lastId crashed "System") (lastTs crashed "System") record) ∧
      ∀ record ∈ kept, record ∈ (Tailing.mk log db).unread → committed = 0 ∨
        ((record ∈ unreadRecords db "System" (answers batches false) ∧ ¬ fails record) ↔
          Hidden db log committed record) := by
  -- a record that was appended in the meantime is stored when the next run reads it
  have appendedOnce : ∀ record ∈ appended,
      (storedEvents ((Tailing.mk next crashed).step
        (.collect nextBatches nextSession)).db).count (eventOf "System" record) = 1 ↔
      record ∈ (Tailing.mk next crashed).unread := by
    intro record member
    rw [count_collect nextNumbered successful (split ▸ List.mem_append_right _ member),
      List.count_eq_zero_of_not_mem (unstored record member), Nat.zero_add]
    simp
  constructor
  · intro once
    have new : ∀ record ∈ appended, ¬ stamp record ≤ cursor crashed "System" := by
      intro record member
      have reread := (appendedOnce record member).mp
        (once record (split ▸ List.mem_append_right _ member))
      simpa using List.mem_rtakeWhile_imp reread
    refine ⟨new, fun record member => ?_⟩
    have one := once record (split ▸ List.mem_append_left _ member)
    exact (kept_once_iff numbered consistent delivers crash nextNumbered split old new
      successful member).mp one
  · rintro ⟨new, written⟩ record member
    rw [split, List.mem_append] at member
    rcases member with still | fresh
    · exact (kept_once_iff numbered consistent delivers crash nextNumbered split old new
        successful still).mpr (written record still)
    · refine (appendedOnce record fresh).mpr ?_
      rw [Tailing.unread, split, unread_append_of_new kept new]
      exact List.mem_append_right _ fresh

end NextRun

/-- A run that dies before its first commit loses nothing. -/
theorem interrupted_run_before_events :
    let first : LogRecord := { timeGenerated := 1000, recordNumber := some 1 }
    let second : LogRecord := { timeGenerated := 1010, recordNumber := some 2 }
    let log : EventLog := { written := [first], epoch := 0, start := 0 }
    let crashed := interrupted .empty "System" (answers [[first]] false) 1 (fun _ => false) 0
    ∀ record ∈ (log.append second).records,
      (storedEvents ((Tailing.mk (log.append second) crashed).step
        (.collect [[second, first]] 2)).db).count (eventOf "System" record) = 1 := by
  intro first second log crashed
  have written : Runs.Guarded Tailing.step Uncleared ⟨.empty, .empty⟩
      [.append first, .append second] := by
    refine ⟨⟨⟨⟨rfl, by decide, by decide +kernel⟩, by simp [EventLog.empty]⟩, nofun⟩,
      ⟨⟨⟨rfl, by decide, by decide +kernel⟩, by decide⟩, nofun⟩, trivial⟩
  have start := EventLog.Numbered.empty
  have numbered : log.Numbered := EventLog.Numbered.step start written.1.1
  have nextNumbered : (log.append second).Numbered := EventLog.Numbered.step numbered written.2.1.1
  have consistent : Consistent ⟨log, .empty⟩ :=
    consistent_of_uncleared fresh_empty (show Runs.Guarded Tailing.step Uncleared
      ⟨.empty, .empty⟩ [.append first] from ⟨written.1, trivial⟩)
  have delivers : log.Delivers [[first]] := ⟨by simp, rfl⟩
  have exact := interrupted_run_iff 1 (fun _ => false) 0 numbered consistent delivers
    (rfl : crashed = _) nextNumbered (rfl : _ = log.records ++ [second]) List.suffix_rfl
    (by decide +kernel) [[second, first]] 2 ⟨⟨by simp, rfl⟩, by decide +kernel⟩
  exact exact.mpr ⟨by decide +kernel, fun _ _ _ => .inl rfl⟩

/-- After a death between the rows and the cursor the next run stores the record
again; and the cursor passes a record whose row failed. -/
theorem interrupted_run_repeats_or_loses :
    let first : LogRecord := { timeGenerated := 1000, recordNumber := some 1 }
    let log : EventLog := { written := [first], epoch := 0, start := 0 }
    let after := fun fails committed => (Tailing.mk log (interrupted .empty "System"
      (answers [[first]] false) 1 fails committed)).step (.collect [[first]] 2)
    (storedEvents (after (fun _ => false) 1).db).count (eventOf "System" first) = 2 ∧
      (storedEvents (after (fun _ => true) 3).db).count (eventOf "System" first) = 0 := by
  decide +kernel

end WindowsEvents

end PcDiagnosticAgent
