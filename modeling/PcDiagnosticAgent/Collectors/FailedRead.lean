import PcDiagnosticAgent.Collectors.Tailing

/-!
# A read that fails partway

The records are read newest first, and when `ReadEventLog` raises, what was
read so far is stored and moves the cursor. The cursor then covers the newest
record, and no later run reads past it. So what was not read before the failure
is lost, unless the failure came before the first batch and the next run finds
no covered record in the way (`failed_read_iff`).
-/

set_option autoImplicit false

namespace PcDiagnosticAgent

open AutoTables LogTail

namespace WindowsEvents

/-- A run in which `ReadEventLog` raises after some batches: the newest
records of the log were handed out, they are all new, and the cap is not
reached, so that the call that raises is made. -/
structure EventLog.Breaks (log : EventLog) (db : Database) (batches : List (List LogRecord))
    (delivered : List LogRecord) : Prop where
  filled : [] ∉ batches
  whole : batches.flatten = delivered.reverse
  newest : delivered <:+ log.records
  new : ∀ record ∈ delivered, ¬ stamp record ≤ cursor db "System"
  room : delivered.length < maxEventsPerRun

/-- The state after that run. -/
def Tailing.stepFailed (state : Tailing) (batches : List (List LogRecord)) (sessionId : ℕ) :
    Tailing :=
  { state with
    db := WindowsEvents.collect state.db "System" (some (answers batches true)) sessionId }

/-- A record of the log that is newer than the cursor, and still in the log
later. -/
structure Pending (log : EventLog) (db : Database) (later : EventLog) (position : ℕ)
    (record : LogRecord) : Prop where
  found : log.written[position]? = some record
  inside : log.start ≤ position
  new : ¬ Covered (lastId db "System") (lastTs db "System") record
  still : later.start ≤ position

/-- What was delivered before the failure is what is read. -/
theorem unreadRecords_breaks {log : EventLog} {db : Database} {batches : List (List LogRecord)}
    {delivered : List LogRecord} (breaks : log.Breaks db batches delivered) :
    unreadRecords db "System" (answers batches true) = delivered := by
  have all : unread stamp (cursor db "System") delivered = delivered :=
    List.rtakeWhile_eq_self_iff.mpr fun record member => by simpa using breaks.new record member
  have exact := unreadRecords_eq db "System" breaks.filled breaks.whole true
    (all.symm ▸ breaks.room)
  exact exact.trans all

/-! ## The reader at the failure -/

section Failure

variable {log : EventLog} {db : Database} {batches : List (List LogRecord)}
  {delivered : List LogRecord} (start_le : log.start ≤ log.written.length)

theorem follows_opened :
    Follows (storedEvents db) (Tail.opened log.written start_le (cursor db "System"))
      ⟨log, db⟩ where
  written := rfl
  start := rfl
  cursor := rfl
  stored := by simp [Tail.opened, recordsAt]

/-- If the first call raises, nothing happens. -/
theorem stepFailed_nil (breaks : log.Breaks db batches []) (sessionId : ℕ) :
    (Tailing.mk log db).stepFailed batches sessionId = ⟨log, db⟩ := by
  simp only [Tailing.stepFailed, collect, unreadRecords_breaks breaks, if_true]

/-- Otherwise what was delivered is stored, and everything counts as seen. -/
theorem follows_failed (breaks : log.Breaks db batches delivered) (some : delivered ≠ [])
    (sessionId : ℕ) :
    ∃ tail : Tail stamp,
      Follows (storedEvents db) tail ((Tailing.mk log db).stepFailed batches sessionId) ∧
      Tail.Later (Tail.opened log.written start_le (cursor db "System")) tail ∧
      tail.seen = log.written.length ∧
      ∀ position, position ∈ tail.stored ↔
        log.written.length - delivered.length ≤ position ∧ position < log.written.length := by
  have read := unreadRecords_breaks breaks
  have newest : unreadRecords db "System" (answers batches true) <:+
      (Tailing.mk log db).unread := by
    obtain ⟨rest, whole⟩ := breaks.newest
    rw [read, Tailing.unread, ← whole, unread_append_of_new rest breaks.new]
    exact List.suffix_append _ _
  obtain ⟨within, positive, follows⟩ := (follows_opened start_le).read newest
    (fun _ => read.symm ▸ some) sessionId
  refine ⟨_, follows, Tail.later_collect _ within positive, rfl, fun position => ?_⟩
  have stored : position ∈ List.range' (log.written.length -
      (unreadRecords db "System" (answers batches true)).length)
      (unreadRecords db "System" (answers batches true)).length ↔
      log.written.length - delivered.length ≤ position ∧ position < log.written.length := by
    have fits := (breaks.newest.trans (List.drop_suffix _ _)).length_le
    rw [read, List.mem_range'_1]
    omega
  exact stored

end Failure

/-! ## The records that are still there -/

/-- Two records since the last clear with the same event are the same. -/
theorem EventLog.Numbered.position_unique {log : EventLog} (numbered : log.Numbered)
    {first second : ℕ} {record other : LogRecord} (found : log.written[first]? = some record)
    (foundOther : log.written[second]? = some other) (inside : log.epoch ≤ first)
    (insideOther : log.epoch ≤ second)
    (same : eventOf "System" record = eventOf "System" other) : first = second := by
  have numbers : record.recordNumber = other.recordNumber := congrArg (·.recordId) same
  rw [(numbered.wellFormed _ (List.mem_of_getElem? found)).numbered,
    (numbered.wellFormed _ (List.mem_of_getElem? foundOther)).numbered] at numbers
  have equal := Option.some.inj numbers
  have ascending := List.pairwise_iff_getElem.mp numbered.ascending
  obtain ⟨bound, rfl⟩ := List.getElem?_eq_some_iff.mp found
  obtain ⟨boundOther, rfl⟩ := List.getElem?_eq_some_iff.mp foundOther
  have before : ∀ {low high : ℕ} (lowBound : low < log.written.length)
      (highBound : high < log.written.length), log.epoch ≤ low → low < high →
      log.written[low].number < log.written[high].number := by
    intro low high lowBound highBound since less
    have step := ascending (low - log.epoch) (high - log.epoch)
      (by rw [List.length_drop]; omega) (by rw [List.length_drop]; omega) (by omega)
    simpa [Nat.add_sub_cancel' since, Nat.add_sub_cancel' (le_trans since less.le)] using step
  rcases Nat.lt_trichotomy first second with less | rfl | more
  · exact absurd equal (before bound boundOther inside less).ne
  · rfl
  · exact absurd equal (before boundOther bound insideOther more).ne'

/-- A clear counts from the end of everything that was written. -/
theorem epoch_run {state : Tailing} {length : ℕ} (within : length ≤ state.log.written.length)
    (ops : List LogOperation) :
    (Runs.run Tailing.step state ops).log.epoch = state.log.epoch ∨
      length ≤ (Runs.run Tailing.step state ops).log.epoch := by
  induction ops generalizing state with
  | nil => exact .inl rfl
  | cons op ops ih =>
    cases op with
    | append record =>
      exact @ih (state.step (.append record))
        (le_trans within (by simp [Tailing.step, EventLog.append]))
    | overwrite count => exact @ih (state.step (.overwrite count)) within
    | collect batches sessionId => exact @ih (state.step (.collect batches sessionId)) within
    | clear =>
      rcases @ih (state.step .clear) within with same | later
      · exact .inr (same ▸ within)
      · exact .inr later

/-- The event of a record that is still in the log is stored if it was there
before, or if the reader has stored the record. -/
theorem mem_storedEvents_iff {tail opened : Tail stamp} {earlier : List Event} {ended : Tailing}
    {epoch position : ℕ} {record : LogRecord} (follows : Follows earlier tail ended)
    (numbered : ended.log.Numbered) (later : Tail.Later opened tail) (none : opened.stored = [])
    (same : ended.log.epoch = epoch) (since : epoch ≤ opened.start)
    (found : ended.log.written[position]? = some record) (inside : epoch ≤ position) :
    eventOf "System" record ∈ storedEvents ended.db ↔
      eventOf "System" record ∈ earlier ∨ position ∈ tail.stored := by
  rw [follows.stored, List.mem_append]
  refine or_congr_right ⟨fun member => ?_, fun member => ?_⟩
  · obtain ⟨other, stored, event⟩ := List.mem_map.mp member
    obtain ⟨place, placed, foundOther⟩ := List.mem_filterMap.mp stored
    rw [follows.written] at foundOther
    have insideOther := le_trans since (later.start_le none placed)
    have one := numbered.position_unique foundOther found (same ▸ insideOther) (same ▸ inside) event
    exact one ▸ placed
  · refine List.mem_map.mpr ⟨record, List.mem_filterMap.mpr ⟨position, member, ?_⟩, rfl⟩
    rw [follows.written]
    exact found

/-- The first run after a while stores a record exactly when no record from it
on is covered, and later runs change nothing about it. -/
theorem mem_first_run_iff {tail : Tail stamp} {earlier : List Event} {state : Tailing}
    (follows : Follows earlier tail state) {before : List LogOperation}
    (idle : ∀ op ∈ before, ∀ batches sessionId, op ≠ .collect batches sessionId)
    (successful : Runs.Guarded Tailing.step Tailing.Successful state before)
    (batches : List (List LogRecord)) (sessionId : ℕ) (after : List LogOperation) {position : ℕ}
    (kept : (Runs.run Tailing.step state before).log.start ≤ position)
    (within : position < state.log.written.length) :
    position ∈ (Runs.run track tail (before ++ .collect batches sessionId :: after)).stored ↔
      position ∈ tail.stored ∨
        ∀ record ∈ (Runs.run Tailing.step state before).log.written.drop position,
          ¬ stamp record ≤ tail.cursor := by
  have atRun := follows.run successful
  have unchanged : ∀ later op, (∀ batches sessionId, op ≠ LogOperation.collect batches sessionId) →
      ((track later op).stored, (track later op).cursor) = (later.stored, later.cursor) := by
    intro later op notRun
    cases op with
    | append record => rfl
    | overwrite count => rfl
    | clear => rfl
    | collect batches sessionId => exact absurd rfl (notRun batches sessionId)
  have same := Runs.run_unchanged (fun tail : Tail stamp => (tail.stored, tail.cursor))
    unchanged tail idle
  obtain ⟨stored, cursor⟩ := Prod.mk.inj same
  have longer := (later_run tail before).written.length_le
  rw [follows.written] at longer
  have whole : Runs.run track tail (before ++ .collect batches sessionId :: after) =
      Runs.run track (Runs.run track tail before).collectAll after := Runs.run_append _ _ _ _
  have decided : position < (Runs.run track tail before).collectAll.seen :=
    lt_of_lt_of_le within longer
  rw [whole, (later_run _ after).mem_stored_iff decided,
    Tail.mem_collectAll _ (by rwa [atRun.start]) decided, stored, cursor, atRun.written]

section Rounds

variable {log : EventLog} {db : Database} {batches : List (List LogRecord)}
  {delivered : List LogRecord} {sessionId : ℕ} {ops before : List LogOperation}
  {nextBatches : List (List LogRecord)} {nextSession : ℕ} {after : List LogOperation}

/-- A log that still holds a pending record was not cleared. -/
theorem Pending.epoch_eq {state : Tailing} {position : ℕ} {record : LogRecord}
    (pending : Pending state.log db (Runs.run Tailing.step state ops).log position record)
    (numbered : (Runs.run Tailing.step state ops).log.Numbered) :
    (Runs.run Tailing.step state ops).log.epoch = state.log.epoch := by
  have within := (List.getElem?_eq_some_iff.mp pending.found).1
  rcases epoch_run le_rfl ops with same | cleared
  · exact same
  · have beyond : state.log.written.length ≤ position :=
      le_trans cleared (le_trans numbered.epoch_le pending.still)
    exact absurd within (Nat.not_lt.mpr beyond)

/-- A pending record ends up stored when it was stored already, or when the
reader that follows the log from the failure on stores it. -/
theorem Pending.stored_iff {state : Tailing} {position : ℕ} {record : LogRecord}
    (pending : Pending state.log db (Runs.run Tailing.step state ops).log position record)
    (numbered : state.log.Numbered)
    (successful : Runs.Guarded Tailing.step Tailing.Successful state ops)
    {earlier : List Event} {tail : Tail stamp} (follows : Follows earlier tail state)
    (later : Tail.Later
      (Tail.opened state.log.written numbered.start_le (cursor db "System")) tail) :
    eventOf "System" record ∈ storedEvents (Runs.run Tailing.step state ops).db ↔
      eventOf "System" record ∈ earlier ∨ position ∈ (Runs.run track tail ops).stored := by
  have endNumbered : (Runs.run Tailing.step state ops).log.Numbered :=
    successful.invariant (fun state => state.log.Numbered) (fun _ _ ok kept => kept.step ok)
      numbered
  have within := (List.getElem?_eq_some_iff.mp pending.found).1
  have longer := (later_run tail ops).written
  rw [follows.written, (follows.run successful).written] at longer
  obtain ⟨rest, whole⟩ := longer
  refine mem_storedEvents_iff (follows.run successful) endNumbered
    (later.trans (later_run tail ops)) rfl (pending.epoch_eq endNumbered) numbered.epoch_le ?_
    (le_trans numbered.epoch_le pending.inside)
  rw [← whole]
  exact (List.getElem?_append_left within).trans pending.found

/-- What is still there at the end was there at any time before. -/
theorem start_le_of_run {earlier : List Event} {tail : Tail stamp} {state : Tailing}
    (follows : Follows earlier tail state)
    (successful : Runs.Guarded Tailing.step Tailing.Successful state (before ++ after)) :
    (Runs.run Tailing.step state before).log.start ≤
      (Runs.run Tailing.step state (before ++ after)).log.start := by
  have first := follows.run (Runs.guarded_append.mp successful).1
  have last := follows.run successful
  have later := later_run (Runs.run track tail before) after
  rw [← Runs.run_append] at later
  have less := later.start
  rwa [first.start, last.start] at less

/-- One pending record ends up stored exactly when it was delivered, was stored
already, or nothing was delivered and no covered record is in its way at the
next run. -/
theorem pending_stored_iff (numbered : log.Numbered) (breaks : log.Breaks db batches delivered)
    (idle : ∀ op ∈ before, ∀ batches sessionId, op ≠ .collect batches sessionId)
    (successful : Runs.Guarded Tailing.step Tailing.Successful
      ((Tailing.mk log db).stepFailed batches sessionId)
      (before ++ .collect nextBatches nextSession :: after))
    {position : ℕ} {record : LogRecord}
    (pending : Pending log db (Runs.run Tailing.step
      ((Tailing.mk log db).stepFailed batches sessionId)
      (before ++ .collect nextBatches nextSession :: after)).log position record) :
    eventOf "System" record ∈ storedEvents (Runs.run Tailing.step
        ((Tailing.mk log db).stepFailed batches sessionId)
        (before ++ .collect nextBatches nextSession :: after)).db ↔
      (position + delivered.length < log.written.length →
        eventOf "System" record ∈ storedEvents db ∨ delivered = [] ∧
          ∀ other ∈ (Runs.run Tailing.step ((Tailing.mk log db).stepFailed batches sessionId)
            before).log.written.drop position,
            ¬ Covered (lastId db "System") (lastTs db "System") other) := by
  let failed := (Tailing.mk log db).stepFailed batches sessionId
  let opened : Tail stamp := Tail.opened log.written numbered.start_le (cursor db "System")
  have within := (List.getElem?_eq_some_iff.mp pending.found).1
  have fits := (breaks.newest.trans (List.drop_suffix _ _)).length_le
  by_cases none : delivered = []
  · -- the first call raised, and the next run decides
    subst none
    have unchanged : failed = ⟨log, db⟩ := stepFailed_nil breaks sessionId
    have follows : Follows (storedEvents db) opened failed :=
      unchanged.symm ▸ follows_opened numbered.start_le
    have start := le_trans (start_le_of_run follows successful) pending.still
    have decided := mem_first_run_iff follows idle (Runs.guarded_append.mp successful).1
      nextBatches nextSession after start within
    rw [pending.stored_iff numbered successful follows (.refl opened), decided]
    have unstored : position ∉ opened.stored := by simp [opened, Tail.opened]
    simp only [unstored, false_or, List.length_nil, Nat.add_zero, within, true_implies, true_and]
    rfl
  · obtain ⟨tail, follows, later, seen, stored⟩ :=
      follows_failed numbered.start_le breaks none sessionId
    rw [pending.stored_iff numbered successful follows later,
      (later_run tail _).mem_stored_iff (seen ▸ within), stored]
    simp only [none, false_and, or_false]
    constructor
    · rintro (already | delivered) missed
      · exact already
      · omega
    · intro already
      by_cases missed : position + delivered.length < log.written.length
      · exact .inl (already missed)
      · exact .inr ⟨by omega, within⟩

variable (sessionId before nextBatches nextSession after) in
/-- **After a failed read, every newer record that is still in the log ends up
stored exactly when each such record that the read did not reach was stored
already, or the first call failed and the next run finds no covered record in
the way.** -/
theorem failed_read_iff (numbered : log.Numbered) (breaks : log.Breaks db batches delivered)
    (idle : ∀ op ∈ before, ∀ batches sessionId, op ≠ .collect batches sessionId)
    (successful : Runs.Guarded Tailing.step Tailing.Successful
      ((Tailing.mk log db).stepFailed batches sessionId)
      (before ++ .collect nextBatches nextSession :: after)) :
    let failed := (Tailing.mk log db).stepFailed batches sessionId
    let next := Runs.run Tailing.step failed before
    let ended := Runs.run Tailing.step failed (before ++ .collect nextBatches nextSession :: after)
    (∀ position record, Pending log db ended.log position record →
      eventOf "System" record ∈ storedEvents ended.db) ↔
      ∀ position record, Pending log db ended.log position record →
        position + delivered.length < log.written.length →
        eventOf "System" record ∈ storedEvents db ∨ delivered = [] ∧
          ∀ other ∈ next.log.written.drop position,
            ¬ Covered (lastId db "System") (lastTs db "System") other := by
  intro failed next ended
  refine forall_congr' fun position => forall_congr' fun record => ?_
  exact forall_congr' fun pending => pending_stored_iff numbered breaks idle successful pending

end Rounds

/-- When the first call fails and nothing covered is in the way, nothing is
lost. -/
theorem failed_read_at_first_call :
    let first : LogRecord := { timeGenerated := 1000, recordNumber := some 1 }
    let second : LogRecord := { timeGenerated := 1010, recordNumber := some 2 }
    let log : EventLog := { written := [first, second], epoch := 0, start := 0 }
    let ended := Runs.run Tailing.step ((Tailing.mk log .empty).stepFailed [] 1)
      [.collect [[second, first]] 1]
    ∀ position record, Pending log .empty ended.log position record →
      eventOf "System" record ∈ storedEvents ended.db := by
  intro first second log ended
  have numbered : log.Numbered := by
    refine ⟨le_rfl, Nat.zero_le _, ?_, by decide +kernel⟩
    intro record member
    have cases : record = first ∨ record = second := by simpa [log] using member
    rcases cases with rfl | rfl
    · exact ⟨rfl, by decide, by decide +kernel⟩
    · exact ⟨rfl, by decide, by decide +kernel⟩
  have breaks : log.Breaks .empty [] [] :=
    ⟨by simp, rfl, List.nil_suffix, by simp, by decide⟩
  have exact := failed_read_iff 1 [] [[second, first]] 1 [] numbered breaks (by simp)
    ⟨⟨⟨by simp, rfl⟩, by decide +kernel⟩, trivial⟩
  refine exact.mpr fun position record _ _ => .inr ⟨rfl, fun other member => ?_⟩
  have positive := (numbered.wellFormed other (List.mem_of_mem_drop member)).positive
  exact fun covered => absurd covered.1 (not_le.mpr positive)

/-- The newest record was handed out before the failure; the older one is never
stored. -/
theorem failed_read_loses_older_record :
    let first : LogRecord := { timeGenerated := 1000, recordNumber := some 1 }
    let second : LogRecord := { timeGenerated := 1010, recordNumber := some 2 }
    let log : EventLog := { written := [first, second], epoch := 0, start := 0 }
    let failed := (Tailing.mk log .empty).stepFailed [[second]] 1
    let ended := failed.step (.collect [[second, first]] 1)
    log.Breaks .empty [[second]] [second] ∧
      failed.Successful (.collect [[second, first]] 1) ∧
      Pending log .empty ended.log 0 first ∧
      eventOf "System" first ∉ storedEvents ended.db := by
  refine ⟨⟨by simp, rfl, by decide, by decide +kernel, by decide⟩,
    ⟨⟨by simp, rfl⟩, by decide +kernel⟩, ⟨rfl, by decide, by decide +kernel, by decide⟩,
    by decide +kernel⟩

end WindowsEvents

end PcDiagnosticAgent
