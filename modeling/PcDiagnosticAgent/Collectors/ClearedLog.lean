import PcDiagnosticAgent.Collectors.UnclearedLog

/-!
# A log that is cleared

Clearing starts the record numbers again from 1 while the number of the cursor
stays, so that for a while only the time decides what is new. As long as the
times do not go back, a record is stored exactly when the run that finds it
first finds it above one half of the cursor (`found_records_stored_once`), which
is the largest number and the largest time of everything that is stored. What is
left out was written after a clear in the second of the newest stored record; this
is the fallback to the last seen timestamp that the collector documents.
-/

set_option autoImplicit false

namespace PcDiagnosticAgent

open AutoTables LogTail

namespace WindowsEvents

/-- A step of a history whose times do not go back. -/
def Chronological (state : Tailing) (op : LogOperation) : Prop :=
  state.Successful op ∧ ∀ record, op = .append record →
    ∀ earlier ∈ state.log.written, earlier.timeGenerated ≤ record.timeGenerated

/-- Only a record that is written brings a time. -/
theorem chronological_of_ne {state : Tailing} {op : LogOperation} (successful : state.Successful op)
    (notWritten : ∀ record, op ≠ .append record) : Chronological state op :=
  ⟨successful, fun record same => absurd same (notWritten record)⟩

/-- No run of the history has found the record at the position. -/
def Unmet (state : Tailing) (ops : List LogOperation) (position : ℕ) : Prop :=
  ∀ done batches sessionId rest, ops = done ++ .collect batches sessionId :: rest →
    (Runs.run Tailing.step state done).log.written.length ≤ position

theorem unmet_cons {state : Tailing} {op : LogOperation} {ops : List LogOperation}
    {position : ℕ} :
    Unmet state (op :: ops) position ↔
      (∀ batches sessionId, op = .collect batches sessionId →
        state.log.written.length ≤ position) ∧ Unmet (state.step op) ops position := by
  constructor
  · intro unmet
    refine ⟨fun batches sessionId run => unmet [] batches sessionId ops (run ▸ rfl), ?_⟩
    intro done batches sessionId rest split
    exact unmet (op :: done) batches sessionId rest (congrArg (op :: ·) split)
  · rintro ⟨here, unmet⟩ done batches sessionId rest split
    cases done with
    | nil => exact here batches sessionId (List.cons.inj split).1
    | cons first done =>
      obtain ⟨rfl, remaining⟩ := List.cons.inj split
      exact unmet done batches sessionId rest remaining

theorem unmet_nil (state : Tailing) (position : ℕ) : Unmet state [] position := by
  intro done batches sessionId rest split
  simp at split

/-! ## Numbers and times -/

/-- The numbers ascend from the last clear on, the times from the beginning. -/
structure Dated (log : EventLog) : Prop where
  numbered : log.Numbered
  times : log.written.Pairwise fun earlier later => earlier.timeGenerated ≤ later.timeGenerated

namespace Dated

theorem empty : Dated .empty := ⟨.empty, .nil⟩

theorem step {state : Tailing} {op : LogOperation} (dated : Dated state.log)
    (chronological : Chronological state op) : Dated (state.step op).log where
  numbered := dated.numbered.step chronological.1
  times := by
    cases op with
    | append record =>
      refine List.pairwise_append.mpr ⟨dated.times, List.pairwise_singleton _ _, ?_⟩
      simpa using chronological.2 record rfl
    | overwrite count => exact dated.times
    | clear => exact dated.times
    | collect batches sessionId => exact dated.times

/-- Within the log the stamps ascend. -/
theorem stamps {log : EventLog} (dated : Dated log) :
    log.records.Pairwise fun earlier later => stamp earlier ≤ stamp later := by
  have times : log.records.Pairwise fun earlier later =>
      earlier.timeGenerated ≤ later.timeGenerated := dated.times.sublist (List.drop_sublist _ _)
  refine (dated.numbered.records_ascending.and times).imp fun both => ?_
  exact ⟨both.1.le, both.2⟩

/-- Before the first clear there is one numbering. -/
theorem oneNumbering {log : EventLog} (dated : Dated log) (uncleared : log.epoch = 0) :
    OneNumbering log := by
  refine ⟨uncleared, dated.numbered.wellFormed, ?_⟩
  have ascending := dated.numbered.ascending
  rwa [uncleared] at ascending

end Dated

/-! ## The reader of a dated log -/

/-- The records written since the last run are not dated before the cursor. -/
structure NotBehind (tail : Tail stamp) : Prop where
  below : ∀ time : Epoch, 0 ≤ time → (∀ record ∈ tail.written, record.timeGenerated ≤ time) →
    tail.cursor.2 ≤ time
  behind : ∀ position, tail.seen ≤ position → ∀ record ∈ tail.written[position]?,
    tail.cursor.2 ≤ record.timeGenerated

namespace NotBehind

variable {tail : Tail stamp}

theorem empty : NotBehind (Tail.empty (0, 0)) where
  below := fun _ dated _ => dated
  behind := by simp [Tail.empty, Tail.opened]

theorem append (notBehind : NotBehind tail) {record : LogRecord} (wellFormed : WellFormed record)
    (later : ∀ earlier ∈ tail.written, earlier.timeGenerated ≤ record.timeGenerated) :
    NotBehind (tail.append record) where
  below := fun time dated all =>
    notBehind.below time dated fun other member => all other (List.mem_append_left _ member)
  behind := by
    intro position unseen other found
    have found : other ∈ (tail.written ++ [record])[position]? := found
    rcases Nat.lt_or_ge position tail.written.length with old | new
    · rw [List.getElem?_append_left old] at found
      exact notBehind.behind position unseen other found
    · rw [List.getElem?_append_right new] at found
      rw [List.mem_singleton.mp (List.mem_of_getElem? found)]
      exact notBehind.below record.timeGenerated wellFormed.dated later

theorem forget (notBehind : NotBehind tail) (count : ℕ) : NotBehind (tail.forget count) :=
  ⟨notBehind.below, notBehind.behind⟩

theorem collectAll (notBehind : NotBehind tail) : NotBehind tail.collectAll where
  below := by
    intro time dated all
    have bound : tail.collectAll.cursor ≤ (tail.collectAll.cursor.1, time) := by
      have old : tail.cursor ≤ tail.collectAll.cursor := le_advance _ _
      refine advance_le_iff.mpr ⟨⟨old.1, notBehind.below time dated all⟩, ?_⟩
      intro record member
      exact ⟨(stamp_le_advance tail.cursor member).1, all record (List.mem_of_mem_drop member)⟩
    exact bound.2
  behind := by
    intro position unseen record found
    have none : tail.written[position]? = none := List.getElem?_eq_none unseen
    exact absurd (none.symm.trans found) nofun

end NotBehind

/-! ## Histories with clears -/

/-- The reader, the log and the database of a history whose times do not go
back. Until the first clear nothing is lost. -/
structure InOrder (tail : Tail stamp) (state : Tailing) : Prop where
  follows : Follows [] tail state
  dated : Dated state.log
  notBehind : NotBehind tail
  nothingLost : state.log.epoch = 0 → NothingLost 0 tail
  exact : CursorExact state.db

namespace InOrder

variable {tail : Tail stamp} {state : Tailing}

theorem fresh {db : Database} (fresh : Fresh db) :
    InOrder (Tail.empty (0, 0)) ⟨.empty, db⟩ where
  follows := (InStep.fresh fresh 0).follows
  dated := .empty
  notBehind := .empty
  nothingLost := fun _ => .empty 0
  exact := cursorExact_fresh fresh

theorem step (inOrder : InOrder tail state) {op : LogOperation}
    (chronological : Chronological state op) : InOrder (track tail op) (state.step op) where
  follows := inOrder.follows.step chronological.1
  dated := inOrder.dated.step chronological
  notBehind := by
    obtain ⟨successful, later⟩ := chronological
    cases op with
    | append record =>
      refine inOrder.notBehind.append successful.1 ?_
      rw [inOrder.follows.written]
      exact later record rfl
    | overwrite count => exact inOrder.notBehind.forget count
    | clear => exact inOrder.notBehind.forget _
    | collect batches sessionId => exact inOrder.notBehind.collectAll
  nothingLost := by
    intro uncleared
    have written := inOrder.follows.written
    cases op with
    | clear =>
      -- a clear of the log that nothing was ever written to
      have none : state.log.written = [] := List.eq_nil_of_length_eq_zero uncleared
      have epoch := inOrder.dated.numbered.epoch_le
      have start := inOrder.dated.numbered.start_le
      rw [none, List.length_nil] at start
      exact (inOrder.nothingLost (by omega)).forget _
    | append record =>
      exact (inOrder.nothingLost uncleared).track written (inOrder.dated.oneNumbering uncleared)
        ⟨chronological.1, nofun⟩
    | overwrite count =>
      exact (inOrder.nothingLost uncleared).track written (inOrder.dated.oneNumbering uncleared)
        ⟨chronological.1, nofun⟩
    | collect batches sessionId =>
      exact (inOrder.nothingLost uncleared).track written (inOrder.dated.oneNumbering uncleared)
        ⟨chronological.1, nofun⟩
  exact := by
    cases op with
    | append record => exact inOrder.exact
    | overwrite count => exact inOrder.exact
    | clear => exact inOrder.exact
    | collect batches sessionId =>
      exact inOrder.exact.collect sessionId fun _ member =>
        wellFormed_read inOrder.dated.numbered.wellFormed chronological.1.1 member

theorem run (inOrder : InOrder tail state) {ops : List LogOperation}
    (chronological : Runs.Guarded Tailing.step Chronological state ops) :
    InOrder (Runs.run track tail ops) (Runs.run Tailing.step state ops) := by
  induction ops generalizing tail state with
  | nil => exact inOrder
  | cons op ops ih => exact ih (inOrder.step chronological.1) chronological.2

/-- A record that no run has found lies behind the last run. -/
theorem seen_le (inOrder : InOrder tail state) {position : ℕ} (early : tail.seen ≤ position)
    {ops : List LogOperation} (chronological : Runs.Guarded Tailing.step Chronological state ops)
    (unmet : Unmet state ops position) : (Runs.run track tail ops).seen ≤ position := by
  induction ops generalizing tail state with
  | nil => exact early
  | cons op ops ih =>
    obtain ⟨here, unmet⟩ := unmet_cons.mp unmet
    refine ih (inOrder.step chronological.1) ?_ chronological.2 unmet
    cases op with
    | append record => exact early
    | overwrite count => exact early
    | clear => exact early
    | collect batches sessionId =>
      exact le_of_eq_of_le (congrArg List.length inOrder.follows.written)
        (here batches sessionId rfl)

/-- A run stores the record it finds first exactly when the cursor does not
cover it. -/
theorem mem_collectAll (inOrder : InOrder tail state) {position : ℕ} {record : LogRecord}
    (kept : state.log.start ≤ position) (found : record ∈ state.log.written[position]?)
    (unseen : tail.seen ≤ position) :
    position ∈ tail.collectAll.stored ↔
      ¬ Covered (lastId state.db "System") (lastTs state.db "System") record := by
  obtain ⟨within, same⟩ := List.getElem?_eq_some_iff.mp found
  have written := inOrder.follows.written
  rw [← inOrder.follows.start] at kept
  rw [tail.mem_collectAll kept (by rwa [written]), covered_iff, ← cursor,
    ← inOrder.follows.cursor]
  have notStored : position ∉ tail.stored := fun member =>
    absurd (tail.stored_lt position member) (Nat.not_lt.mpr unseen)
  have suffix : tail.written.drop position = record :: tail.written.drop (position + 1) := by
    rw [written, List.drop_eq_getElem_cons within, same]
  have ascending : (tail.written.drop position).Pairwise
      fun earlier later => stamp earlier ≤ stamp later := by
    have stamps := inOrder.dated.stamps
    rw [EventLog.records, ← written, ← inOrder.follows.start] at stamps
    exact stamps.sublist (List.drop_sublist_drop_left _ kept)
  rw [suffix] at ascending ⊢
  rw [or_iff_right notStored]
  constructor
  · intro new
    exact new record List.mem_cons_self
  · -- the stamps ascend from the record on
    rintro new other member covered
    rcases List.mem_cons.mp member with rfl | later
    · exact new covered
    · exact new (le_trans (List.rel_of_pairwise_cons ascending later) covered)

/-- What a run leaves out was written in the second of the newest stored
record, and after a clear. -/
theorem of_covered (inOrder : InOrder tail state) {position : ℕ} {record : LogRecord}
    (found : record ∈ state.log.written[position]?) (unseen : tail.seen ≤ position)
    (covered : Covered (lastId state.db "System") (lastTs state.db "System") record) :
    record.timeGenerated = lastTs state.db "System" ∧ 0 < state.log.epoch := by
  rw [← inOrder.follows.written] at found
  have cursor := inOrder.follows.cursor
  have notBehind := inOrder.notBehind.behind position unseen record found
  rw [cursor] at notBehind
  refine ⟨le_antisymm covered.2 notBehind, Nat.pos_of_ne_zero fun uncleared => ?_⟩
  have new := (inOrder.nothingLost uncleared).behind position unseen record found
  rw [cursor] at new
  exact absurd covered.1 (not_le.mpr new)

end InOrder

/-- **In a log that is cleared, no record is stored twice, the cursor is the largest
number and time that is stored, and the run that first finds a record stores it
exactly when it is numbered above or dated after these. What it leaves out was
written after a clear, in the second of the newest stored record.** -/
theorem found_records_stored_once {db : Database} (fresh : Fresh db) (ops : List LogOperation)
    (chronological : Runs.Guarded Tailing.step Chronological ⟨.empty, db⟩ ops) :
    ∃ positions : List ℕ, (positions.Pairwise fun earlier later => earlier < later) ∧
      storedEvents (Runs.run Tailing.step ⟨.empty, db⟩ ops).db =
        (recordsAt (Runs.run Tailing.step ⟨.empty, db⟩ ops).log.written positions).map
          (eventOf "System") ∧
      CursorExact (Runs.run Tailing.step ⟨.empty, db⟩ ops).db ∧
      ∀ before batches sessionId after, ops = before ++ .collect batches sessionId :: after →
        let met := Runs.run Tailing.step ⟨.empty, db⟩ before
        ∀ position record, met.log.start ≤ position → met.log.written[position]? = some record →
          Unmet ⟨.empty, db⟩ before position →
          (position ∈ positions ↔
            ¬ Covered (lastId met.db "System") (lastTs met.db "System") record) ∧
          (Covered (lastId met.db "System") (lastTs met.db "System") record →
            record.timeGenerated = lastTs met.db "System" ∧ 0 < met.log.epoch) := by
  have start := InOrder.fresh fresh
  have atEnd := start.run chronological
  refine ⟨(Runs.run track (Tail.empty (0, 0)) ops).stored, Tail.ascending _, ?_, atEnd.exact, ?_⟩
  · have stored := atEnd.follows.stored
    rw [atEnd.follows.written] at stored
    exact stored.trans (List.nil_append _)
  · intro before batches sessionId after split met position record kept found unmet
    rw [split, Runs.guarded_append] at chronological
    have atRun := start.run chronological.1
    have unseen := start.seen_le (Nat.zero_le _) chronological.1 unmet
    refine ⟨?_, atRun.of_covered found unseen⟩
    -- the run decides about the record, and nothing later does
    have whole : Runs.run track (Tail.empty (0, 0)) ops =
        Runs.run track (Runs.run track (Tail.empty (0, 0)) before).collectAll after := by
      rw [split, Runs.run_append]
      rfl
    have written := congrArg List.length atRun.follows.written
    have decided : position < (Runs.run track (Tail.empty (0, 0)) before).collectAll.seen :=
      lt_of_lt_of_eq (List.getElem?_eq_some_iff.mp found).1 written.symm
    rw [whole, (later_run _ after).mem_stored_iff decided]
    exact atRun.mem_collectAll kept found unseen

/-- A log with one record is below the cap. -/
theorem successful_single {state : Tailing} {record : LogRecord}
    (records : state.log.records = [record]) (sessionId : ℕ) :
    state.Successful (.collect [[record]] sessionId) := by
  refine ⟨⟨by simp, by simp [records]⟩, ?_⟩
  have short : state.unread.length ≤ 1 :=
    le_of_le_of_eq (unread_suffix stamp (cursor state.db "System") state.log.records).length_le
      (congrArg List.length records)
  exact lt_of_le_of_lt short (show 1 < maxEventsPerRun by decide)

/-- Each of two records is read, and between the runs the log is cleared. -/
theorem chronological_cleared {first second : LogRecord} (firstFormed : WellFormed first)
    (secondFormed : WellFormed second) (later : first.timeGenerated ≤ second.timeGenerated) :
    Runs.Guarded Tailing.step Chronological ⟨.empty, .empty⟩
      [.append first, .collect [[first]] 1, .clear, .append second, .collect [[second]] 1] := by
  have reading : ∀ state : Tailing, ∀ record, state.log.records = [record] →
      Chronological state (.collect [[record]] 1) :=
    fun _ _ records => chronological_of_ne (successful_single records 1) (by simp)
  have start : Chronological ⟨.empty, .empty⟩ (.append first) :=
    ⟨⟨firstFormed, by simp [EventLog.empty]⟩, by simp [EventLog.empty]⟩
  have clearing : ∀ state, Chronological state .clear :=
    fun _ => chronological_of_ne trivial (by simp)
  refine ⟨start, reading _ first rfl, clearing _, ?_, reading _ second rfl, trivial⟩
  let cleared := Runs.run Tailing.step ⟨.empty, .empty⟩
    [.append first, .collect [[first]] 1, .clear]
  have written : cleared.log.written = [first] := rfl
  have sinceClear : cleared.log.written.drop cleared.log.epoch = [] := rfl
  have fresh : cleared.log.Writable second := ⟨secondFormed, by simp [sinceClear]⟩
  refine ⟨fresh, fun record appended earlier member => ?_⟩
  obtain rfl := List.mem_singleton.mp (written ▸ member)
  exact LogOperation.append.inj appended ▸ later

/-- A record that is written a second after the clear is stored. -/
theorem found_records_stored_once_after_clear :
    let first : LogRecord := { timeGenerated := 1000, recordNumber := some 1 }
    let second : LogRecord := { timeGenerated := 1001, recordNumber := some 1 }
    let ended := Runs.run Tailing.step ⟨.empty, .empty⟩
      [.append first, .collect [[first]] 1, .clear, .append second, .collect [[second]] 1]
    ∃ positions : List ℕ, (positions.Pairwise fun earlier later => earlier < later) ∧
      storedEvents ended.db =
        (recordsAt ended.log.written positions).map (eventOf "System") ∧ 1 ∈ positions := by
  intro first second ended
  have once := found_records_stored_once fresh_empty
    [.append first, .collect [[first]] 1, .clear, .append second, .collect [[second]] 1]
    (chronological_cleared ⟨rfl, by decide, by decide +kernel⟩ ⟨rfl, by decide, by decide +kernel⟩
      (by decide +kernel))
  obtain ⟨positions, ascending, stored, -, found⟩ := once
  refine ⟨positions, ascending, stored, ?_⟩
  have later := found [.append first, .collect [[first]] 1, .clear, .append second] _ _ [] rfl
    1 second (by decide) rfl
  refine (later ?_).1.mpr (by decide +kernel)
  refine unmet_cons.mpr ⟨nofun, unmet_cons.mpr ⟨fun _ _ _ => by decide +kernel, ?_⟩⟩
  exact unmet_cons.mpr ⟨nofun, unmet_cons.mpr ⟨nofun, unmet_nil _ _⟩⟩

/-- A record that is written in the second of the newest stored one, after the
clear, is left out. -/
theorem cleared_record_left_out :
    let first : LogRecord :=
      { timeGenerated := 1000, recordNumber := some 1, eventId := some 104 }
    let second : LogRecord :=
      { timeGenerated := 1000, recordNumber := some 1, eventId := some 41 }
    let ops : List LogOperation :=
      [.append first, .collect [[first]] 1, .clear, .append second]
    let met := Runs.run Tailing.step ⟨.empty, .empty⟩ ops
    Runs.Guarded Tailing.step Chronological ⟨.empty, .empty⟩ (ops ++ [.collect [[second]] 1]) ∧
      second ∈ met.log.records ∧
      eventOf "System" second ∉ storedEvents (met.step (.collect [[second]] 1)).db := by
  refine ⟨?_, by decide +kernel, by decide +kernel⟩
  exact chronological_cleared ⟨rfl, by decide, by decide +kernel⟩
    ⟨rfl, by decide, by decide +kernel⟩ (by decide +kernel)

end WindowsEvents

end PcDiagnosticAgent
