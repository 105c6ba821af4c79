import PcDiagnosticAgent.Collectors.EventLog

/-!
# Histories of the log and its collector

The System log together with the database of the agent. Records are appended,
the oldest ones are overwritten, the log is cleared, and the collector runs.
The log keeps everything that was ever written; what can be read is what was
written since `start`.

`track` replays such a history on a reader, and the database follows it
(`Follows.run`): the stored events are those of the reader's positions, the
stored cursor is the reader's.
-/

set_option autoImplicit false

namespace PcDiagnosticAgent

open AutoTables LogTail

namespace WindowsEvents

/-- A record as Windows writes it. -/
structure WellFormed (record : LogRecord) : Prop where
  numbered : record.recordNumber = some record.number
  positive : 0 < record.number
  dated : 0 ≤ record.timeGenerated

/-- The records that were ever written, how many of them before the last clear,
and how many are gone. -/
structure EventLog where
  written : List LogRecord
  epoch : ℕ
  start : ℕ
deriving DecidableEq, Repr

namespace EventLog

def empty : EventLog := ⟨[], 0, 0⟩

variable (log : EventLog)

/-- What can be read, oldest first. -/
def records : List LogRecord := log.written.drop log.start

def append (record : LogRecord) : EventLog := { log with written := log.written ++ [record] }

def overwrite (count : ℕ) : EventLog :=
  { log with start := min (log.start + count) log.written.length }

def clear : EventLog := { log with epoch := log.written.length, start := log.written.length }

/-- The record is the next one: well formed and numbered above the others since
the last clear. -/
def Writable (record : LogRecord) : Prop :=
  WellFormed record ∧ ∀ earlier ∈ log.written.drop log.epoch, earlier.number < record.number

/-- The batches are the whole log, newest record first. -/
structure Delivers (batches : List (List LogRecord)) : Prop where
  filled : [] ∉ batches
  whole : batches.flatten = log.records.reverse

end EventLog

structure Tailing where
  log : EventLog
  db : Database

inductive LogOperation where
  | append (record : LogRecord)
  | overwrite (count : ℕ)
  | clear
  | collect (batches : List (List LogRecord)) (sessionId : ℕ)

namespace Tailing

/-- The log and the database after one operation. A run reads to the end of
the log without a failure. -/
def step (state : Tailing) : LogOperation → Tailing
  | .append record => { state with log := state.log.append record }
  | .overwrite count => { state with log := state.log.overwrite count }
  | .clear => { state with log := state.log.clear }
  | .collect batches sessionId =>
    { state with
      db := WindowsEvents.collect state.db "System" (some (answers batches false)) sessionId }

/-- The records that the next run faces. -/
def unread (state : Tailing) : List LogRecord :=
  LogTail.unread stamp (cursor state.db "System") state.log.records

/-- A record that Windows may write, or a run that reads the log and meets
fewer new records than the cap. -/
def Successful (state : Tailing) : LogOperation → Prop
  | .append record => state.log.Writable record
  | .overwrite _ => True
  | .clear => True
  | .collect batches _ =>
    state.log.Delivers batches ∧ state.unread.length < maxEventsPerRun

end Tailing

namespace EventLog

/-- The log as Windows keeps it: since the last clear the numbers ascend. -/
structure Numbered (log : EventLog) : Prop where
  epoch_le : log.epoch ≤ log.start
  start_le : log.start ≤ log.written.length
  wellFormed : ∀ record ∈ log.written, WellFormed record
  ascending : (log.written.drop log.epoch).Pairwise fun earlier later =>
    earlier.number < later.number

namespace Numbered

theorem empty : Numbered .empty := ⟨le_rfl, le_rfl, by simp [EventLog.empty], .nil⟩

theorem step {state : Tailing} {op : LogOperation} (numbered : Numbered state.log)
    (successful : state.Successful op) : Numbered (state.step op).log := by
  obtain ⟨epoch_le, start_le, wellFormed, ascending⟩ := numbered
  cases op with
  | append record =>
    obtain ⟨next, above⟩ := successful
    refine ⟨epoch_le, le_trans start_le (by simp [Tailing.step, EventLog.append]), ?_, ?_⟩
    · refine List.forall_mem_append.mpr ⟨wellFormed, ?_⟩
      simpa using next
    · have drop : (state.log.written ++ [record]).drop state.log.epoch =
          state.log.written.drop state.log.epoch ++ [record] :=
        List.drop_append_of_le_length (by omega)
      have longer : (state.log.written.drop state.log.epoch ++ [record]).Pairwise
          fun earlier later => earlier.number < later.number :=
        List.pairwise_append.mpr ⟨ascending, List.pairwise_singleton _ _, by simpa using above⟩
      exact drop ▸ longer
  | overwrite count =>
    refine ⟨?_, min_le_right _ _, wellFormed, ascending⟩
    exact le_min (le_trans epoch_le (Nat.le_add_right _ _)) (le_trans epoch_le start_le)
  | clear =>
    refine ⟨le_rfl, le_rfl, wellFormed, ?_⟩
    have none : state.log.written.drop state.log.written.length = [] := List.drop_length
    exact none ▸ List.Pairwise.nil
  | collect batches sessionId => exact ⟨epoch_le, start_le, wellFormed, ascending⟩

theorem records_ascending {log : EventLog} (numbered : Numbered log) :
    log.records.Pairwise fun earlier later => earlier.number < later.number :=
  numbered.ascending.sublist (List.drop_sublist_drop_left _ numbered.epoch_le)

end Numbered

end EventLog

/-! ## Positions -/

/-- The records at the given positions. -/
def recordsAt (written : List LogRecord) (positions : List ℕ) : List LogRecord :=
  positions.filterMap fun position => written[position]?

theorem recordsAt_append {written : List LogRecord} {positions : List ℕ}
    (within : ∀ position ∈ positions, position < written.length) (more : List LogRecord) :
    recordsAt (written ++ more) positions = recordsAt written positions :=
  List.filterMap_congr fun position member => List.getElem?_append_left (within position member)

/-- The last positions hold the newest records. -/
theorem recordsAt_range' (written : List LogRecord) {count : ℕ} (within : count ≤ written.length) :
    recordsAt written (List.range' (written.length - count) count) =
      written.drop (written.length - count) := by
  apply List.ext_getElem?
  intro index
  have inside : ∀ position ∈ List.range' (written.length - count) count,
      written[position]? = some (written.getD position { timeGenerated := 0 }) := by
    intro position member
    have bound := List.mem_range'_1.mp member
    rw [List.getD_eq_getElem?_getD, List.getElem?_eq_getElem (by omega)]
    rfl
  rw [recordsAt, List.filterMap_congr inside, List.filterMap_eq_map', List.getElem?_map,
    List.getElem?_drop]
  rcases Nat.lt_or_ge index count with small | large
  · rw [List.getElem?_range' small, Nat.one_mul, Option.map_some]
    exact (inside _ (List.mem_range'_1.mpr ⟨by omega, by omega⟩)).symm
  · rw [List.getElem?_eq_none (by simpa using large), List.getElem?_eq_none (by omega)]
    rfl

/-! ## The reader of a history -/

/-- The reader after one operation of the history. -/
def track (tail : Tail stamp) : LogOperation → Tail stamp
  | .append record => tail.append record
  | .overwrite count => tail.forget count
  | .clear => tail.forget (tail.written.length - tail.start)
  | .collect _ _ => tail.collectAll

theorem later_track (tail : Tail stamp) (op : LogOperation) : Tail.Later tail (track tail op) := by
  cases op with
  | append record => exact tail.later_append record
  | overwrite count => exact tail.later_forget count
  | clear => exact tail.later_forget _
  | collect batches sessionId => exact tail.later_collect le_rfl List.length_pos_of_ne_nil

theorem later_run (tail : Tail stamp) (ops : List LogOperation) :
    Tail.Later tail (Runs.run track tail ops) := by
  induction ops generalizing tail with
  | nil => exact .refl tail
  | cons op ops ih => exact (later_track tail op).trans (ih _)

/-- The state of the log and the database is that of the reader; the events
that were stored before stay in front. -/
structure Follows (earlier : List Event) (tail : Tail stamp) (state : Tailing) : Prop where
  written : tail.written = state.log.written
  start : tail.start = state.log.start
  cursor : tail.cursor = cursor state.db "System"
  stored : storedEvents state.db =
    earlier ++ (recordsAt tail.written tail.stored).map (eventOf "System")

namespace Follows

variable {earlier : List Event} {tail : Tail stamp} {state : Tailing}

theorem log (follows : Follows earlier tail state) : tail.log = state.log.records := by
  rw [Tail.log, EventLog.records, follows.written, follows.start]

theorem unread (follows : Follows earlier tail state) : tail.unread = state.unread := by
  rw [Tail.unread, Tailing.unread, follows.log, follows.cursor]

theorem append (follows : Follows earlier tail state) (record : LogRecord) :
    Follows earlier (tail.append record) (state.step (.append record)) where
  written := congrArg (· ++ [record]) follows.written
  start := follows.start
  cursor := follows.cursor
  stored := by
    have within : ∀ position ∈ tail.stored, position < tail.written.length :=
      fun position member => lt_of_lt_of_le (tail.stored_lt position member) tail.seen_le
    have same : recordsAt (tail.append record).written (tail.append record).stored =
        recordsAt tail.written tail.stored := recordsAt_append within [record]
    rw [same]
    exact follows.stored

theorem overwrite (follows : Follows earlier tail state) (count : ℕ) :
    Follows earlier (tail.forget count) (state.step (.overwrite count)) where
  written := follows.written
  start := by
    simp only [Tail.forget, Tailing.step, EventLog.overwrite, follows.written, follows.start]
  cursor := follows.cursor
  stored := follows.stored

theorem clear (follows : Follows earlier tail state) :
    Follows earlier (tail.forget (tail.written.length - tail.start)) (state.step .clear) where
  written := follows.written
  start := by
    have within := tail.start_le
    have all : min (tail.start + (tail.written.length - tail.start)) tail.written.length =
        tail.written.length := by omega
    exact all.trans (congrArg List.length follows.written)
  cursor := follows.cursor
  stored := follows.stored

/-- A run that reads the newest unread records stores them and covers them. -/
theorem read (follows : Follows earlier tail state) {results : List ReadResult}
    (newest : unreadRecords state.db "System" results <:+ state.unread)
    (some : state.unread ≠ [] → unreadRecords state.db "System" results ≠ []) (sessionId : ℕ) :
    ∃ within positive, Follows earlier
      (tail.collect (unreadRecords state.db "System" results).length within positive)
      { state with db := collect state.db "System" (Option.some results) sessionId } := by
  rw [← follows.unread] at newest some
  have suffix : unreadRecords state.db "System" results <:+ tail.written :=
    newest.trans ((unread_suffix stamp tail.cursor tail.log).trans (List.drop_suffix _ _))
  have last := List.suffix_iff_eq_drop.mp suffix
  refine ⟨newest.length_le, fun unread => List.length_pos_of_ne_nil (some unread),
    follows.written, follows.start, ?_, ?_⟩
  · rw [cursor_collect, ← follows.cursor]
    exact congrArg (advance stamp tail.cursor) last.symm
  · rw [storedEvents_collect, follows.stored, List.append_assoc, ← List.map_append]
    congr 2
    have split : recordsAt tail.written (tail.stored ++
        List.range' (tail.written.length - (unreadRecords state.db "System" results).length)
          (unreadRecords state.db "System" results).length) =
        recordsAt tail.written tail.stored ++ unreadRecords state.db "System" results := by
      rw [recordsAt, List.filterMap_append]
      exact congrArg _ ((recordsAt_range' tail.written suffix.length_le).trans last.symm)
    exact split.symm

/-- A run below the cap stores everything unread. -/
theorem collectAll (follows : Follows earlier tail state) {batches : List (List LogRecord)}
    (delivers : state.log.Delivers batches) (room : state.unread.length < maxEventsPerRun)
    (sessionId : ℕ) :
    Follows earlier tail.collectAll (state.step (.collect batches sessionId)) := by
  have all := unreadRecords_eq state.db "System" delivers.filled delivers.whole false room
  have read : unreadRecords state.db "System" (answers batches false) = state.unread := all
  obtain ⟨within, positive, next⟩ := follows.read (read ▸ List.suffix_rfl)
    (fun unread => read ▸ unread) sessionId
  have count : (unreadRecords state.db "System" (answers batches false)).length =
      tail.unread.length := by
    rw [read, follows.unread]
  simp only [count] at next
  exact next

/-- **The database follows the reader through every successful history.** -/
theorem step (follows : Follows earlier tail state) {op : LogOperation}
    (successful : state.Successful op) : Follows earlier (track tail op) (state.step op) := by
  cases op with
  | append record => exact follows.append record
  | overwrite count => exact follows.overwrite count
  | clear => exact follows.clear
  | collect batches sessionId => exact follows.collectAll successful.1 successful.2 sessionId

theorem run (follows : Follows earlier tail state) {ops : List LogOperation}
    (successful : Runs.Guarded Tailing.step Tailing.Successful state ops) :
    Follows earlier (Runs.run track tail ops) (Runs.run Tailing.step state ops) := by
  induction ops generalizing tail state with
  | nil => exact follows
  | cons op ops ih => exact ih (follows.step successful.1) successful.2

end Follows

end WindowsEvents

end PcDiagnosticAgent
