import PcDiagnosticAgent.Collectors.EventLog

/-!
# The cap of a run

A run is said to read at most the newest 1000 new records. The loop tests the cap
before it asks for a batch and appends the batch whole, so what it reads depends
on how the log is split: the newest 1000 new records exactly when there are no
more, or when the first 1000 records fill some of the batches
(`read_new_capped_iff`). However the log is split, only a log without more new
records is read alike.
-/

set_option autoImplicit false

namespace PcDiagnosticAgent

namespace WindowsEvents

/-- The new records of a log, newest first: those before the first covered
one. -/
def newRecords (lastId : ℤ) (lastTs : Epoch) (log : List LogRecord) : List LogRecord :=
  log.takeWhile fun record => ¬ Covered lastId lastTs record

/-- What a run is documented to read of a log that is given newest first: the
newest new records within the cap, in log order. -/
def cappedNew (lastId : ℤ) (lastTs : Epoch) (log : List LogRecord) : List LogRecord :=
  ((newRecords lastId lastTs log).take maxEventsPerRun).reverse

/-- The API hands a log out in these batches. -/
def Splits (batches : List (List LogRecord)) (log : List LogRecord) : Prop :=
  [] ∉ batches ∧ batches.flatten = log

variable {lastId : ℤ} {lastTs : Epoch}

/-! ## The loop -/

/-- A batch below the cap is read up to its first covered record. -/
theorem readLoop_cons {records first : List LogRecord} {batches : List (List LogRecord)}
    (filled : first ≠ []) (room : records.length < maxEventsPerRun) :
    readLoop lastId lastTs records (answers (first :: batches) false) =
      if ∃ record ∈ first, Covered lastId lastTs record then
        records ++ newRecords lastId lastTs first
      else readLoop lastId lastTs (records ++ first) (answers batches false) := by
  obtain ⟨newest, rest, rfl⟩ := List.exists_cons_of_ne_nil filled
  have loop : readLoop lastId lastTs records (answers ((newest :: rest) :: batches) false) =
      let met := readBatch lastId lastTs records (newest :: rest)
      if met.2 then met.1 else readLoop lastId lastTs met.1 (answers batches false) := by
    simp only [answers, List.map_cons, List.cons_append, readLoop, if_pos room]
  rw [loop, readBatch_eq]
  by_cases stop : ∃ record ∈ newest :: rest, Covered lastId lastTs record
  · simp only [stop, decide_true, if_true]
    rfl
  · have all : (newest :: rest).takeWhile (fun record => ¬ Covered lastId lastTs record) =
        newest :: rest := by
      refine List.takeWhile_eq_self_iff.mpr fun record member => decide_eq_true fun covered => ?_
      exact stop ⟨record, member, covered⟩
    simp only [stop, decide_false, Bool.false_eq_true, if_false, all]

/-- At the cap nothing more is read. -/
theorem readLoop_full {records : List LogRecord} (full : maxEventsPerRun ≤ records.length)
    (batches : List (List LogRecord)) :
    readLoop lastId lastTs records (answers batches false) = records := by
  cases batches with
  | nil => rfl
  | cons batch batches =>
    simp only [answers, List.map_cons, List.cons_append, readLoop, if_neg (not_lt.mpr full)]

/-- Some of the batches fill what the cap leaves. -/
def Fills (records : List LogRecord) (batches : List (List LogRecord)) : Prop :=
  ∃ first, first <+: batches ∧ records.length + first.flatten.length = maxEventsPerRun

theorem fills_cons_iff {records batch : List LogRecord} {batches : List (List LogRecord)}
    (room : records.length < maxEventsPerRun) :
    Fills records (batch :: batches) ↔ Fills (records ++ batch) batches := by
  unfold Fills
  constructor
  · rintro ⟨first, within, full⟩
    rcases List.prefix_cons_iff.mp within with rfl | ⟨more, rfl, rest⟩
    · exact absurd full (by simpa using room.ne)
    · exact ⟨more, rest, by simpa [Nat.add_assoc] using full⟩
  · rintro ⟨more, rest, full⟩
    exact ⟨batch :: more, (List.prefix_cons_inj batch).mpr rest,
      by simpa [Nat.add_assoc] using full⟩

/-- A batch with a covered record ends the new records, and not all of it is
new. -/
theorem newRecords_stop {batch : List LogRecord} (batches : List (List LogRecord))
    (stop : ∃ record ∈ batch, Covered lastId lastTs record) :
    newRecords lastId lastTs (batch :: batches).flatten = newRecords lastId lastTs batch ∧
      (newRecords lastId lastTs batch).length < batch.length := by
  refine ⟨takeWhile_append_of_stop _ (by simpa using stop), ?_⟩
  refine lt_of_le_of_ne (List.takeWhile_prefix _).length_le fun same => ?_
  have whole := List.takeWhile_eq_self_iff.mp ((List.takeWhile_prefix _).eq_of_length same)
  obtain ⟨record, member, covered⟩ := stop
  exact of_decide_eq_true (whole record member) covered

/-- A batch without one is new as a whole. -/
theorem newRecords_go_on {batch : List LogRecord} (batches : List (List LogRecord))
    (all : ∀ record ∈ batch, ¬ Covered lastId lastTs record) :
    newRecords lastId lastTs (batch :: batches).flatten =
      batch ++ newRecords lastId lastTs batches.flatten :=
  List.takeWhile_append_of_pos (by simpa using all)

/-- From some records on, the loop reads the newest new records within the cap
exactly when they all fit or some of the batches fill it. -/
theorem readLoop_eq_take_iff {batches : List (List LogRecord)} (filled : [] ∉ batches)
    {records : List LogRecord} (within : records.length ≤ maxEventsPerRun) :
    readLoop lastId lastTs records (answers batches false) =
        records ++ (newRecords lastId lastTs batches.flatten).take
          (maxEventsPerRun - records.length) ↔
      records.length + (newRecords lastId lastTs batches.flatten).length ≤ maxEventsPerRun ∨
        Fills records batches := by
  induction batches generalizing records with
  | nil =>
    refine iff_of_true ?_ (.inl (by simpa [newRecords] using within))
    simp [newRecords, answers, readLoop]
  | cons batch batches ih =>
    obtain ⟨some, filled⟩ := not_or.mp (mt List.mem_cons.mpr filled)
    have nonempty : batch ≠ [] := fun empty => some empty.symm
    rcases within.lt_or_eq with room | full
    · rw [readLoop_cons nonempty room, fills_cons_iff room]
      by_cases stop : ∃ record ∈ batch, Covered lastId lastTs record
      · obtain ⟨new, shorter⟩ := newRecords_stop batches stop
        have fit : Fills (records ++ batch) batches →
            records.length + (newRecords lastId lastTs batch).length ≤ maxEventsPerRun := by
          rintro ⟨first, -, full⟩
          rw [List.length_append] at full
          omega
        rw [if_pos stop, new, or_iff_left_of_imp fit, List.append_right_inj, eq_comm,
          List.take_eq_self_iff]
        omega
      · have all : ∀ record ∈ batch, ¬ Covered lastId lastTs record :=
          fun record member covered => stop ⟨record, member, covered⟩
        rw [if_neg stop, newRecords_go_on batches all]
        rcases Nat.lt_or_ge maxEventsPerRun (records ++ batch).length with large | fits
        · -- the batch passes the cap and is kept whole
          rw [readLoop_full large.le]
          rw [List.length_append] at large
          refine iff_of_false (fun same => ?_) ?_
          · have lengths := congrArg List.length same
            simp only [List.length_append, List.length_take] at lengths
            omega
          · rintro (fit | ⟨first, -, full⟩)
            · rw [List.length_append] at fit
              omega
            · rw [List.length_append] at full
              omega
        · have rest := ih filled fits
          rw [List.length_append] at rest fits
          rw [List.take_append, List.take_of_length_le (by omega), ← List.append_assoc,
            Nat.sub_sub, rest, List.length_append, Nat.add_assoc]
    · refine iff_of_true ?_ (.inr ⟨[], List.nil_prefix, by simpa using full⟩)
      rw [readLoop_full full.ge, full, Nat.sub_self, List.take_zero, List.append_nil]

/-! ## A run -/

/-- One run reads what is documented exactly when the new records fit, or some
of the batches hold as many records as the cap allows. -/
theorem readNew_eq_cappedNew_iff {batches : List (List LogRecord)} {log : List LogRecord}
    (splits : Splits batches log) :
    readNew (answers batches false) lastId lastTs = cappedNew lastId lastTs log ↔
      (newRecords lastId lastTs log).length ≤ maxEventsPerRun ∨ Fills [] batches := by
  obtain ⟨filled, rfl⟩ := splits
  have loop := @readLoop_eq_take_iff lastId lastTs batches filled [] (Nat.zero_le _)
  rw [List.length_nil, Nat.zero_add, Nat.sub_zero, List.nil_append] at loop
  rw [← loop, readNew, cappedNew, List.reverse_inj]

theorem splits_whole {log : List LogRecord} (some : log ≠ []) : Splits [log] log :=
  ⟨by simpa using some, by simp⟩

theorem splits_single (log : List LogRecord) : Splits (log.map fun record => [record]) log := by
  refine ⟨by simp, ?_⟩
  induction log with
  | nil => rfl
  | cons record log ih => simp [ih]

/-- A whole log with too many new records does not fill the cap. -/
theorem not_fills_whole {log : List LogRecord}
    (many : maxEventsPerRun < (newRecords lastId lastTs log).length) : ¬ Fills [] [log] := by
  have shorter : (newRecords lastId lastTs log).length ≤ log.length :=
    (List.takeWhile_prefix _).length_le
  rintro ⟨first, within, full⟩
  rcases List.prefix_cons_iff.mp within with rfl | ⟨more, rfl, rest⟩
  · exact absurd full (by decide)
  · rw [List.prefix_nil.mp rest] at full
    simp only [List.length_nil, List.flatten_cons, List.flatten_nil, List.append_nil] at full
    omega

/-- Record by record the cap is met exactly. -/
theorem readNew_single (log : List LogRecord) :
    readNew (answers (log.map fun record => [record]) false) lastId lastTs =
      cappedNew lastId lastTs log := by
  refine (readNew_eq_cappedNew_iff (splits_single log)).mpr ?_
  rcases Nat.lt_or_ge maxEventsPerRun (newRecords lastId lastTs log).length with many | fit
  · have longer := many.le.trans (List.takeWhile_prefix _).length_le
    refine .inr ⟨(log.take maxEventsPerRun).map fun record => [record], ?_, ?_⟩
    · exact (List.take_prefix _ log).map _
    · rw [(splits_single _).2, List.length_take, Nat.min_eq_left longer, List.length_nil,
        Nat.zero_add]
  · exact .inl fit

/-- **Whatever the cursor, a run reads the newest new records within the cap
exactly when there are no more of them or some of the batches fill the cap.
However a log is split it does so, and reads the same, exactly when the log has
no more new records.** -/
theorem read_new_capped_iff (lastId : ℤ) (lastTs : Epoch) (log : List LogRecord) :
    (∀ batches, Splits batches log →
      (readNew (answers batches false) lastId lastTs = cappedNew lastId lastTs log ↔
        (newRecords lastId lastTs log).length ≤ maxEventsPerRun ∨ Fills [] batches)) ∧
    ((∀ batches, Splits batches log →
        readNew (answers batches false) lastId lastTs = cappedNew lastId lastTs log) ↔
      (newRecords lastId lastTs log).length ≤ maxEventsPerRun) ∧
    ((∀ first second, Splits first log → Splits second log →
        readNew (answers first false) lastId lastTs =
          readNew (answers second false) lastId lastTs) ↔
      (newRecords lastId lastTs log).length ≤ maxEventsPerRun) := by
  have each : ∀ batches, Splits batches log → _ := fun batches splits =>
    @readNew_eq_cappedNew_iff lastId lastTs batches log splits
  have fit_of_whole : (∀ whole : Splits [log] log,
      readNew (answers [log] false) lastId lastTs = cappedNew lastId lastTs log) →
        (newRecords lastId lastTs log).length ≤ maxEventsPerRun := by
    intro alike
    by_contra many
    have some : log ≠ [] := by
      rintro rfl
      exact many (Nat.zero_le _)
    rcases (each [log] (splits_whole some)).mp (alike (splits_whole some)) with fit | full
    · exact many fit
    · exact not_fills_whole (not_le.mp many) full
  refine ⟨each, ⟨fun all => ?_, fun fit batches splits => ?_⟩, ⟨fun same => ?_, ?_⟩⟩
  · exact fit_of_whole fun whole => all [log] whole
  · exact (each batches splits).mpr (.inl fit)
  · refine fit_of_whole fun whole => ?_
    exact (same _ _ whole (splits_single log)).trans (readNew_single log)
  · intro fit first second splitsFirst splitsSecond
    rw [(each first splitsFirst).mpr (.inl fit), (each second splitsSecond).mpr (.inl fit)]

/-- A record with a number and a time of its own. -/
def numberedRecord (index : ℕ) : LogRecord :=
  { timeGenerated := index + 1, recordNumber := some (index + 1) }

/-- One batch of 1001 new records is read whole, and record by record the oldest
of them is left out. -/
theorem read_new_passes_cap :
    let log := (List.range 1001).map numberedRecord
    (readNew (answers [log] false) 0 0).length = 1001 ∧
      (readNew (answers (log.map fun record => [record]) false) 0 0).length = 1000 ∧
      readNew (answers [log] false) 0 0 ≠ cappedNew 0 0 log := by
  intro log
  have new : newRecords 0 0 log = log := by
    refine List.takeWhile_eq_self_iff.mpr fun record member => decide_eq_true fun covered => ?_
    obtain ⟨index, -, rfl⟩ := List.mem_map.mp member
    have number : ((index : ℤ) + 1) ≤ 0 := covered.1
    omega
  have size : log.length = 1001 := by simp [log]
  have capped : (cappedNew 0 0 log).length = 1000 := by
    rw [cappedNew, new, List.length_reverse, List.length_take, size]
    rfl
  have whole : (readNew (answers [log] false) 0 0).length = 1001 := by
    have some : log ≠ [] := List.ne_nil_of_length_eq_add_one size
    rw [readNew, List.length_reverse, readLoop_cons some (by decide), List.nil_append,
      List.nil_append, new]
    split
    · exact size
    · exact size
  refine ⟨whole, by rw [readNew_single, capped], fun same => ?_⟩
  rw [same, capped] at whole
  cases whole

end WindowsEvents

end PcDiagnosticAgent
