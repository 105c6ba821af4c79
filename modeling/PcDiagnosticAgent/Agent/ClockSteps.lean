import PcDiagnosticAgent.Agent.Threads
import PcDiagnosticAgent.PyValue
import Mathlib.Data.List.Chain

/-!
# The loop and the clock

The cadence of `Scheduler.loop` in `agent/scheduler.py`. An iteration reads the
clock, runs each cycle whose interval has passed since its mark, and moves the
mark to the reading, also when the cycle raises.

A reading that is not before the marks leaves them at most an interval behind; a
reading before a mark leaves that mark in the future, and the cycle is not due
again until the clock has caught up. So the marks are fresh after every iteration
exactly when the clock is never set back to before one of them
(`marks_fresh_iff`). One turn after the other, a worker does what an iteration
does (`worker_iteration`).
-/

set_option autoImplicit false

namespace PcDiagnosticAgent

namespace Loop

/-- When the cycles last ran. -/
structure Marks where
  lastHigh : Epoch := 0
  lastLow : Epoch := 0
deriving DecidableEq, Repr

/-- The clock of an iteration, and how its cycles end if they begin. -/
structure Iteration where
  now : Epoch
  high : Except PyError Unit := .ok ()
  low : Except PyError Unit := .ok ()

/-- The mark of a cycle after an iteration; the handler swallows the error. -/
def runCycle (interval : ℚ) (now : Epoch) (outcome : Except PyError Unit) (mark : Epoch) :
    Epoch :=
  if interval ≤ now - mark then
    match outcome with
    | .ok _ => now
    | .error _ => now
  else mark

def iterate (config : Config) (marks : Marks) (iteration : Iteration) : Marks where
  lastHigh :=
    runCycle config.collectionIntervalSeconds iteration.now iteration.high marks.lastHigh
  lastLow :=
    runCycle config.lowFrequencyIntervalSeconds iteration.now iteration.low marks.lastLow

/-- `Scheduler.loop`. -/
def run (config : Config) (iterations : List Iteration) : Marks :=
  Runs.run (iterate config) {} iterations

/-- The time since a mark is within its interval. -/
def WithinInterval (interval : ℚ) (now mark : Epoch) : Prop :=
  0 ≤ now - mark ∧ now - mark < interval

/-- Both marks are within their intervals of a reading. -/
def Fresh (config : Config) (marks : Marks) (now : Epoch) : Prop :=
  WithinInterval config.collectionIntervalSeconds now marks.lastHigh ∧
    WithinInterval config.lowFrequencyIntervalSeconds now marks.lastLow

/-- The reading is not before the marks. -/
def NotSetBack (marks : Marks) (iteration : Iteration) : Prop :=
  marks.lastHigh ≤ iteration.now ∧ marks.lastLow ≤ iteration.now

/-! ## One iteration -/

theorem runCycle_eq (interval : ℚ) (now : Epoch) (outcome : Except PyError Unit) (mark : Epoch) :
    runCycle interval now outcome mark = if interval ≤ now - mark then now else mark := by
  unfold runCycle
  cases outcome <;> rfl

/-- A reading before the mark leaves it in the future, any other one leaves it
within the interval. -/
theorem withinInterval_runCycle {interval : ℚ} (positive : 0 < interval) (now : Epoch)
    (outcome : Except PyError Unit) (mark : Epoch) :
    WithinInterval interval now (runCycle interval now outcome mark) ↔ mark ≤ now := by
  rw [runCycle_eq, WithinInterval]
  by_cases due : interval ≤ now - mark
  · have past : mark ≤ now := sub_nonneg.mp (positive.le.trans due)
    simp [due, positive, past]
  · rw [if_neg due, sub_nonneg]
    exact and_iff_left (not_le.mp due)

theorem fresh_iterate_iff (config : ValidConfig) (marks : Marks) (iteration : Iteration) :
    Fresh config.toConfig (iterate config.toConfig marks iteration) iteration.now ↔
      NotSetBack marks iteration := by
  have high : (0 : ℚ) < config.collectionIntervalSeconds := by
    exact_mod_cast config.interval_pos
  have low : (0 : ℚ) < config.lowFrequencyIntervalSeconds := by
    have bound := config.low_frequency_bound
    exact_mod_cast (show (0 : ℤ) < config.lowFrequencyIntervalSeconds by omega)
  exact and_congr (withinInterval_runCycle high ..) (withinInterval_runCycle low ..)

/-- A mark never passes the latest reading. -/
theorem runCycle_le {interval : ℚ} {now mark : Epoch} (outcome : Except PyError Unit)
    (past : mark ≤ now) : runCycle interval now outcome mark ≤ now := by
  rw [runCycle_eq]
  split
  · exact le_refl now
  · exact past

/-! ## Whole runs -/

/-- **The marks are fresh after every iteration exactly when no reading is before
the marks that it meets.** -/
theorem marks_fresh_iff (config : ValidConfig) (iterations : List Iteration) :
    (∀ done iteration rest, iterations = done ++ iteration :: rest →
        Fresh config.toConfig (run config.toConfig (done ++ [iteration])) iteration.now) ↔
      Runs.Guarded (iterate config.toConfig) NotSetBack {} iterations := by
  suffices from_marks : ∀ marks, (∀ done iteration rest, iterations = done ++ iteration :: rest →
        Fresh config.toConfig (Runs.run (iterate config.toConfig) marks (done ++ [iteration]))
          iteration.now) ↔ Runs.Guarded (iterate config.toConfig) NotSetBack marks iterations from
    from_marks {}
  induction iterations with
  | nil =>
    refine fun marks => iff_of_true (fun done iteration rest split => ?_) trivial
    simp at split
  | cons first iterations ih =>
    intro marks
    rw [Runs.guarded_cons, ← ih, ← fresh_iterate_iff config marks first]
    constructor
    · intro fresh
      refine ⟨fresh [] first iterations rfl, fun done iteration rest split => ?_⟩
      exact fresh (first :: done) iteration rest (congrArg (first :: ·) split)
    · rintro ⟨now, later⟩ done iteration rest split
      cases done with
      | nil =>
        obtain ⟨rfl, -⟩ := List.cons.inj split
        exact now
      | cons other done =>
        obtain ⟨rfl, remaining⟩ := List.cons.inj split
        exact later done iteration rest remaining

/-- A clock that is never set back is never set back to before a mark. -/
theorem notSetBack_of_forward (config : Config) {iterations : List Iteration}
    (forward : ((0 : Epoch) :: iterations.map Iteration.now).IsChain (· ≤ ·)) :
    Runs.Guarded (iterate config) NotSetBack {} iterations := by
  suffices from_marks : ∀ (clock : Epoch) (marks : Marks), marks.lastHigh ≤ clock →
      marks.lastLow ≤ clock → (clock :: iterations.map Iteration.now).IsChain (· ≤ ·) →
      Runs.Guarded (iterate config) NotSetBack marks iterations from
    from_marks 0 {} (le_refl 0) (le_refl 0) forward
  clear forward
  induction iterations with
  | nil => exact fun _ _ _ _ _ => trivial
  | cons first iterations ih =>
    intro clock marks high low forward
    obtain ⟨next, rest⟩ := List.isChain_cons_cons.mp forward
    refine ⟨⟨high.trans next, low.trans next⟩, ih first.now _ ?_ ?_ rest⟩
    · exact runCycle_le first.high (high.trans next)
    · exact runCycle_le first.low (low.trans next)

/-- The clock is set back by ten minutes after the first cycles. Neither is due
again, and a minute later both marks are still in the future. -/
theorem marks_in_future :
    let iterations : List Iteration := [{ now := 1000000 }, { now := 999400 }, { now := 999460 }]
    run {} iterations = { lastHigh := 1000000, lastLow := 1000000 } ∧
      ¬ ∀ done iteration rest, iterations = done ++ iteration :: rest →
        Fresh {} (run {} (done ++ [iteration])) iteration.now := by
  intro iterations
  refine ⟨by decide +kernel, fun fresh => ?_⟩
  have future := (fresh [{ now := 1000000 }] { now := 999400 } [{ now := 999460 }] rfl).1.1
  exact absurd future (by decide +kernel)

/-! ## The loop among the threads -/

open Threads

/-- The marks of a worker. -/
def marksOf (worker : Worker) : Marks := ⟨worker.lastHigh, worker.lastLow⟩

/-- **The turns of a worker from the test of the flag to the wait are one
iteration.** -/
theorem worker_iteration (config : Config) (worker : Worker) (now : Epoch)
    (point : worker.point = .test) (high low : Except PyError Unit) :
    ∃ turns, let waiting := (Worker.next config false now)^[turns] worker
      waiting.point = .wait ∧
        marksOf waiting = iterate config (marksOf worker) ⟨now, high, low⟩ := by
  simp only [iterate, runCycle_eq, marksOf]
  by_cases highDue : (config.collectionIntervalSeconds : ℚ) ≤ now - worker.lastHigh <;>
    by_cases lowDue : (config.lowFrequencyIntervalSeconds : ℚ) ≤ now - worker.lastLow
  · exact ⟨5, by simp [Worker.next, Worker.HighDue, Worker.LowDue, point, highDue, lowDue]⟩
  · exact ⟨4, by simp [Worker.next, Worker.HighDue, Worker.LowDue, point, highDue, lowDue]⟩
  · exact ⟨4, by simp [Worker.next, Worker.HighDue, Worker.LowDue, point, highDue, lowDue]⟩
  · exact ⟨3, by simp [Worker.next, Worker.HighDue, Worker.LowDue, point, highDue, lowDue]⟩

end Loop

end PcDiagnosticAgent
