import PcDiagnosticAgent.Agent.Threads

/-!
# Restarting the worker

A restart sets the stop flag, waits for the worker with a timeout, and clears
the flag for the new thread. All threads share the flag, so a loop that was
told to stop is bound to exit only as long as the flag stays set. When no
restart clears the flag before every signalled loop has exited, at most one
loop may go on (`restarts_keep_one_loop`); a restart that does clear it leaves
two (`clear_frees_worker`).
-/

set_option autoImplicit false

namespace PcDiagnosticAgent

namespace Threads

/-- The loop may begin another iteration: it is alive and not bound to exit by
a signal that still stands. -/
def Process.Loose (process : Process) (place : ℕ) : Prop :=
  ∃ worker ∈ process.workers[place]?,
    worker.Live ∧ ¬ (worker.signalled ∧ process.stopFlag = true)

/-- At most one loop is alive and not bound to exit, and no signalled loop has
begun another iteration. -/
structure OneLoop (process : Process) : Prop where
  one : ∀ first second, process.Loose first → process.Loose second → first = second
  finishes : ∀ worker ∈ process.workers, worker.resumed = false

/-- A restart clears the flag only when every signalled loop has exited. -/
def Exclusive (process : Process) : Turn → Prop
  | .watchdog _ _ => process.watchdog = .clear →
      ∀ worker ∈ process.workers, worker.signalled → worker.point = .exited
  | _ => True

instance (process : Process) : ∀ turn, Decidable (Exclusive process turn)
  | .worker _ _ _ => inferInstanceAs (Decidable True)
  | .watchdog _ _ => inferInstanceAs (Decidable (process.watchdog = .clear →
      ∀ worker ∈ process.workers, worker.signalled → worker.point = .exited))
  | .main _ _ => inferInstanceAs (Decidable True)

/-! ## The invariant -/

/-- A restart has signalled the loops and not started the new one. -/
def Process.Restarting (process : Process) : Prop :=
  process.watchdog = .join ∨ process.watchdog = .clear ∨ process.watchdog = .spawn

/-- A loop that is alive and was never signalled. -/
def Process.Free (process : Process) (place : ℕ) : Prop :=
  ∃ worker ∈ process.workers[place]?, worker.Live ∧ worker.signalled = false

structure Safe (process : Process) : Prop where
  bound : ∀ worker ∈ process.workers, worker.signalled → worker.Live → process.stopFlag = true
  finishes : ∀ worker ∈ process.workers, worker.resumed = false
  one : ∀ first second, process.Free first → process.Free second → first = second
  none : process.Restarting → ∀ place, ¬ process.Free place
  early : process.main = .clear ∨ process.main = .spawn → process.workers = []
  order : process.watchdog ≠ .notStarted →
    process.main ≠ .clear ∧ process.main ≠ .spawn ∧ process.main ≠ .startWatchdog

namespace Safe

variable {process : Process}

theorem initial (heartbeat : Option Epoch) : Safe (Process.initial heartbeat) where
  bound := by simp [Process.initial]
  finishes := by simp [Process.initial]
  one := by simp [Process.initial, Process.Free]
  none := by simp [Process.initial, Process.Free]
  early := fun _ => rfl
  order := fun started => absurd rfl started

/-- A signal that stands binds exactly the signalled loops. -/
theorem free_of_loose (safe : Safe process) {place : ℕ} (loose : process.Loose place) :
    process.Free place := by
  obtain ⟨worker, found, live, unbound⟩ := loose
  refine ⟨worker, found, live, ?_⟩
  by_contra signalled
  have signalled : worker.signalled = true := by simpa using signalled
  exact unbound ⟨signalled, safe.bound worker (List.mem_of_getElem? found) signalled live⟩

theorem oneLoop (safe : Safe process) : OneLoop process where
  one := fun first second firstLoose secondLoose =>
    safe.one first second (safe.free_of_loose firstLoose) (safe.free_of_loose secondLoose)
  finishes := safe.finishes

/-! ### The turns -/

theorem stepWorker (safe : Safe process) (config : Config) (index : ℕ) (now : Epoch)
    (succeeds : Bool) : Safe (process.stepWorker config index now succeeds) := by
  have free : ∀ place, (process.stepWorker config index now succeeds).Free place →
      process.Free place := by
    rintro place ⟨later, found, live, unsignalled⟩
    obtain ⟨worker, old, rfl | rfl⟩ := Process.stepWorker_workers found
    · exact ⟨later, old, live, unsignalled⟩
    · rw [Worker.next_signalled] at unsignalled
      exact ⟨worker, old, Worker.live_of_next config _ now worker live, unsignalled⟩
  refine ⟨?_, ?_, ?_, ?_, ?_, ?_⟩
  · intro later member signalled live
    rw [Process.stepWorker_stopFlag]
    obtain ⟨worker, old, rfl | rfl⟩ := Process.mem_stepWorker member
    · exact safe.bound later old signalled live
    · rw [Worker.next_signalled] at signalled
      exact safe.bound worker old signalled (Worker.live_of_next config _ now worker live)
  · intro later member
    obtain ⟨worker, old, rfl | rfl⟩ := Process.mem_stepWorker member
    · exact safe.finishes later old
    · by_contra resumed
      rcases Worker.next_resumed config _ now worker (by simpa using resumed) with
        before | ⟨signalled, live, clear⟩
      · simp [safe.finishes worker old] at before
      · -- the test found the flag clear, but the signal still stands
        simp [safe.bound worker old signalled live] at clear
  · exact fun first second firstFree secondFree =>
      safe.one first second (free first firstFree) (free second secondFree)
  · intro restarting place isFree
    unfold Process.Restarting at restarting
    rw [Process.stepWorker_watchdog] at restarting
    exact safe.none restarting place (free place isFree)
  · intro early
    rw [Process.stepWorker_main] at early
    have none := safe.early early
    simp [Process.stepWorker, none]
  · rw [Process.stepWorker_watchdog, Process.stepWorker_main]
    exact safe.order

/-- Only the threads, the flag and what a restart is doing matter. -/
theorem of_same {other : Process} (safe : Safe process)
    (workers : other.workers = process.workers) (flag : other.stopFlag = process.stopFlag)
    (restarting : other.Restarting → process.Restarting)
    (early : other.main = .clear ∨ other.main = .spawn →
      process.main = .clear ∨ process.main = .spawn)
    (order : other.watchdog ≠ .notStarted →
      other.main ≠ .clear ∧ other.main ≠ .spawn ∧ other.main ≠ .startWatchdog) : Safe other := by
  have free : ∀ place, other.Free place → process.Free place := by
    intro place isFree
    unfold Process.Free at isFree ⊢
    rwa [workers] at isFree
  refine ⟨?_, ?_, ?_, ?_, ?_, order⟩
  · rw [workers, flag]
    exact safe.bound
  · rw [workers]
    exact safe.finishes
  · exact fun first second firstFree secondFree =>
      safe.one first second (free first firstFree) (free second secondFree)
  · exact fun active place isFree => safe.none (restarting active) place (free place isFree)
  · rw [workers]
    exact fun isEarly => safe.early (early isEarly)

/-- A restart tells every loop to stop. -/
theorem set (safe : Safe process) (point : process.watchdog = .set) :
    Safe { process.setFlag.signalWorkers with watchdog := .join } where
  bound := fun _ _ _ _ => rfl
  finishes := by
    intro later member
    obtain ⟨worker, old, rfl⟩ := List.mem_map.mp member
    exact safe.finishes worker old
  one := by
    rintro first second ⟨later, found, live, unsignalled⟩
    have found : later ∈ (process.workers.map _)[first]? := found
    rw [List.getElem?_map, Option.mem_map] at found
    obtain ⟨worker, -, rfl⟩ := found
    have live : worker.Live := live
    simp [live] at unsignalled
  none := by
    rintro - place ⟨later, found, live, unsignalled⟩
    have found : later ∈ (process.workers.map _)[place]? := found
    rw [List.getElem?_map, Option.mem_map] at found
    obtain ⟨worker, -, rfl⟩ := found
    have live : worker.Live := live
    simp [live] at unsignalled
  early := by
    intro early
    have started := safe.order (by simp [point])
    exact absurd early (not_or.mpr ⟨started.1, started.2.1⟩)
  order := fun _ => safe.order (by simp [point])

/-- A restart clears the flag when nothing is bound by it. -/
theorem clear (safe : Safe process) (point : process.watchdog = .clear)
    (exited : ∀ worker ∈ process.workers, worker.signalled → worker.point = .exited) :
    Safe { process.clearFlag with watchdog := .spawn } where
  bound := fun worker member signalled live => absurd (exited worker member signalled) live
  finishes := safe.finishes
  one := safe.one
  none := fun _ => safe.none (.inr (.inl point))
  early := safe.early
  order := fun _ => safe.order (by simp [point])

/-- The new loop is the only one that may go on. -/
theorem spawn (safe : Safe process) (none : ∀ place, ¬ process.Free place) {other : Process}
    (workers : other.workers = process.workers ++ [.started])
    (flag : other.stopFlag = process.stopFlag) (settled : ¬ other.Restarting)
    (main : other.main ≠ .clear ∧ other.main ≠ .spawn)
    (order : other.watchdog ≠ .notStarted → other.main ≠ .startWatchdog) : Safe other where
  bound := by
    rw [workers, flag]
    intro worker member signalled
    rcases List.mem_append.mp member with old | new
    · exact safe.bound worker old signalled
    · rw [List.mem_singleton.mp new] at signalled
      cases signalled
  finishes := by
    rw [workers]
    refine List.forall_mem_append.mpr ⟨safe.finishes, ?_⟩
    simp [Worker.started]
  one := by
    have last : ∀ place, other.Free place → place = process.workers.length := by
      rintro place ⟨worker, found, live, unsignalled⟩
      rw [workers] at found
      rcases Nat.lt_or_ge place process.workers.length with old | new
      · rw [List.getElem?_append_left old] at found
        exact absurd ⟨worker, found, live, unsignalled⟩ (none place)
      · have bound := (List.getElem?_eq_some_iff.mp found).1
        rw [List.length_append, List.length_singleton] at bound
        omega
    exact fun first second firstFree secondFree =>
      (last first firstFree).trans (last second secondFree).symm
  none := fun restarting => absurd restarting settled
  early := fun early => absurd early (not_or.mpr main)
  order := fun started => ⟨main.1, main.2, order started⟩

theorem stepWatchdog (safe : Safe process) {now : Epoch} {timedOut : Bool}
    (exclusive : Exclusive process (.watchdog now timedOut)) :
    Safe (process.stepWatchdog now timedOut) := by
  unfold Process.stepWatchdog
  split
  case h_1 point => exact safe
  case h_2 point =>
    refine safe.of_same rfl rfl ?_ id fun _ => safe.order (by simp [point])
    split <;> simp [Process.Restarting]
  case h_3 point =>
    have started := safe.order (by simp [point])
    split
    · exact safe.of_same rfl rfl (by simp [Process.Restarting]) id fun _ => started
    · exact safe.of_same rfl rfl (by simp [Process.Restarting]) id fun _ => started
  case h_4 point => exact safe.set point
  case h_5 point =>
    split
    · exact safe
    · exact safe.of_same rfl rfl (fun _ => .inl point) id fun _ => safe.order (by simp [point])
  case h_6 point => exact safe.clear point (exclusive point)
  case h_7 point =>
    have started := safe.order (by simp [point])
    exact safe.spawn (safe.none (.inr (.inr point))) rfl rfl (by simp [Process.Restarting])
      ⟨started.1, started.2.1⟩ fun _ => started.2.2
  case h_8 index point =>
    exact safe.of_same rfl rfl (by simp [Process.Restarting]) id
      fun _ => safe.order (by simp [point])
  case h_9 point =>
    exact safe.of_same rfl rfl (by simp [Process.Restarting]) id
      fun _ => safe.order (by simp [point])
  case h_10 point => exact safe

theorem stepMain (safe : Safe process) (stopRequested timedOut : Bool) :
    Safe (process.stepMain stopRequested timedOut) := by
  -- past the start the watchdog's order is kept by going on
  have later : ∀ {other : Process}, other.workers = process.workers →
      other.stopFlag = process.stopFlag → other.watchdog = process.watchdog →
      (other.main ≠ .clear ∧ other.main ≠ .spawn ∧ other.main ≠ .startWatchdog) →
      Safe other := by
    intro other workers flag watchdog past
    refine safe.of_same workers flag ?_ (fun early => absurd early ?_) fun _ => past
    · unfold Process.Restarting
      rw [watchdog]
      exact id
    · exact not_or.mpr ⟨past.1, past.2.1⟩
  have waiting : process.main = .clear ∨ process.main = .spawn ∨ process.main = .startWatchdog →
      process.watchdog = .notStarted := by
    intro early
    by_contra started
    obtain ⟨first, second, third⟩ := safe.order started
    rcases early with same | same | same
    · exact first same
    · exact second same
    · exact third same
  unfold Process.stepMain
  split
  case h_1 point =>
    have none := safe.early (.inl point)
    have idle := waiting (.inl point)
    refine ⟨?_, safe.finishes, safe.one, ?_, fun _ => none, fun started => absurd idle started⟩
    · simp [Process.clearFlag, none]
    · simp [Process.Restarting, Process.clearFlag, idle]
  case h_2 point =>
    have none := safe.early (.inr point)
    have idle := waiting (.inr (.inl point))
    refine safe.spawn ?_ rfl rfl ?_ ⟨nofun, nofun⟩ fun started => absurd idle started
    · simp [Process.Free, none]
    · simp [Process.Restarting, Process.spawnWorker, idle]
  case h_3 point =>
    exact safe.of_same rfl rfl (by simp [Process.Restarting]) (by simp) fun _ => by simp
  case h_4 point =>
    refine later rfl rfl rfl ?_
    cases stopRequested <;> simp
  case h_5 point =>
    exact ⟨fun _ _ _ _ => rfl, safe.finishes, safe.one, safe.none, by simp, fun _ => by simp⟩
  case h_6 point => exact later rfl rfl rfl (by simp)
  case h_7 point =>
    split
    · exact later rfl rfl rfl (by simp)
    · exact safe
  case h_8 point =>
    split
    · exact safe
    · exact later rfl rfl rfl (by simp)
  case h_9 point => exact later rfl rfl rfl (by simp)
  case h_10 point => exact safe

theorem step (safe : Safe process) {config : Config} {turn : Turn}
    (exclusive : Exclusive process turn) : Safe (process.step config turn) := by
  cases turn with
  | worker index now succeeds => exact safe.stepWorker config index now succeeds
  | watchdog now timedOut => exact safe.stepWatchdog exclusive
  | main stopRequested timedOut => exact safe.stepMain stopRequested timedOut

end Safe

/-- **As long as no restart clears the flag before every signalled loop has
exited, at every point of every interleaving at most one loop is alive and not
bound to exit, and no signalled loop begins another iteration.** -/
theorem restarts_keep_one_loop (config : Config) (heartbeat : Option Epoch) (turns : List Turn)
    (exclusive : Runs.Guarded (fun process => process.step config) Exclusive
      (Process.initial heartbeat) turns) :
    ∀ done rest, turns = done ++ rest →
      OneLoop (runTurns config (Process.initial heartbeat) done) := by
  intro done rest split
  rw [split, Runs.guarded_append] at exclusive
  exact (exclusive.1.invariant Safe (fun _ _ allowed safe => safe.step allowed)
    (.initial heartbeat)).oneLoop

/-- A worker that ends its iteration exits before the flag is cleared. -/
theorem restarts_keep_one_loop_exited :
    OneLoop (runTurns {} (Process.initial none)
      (List.replicate 3 (.main false false) ++ List.replicate 6 (.worker 0 1000 true) ++
        List.replicate 3 (.watchdog 1100 false) ++ List.replicate 2 (.worker 0 1100 true) ++
        List.replicate 4 (.watchdog 1100 false))) :=
  restarts_keep_one_loop {} none _ (by decide +kernel) _ [] (List.append_nil _).symm

/-- The worker is blocked in a collector when the join times out. It ends the
cycle after the flag was cleared, and goes on beside the new worker. -/
theorem blocked_worker_resumes :
    ¬ OneLoop (runTurns {} (Process.initial (some 0))
      (List.replicate 3 (.main false false) ++ List.replicate 2 (.worker 0 1000 true) ++
        List.replicate 3 (.watchdog 1000 false) ++ List.replicate 3 (.watchdog 1010 true) ++
        List.replicate 5 (.worker 0 1015 true))) := by
  intro oneLoop
  exact absurd oneLoop.finishes (by decide +kernel)

/-- Clearing the flag while a signalled loop is alive leaves two loops that may
go on as soon as the new one is started. -/
theorem clear_frees_worker (config : Config) {process : Process}
    (point : process.watchdog = .clear) {worker : Worker} (member : worker ∈ process.workers)
    (live : worker.Live) (now later : Epoch) (timedOut timedOutLater : Bool) :
    ¬ OneLoop (runTurns config process
      [.watchdog now timedOut, .watchdog later timedOutLater]) := by
  intro oneLoop
  have after : runTurns config process [.watchdog now timedOut, .watchdog later timedOutLater] =
      { process.clearFlag.spawnWorker with watchdog := .assign process.workers.length } := by
    simp [runTurns, Process.step, Process.stepWatchdog, point, Process.clearFlag,
      Process.spawnWorker]
  rw [after] at oneLoop
  obtain ⟨place, found⟩ := List.mem_iff_getElem?.mp member
  have bound := (List.getElem?_eq_some_iff.mp found).1
  have same := oneLoop.one place process.workers.length
    ⟨worker, (List.getElem?_append_left bound).trans found, live, by
      simp [Process.clearFlag, Process.spawnWorker]⟩
    ⟨.started, List.getElem?_concat_length, by simp [Worker.Live, Worker.started], by
      simp [Worker.started]⟩
  exact absurd same bound.ne

end Threads

end PcDiagnosticAgent
