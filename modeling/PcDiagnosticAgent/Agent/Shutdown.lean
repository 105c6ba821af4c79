import PcDiagnosticAgent.Agent.Threads

/-!
# Stopping the agent

`run` sets the stop flag before it stops the watchdog, and waits for both
threads with a timeout. A restart that is under way clears the flag again, and
a worker that outlives the join still has the rest of its iteration to go. When
neither happens, the flag is set when `run` returns and no cycle begins on the
closed database (`shutdown_is_final`).
-/

set_option autoImplicit false

namespace PcDiagnosticAgent

namespace Threads

/-- `run` has set the flag. -/
def Process.ShuttingDown (process : Process) : Prop :=
  process.main = .stopWatchdog ∨ process.main = .joinWatchdog ∨ process.main = .joinWorker ∨
    process.main = .close ∨ process.main = .returned

instance (process : Process) : Decidable process.ShuttingDown :=
  inferInstanceAs (Decidable (_ ∨ _))

/-- Once `run` has returned, the flag is set and no collection cycle has begun
on the closed database. -/
def ShutDown (process : Process) : Prop :=
  process.main = .returned → process.stopFlag = true ∧ process.lateCycles = 0

/-- No restart clears the flag after `run` has set it, and when the database is
closed no loop that is alive still has a due cycle in its iteration. -/
def Orderly (config : Config) (process : Process) : Turn → Prop
  | .watchdog _ _ => process.watchdog = .clear → ¬ process.ShuttingDown
  | .main _ _ => process.main = .close → ∀ worker ∈ process.workers, ¬ worker.CycleAhead config
  | .worker _ _ _ => True

instance (config : Config) (process : Process) (turn : Turn) :
    Decidable (Orderly config process turn) := by
  unfold Orderly
  split <;> infer_instance

/-! ## The rest of an iteration -/

namespace Worker

variable {config : Config} {stopFlag : Bool} {now : Epoch} {worker : Worker}

/-- A loop begins a cycle only if it had one ahead. -/
theorem cycleAhead_of_begins (begins : worker.Begins config) : worker.CycleAhead config := by
  unfold CycleAhead
  rcases begins with ⟨point, due⟩ | ⟨point, due⟩
  · rw [point]
    exact .inl due
  · rw [point]
    exact due

/-- With the flag set no new cycles come ahead. -/
theorem next_cycleAhead (none : ¬ worker.CycleAhead config) :
    ¬ (worker.next config true now).CycleAhead config := by
  intro ahead
  apply none
  cases point : worker.point with
  | test => simp [next, point, CycleAhead] at ahead
  | high =>
    simp only [CycleAhead, point]
    by_cases due : worker.HighDue config
    · exact .inl due
    · refine .inr ?_
      simpa [next, point, due, CycleAhead, LowDue] using ahead
  | inHigh => simpa [next, point, CycleAhead, LowDue] using ahead
  | low =>
    simp only [CycleAhead, point]
    by_contra notDue
    simp [next, point, notDue, CycleAhead] at ahead
  | inLow => simp [next, point, CycleAhead] at ahead
  | wait => simp [next, point, CycleAhead] at ahead
  | exited => simp [next, point, CycleAhead] at ahead

end Worker

/-! ## The turns of the watchdog -/

section Watchdog

variable {process : Process} {now : Epoch} {timedOut : Bool}

/-- The watchdog leaves `run` and the database alone. -/
theorem Process.stepWatchdog_unchanged :
    (process.stepWatchdog now timedOut).main = process.main ∧
      (process.stepWatchdog now timedOut).databaseOpen = process.databaseOpen ∧
      (process.stepWatchdog now timedOut).lateCycles = process.lateCycles := by
  unfold stepWatchdog
  split
  case h_3 => split <;> exact ⟨rfl, rfl, rfl⟩
  case h_5 => split <;> exact ⟨rfl, rfl, rfl⟩
  all_goals exact ⟨rfl, rfl, rfl⟩

/-- Only a restart that clears the flag takes it back. -/
theorem Process.stepWatchdog_stopFlag (set : process.stopFlag = true)
    (keeps : process.watchdog ≠ .clear) :
    (process.stepWatchdog now timedOut).stopFlag = true := by
  unfold stepWatchdog
  split
  case h_3 => split <;> exact set
  case h_4 => rfl
  case h_5 => split <;> exact set
  case h_6 point => exact absurd point keeps
  all_goals exact set

/-- The watchdog gives no loop a cycle. -/
theorem Process.idle_stepWatchdog {config : Config}
    (idle : ∀ worker ∈ process.workers, ¬ worker.CycleAhead config) :
    ∀ worker ∈ (process.stepWatchdog now timedOut).workers, ¬ worker.CycleAhead config := by
  unfold stepWatchdog
  split
  case h_3 => split <;> exact idle
  case h_4 =>
    intro later member
    obtain ⟨worker, old, rfl⟩ := List.mem_map.mp member
    exact idle worker old
  case h_5 => split <;> exact idle
  case h_7 =>
    refine List.forall_mem_append.mpr ⟨idle, ?_⟩
    simp [Worker.started, Worker.CycleAhead]
  all_goals exact idle

end Watchdog

/-! ## The invariant -/

structure Stopping (config : Config) (process : Process) : Prop where
  flag : process.ShuttingDown → process.stopFlag = true
  closed : process.databaseOpen = false → process.main = .returned
  idle : process.databaseOpen = false → ∀ worker ∈ process.workers, ¬ worker.CycleAhead config
  onTime : process.lateCycles = 0

namespace Stopping

variable {config : Config} {process : Process}

theorem initial (heartbeat : Option Epoch) : Stopping config (Process.initial heartbeat) where
  flag := by simp [Process.initial, Process.ShuttingDown]
  closed := by simp [Process.initial]
  idle := by simp [Process.initial]
  onTime := rfl

theorem shutDown (stopping : Stopping config process) : ShutDown process :=
  fun returned => ⟨stopping.flag (by simp [Process.ShuttingDown, returned]), stopping.onTime⟩

theorem stepWorker (stopping : Stopping config process) (index : ℕ) (now : Epoch)
    (succeeds : Bool) : Stopping config (process.stepWorker config index now succeeds) where
  flag := by
    unfold Process.ShuttingDown
    rw [Process.stepWorker_main, Process.stepWorker_stopFlag]
    exact stopping.flag
  closed := by
    rw [Process.stepWorker_databaseOpen, Process.stepWorker_main]
    exact stopping.closed
  idle := by
    rw [Process.stepWorker_databaseOpen]
    intro closed later member
    have set : process.stopFlag = true := stopping.flag (by
      simp [Process.ShuttingDown, stopping.closed closed])
    obtain ⟨worker, old, rfl | rfl⟩ := Process.mem_stepWorker member
    · exact stopping.idle closed later old
    · rw [set]
      exact Worker.next_cycleAhead (stopping.idle closed worker old)
  onTime := by
    unfold Process.stepWorker
    split
    · exact stopping.onTime
    · rename_i worker turn
      have late : ¬ (worker.Begins config ∧ ¬ process.databaseOpen) := by
        rintro ⟨begins, closed⟩
        exact stopping.idle (by simpa using closed) worker (List.mem_of_getElem? turn)
          (Worker.cycleAhead_of_begins begins)
      simp only [if_neg late]
      exact stopping.onTime

theorem stepWatchdog (stopping : Stopping config process) {now : Epoch} {timedOut : Bool}
    (orderly : Orderly config process (.watchdog now timedOut)) :
    Stopping config (process.stepWatchdog now timedOut) := by
  obtain ⟨main, databaseOpen, late⟩ := @Process.stepWatchdog_unchanged process now timedOut
  refine ⟨?_, ?_, ?_, late.trans stopping.onTime⟩
  · unfold Process.ShuttingDown
    rw [main]
    intro shutting
    exact Process.stepWatchdog_stopFlag (stopping.flag shutting)
      fun clears => orderly clears shutting
  · rw [main, databaseOpen]
    exact stopping.closed
  · rw [databaseOpen]
    exact fun closed => Process.idle_stepWatchdog (stopping.idle closed)

/-- Until `run` returns the database is open, and then only the flag matters. -/
theorem of_running (stopping : Stopping config process) (running : process.main ≠ .returned)
    {other : Process} (databaseOpen : other.databaseOpen = process.databaseOpen)
    (late : other.lateCycles = process.lateCycles)
    (flag : other.ShuttingDown → other.stopFlag = true) : Stopping config other := by
  have isOpen : other.databaseOpen ≠ false := databaseOpen ▸ mt stopping.closed running
  exact ⟨flag, fun shut => absurd shut isOpen, fun shut => absurd shut isOpen,
    late.trans stopping.onTime⟩

theorem stepMain (stopping : Stopping config process) {stopRequested timedOut : Bool}
    (orderly : Orderly config process (.main stopRequested timedOut)) :
    Stopping config (process.stepMain stopRequested timedOut) := by
  have flag := stopping.flag
  unfold Process.stepMain
  split
  case h_1 point =>
    exact stopping.of_running (by simp [point]) rfl rfl (by simp [Process.ShuttingDown])
  case h_2 point =>
    exact stopping.of_running (by simp [point]) rfl rfl (by simp [Process.ShuttingDown])
  case h_3 point =>
    exact stopping.of_running (by simp [point]) rfl rfl (by simp [Process.ShuttingDown])
  case h_4 point =>
    refine stopping.of_running (by simp [point]) rfl rfl ?_
    cases stopRequested <;> simp [Process.ShuttingDown]
  case h_5 point => exact stopping.of_running (by simp [point]) rfl rfl fun _ => rfl
  case h_6 point =>
    exact stopping.of_running (by simp [point]) rfl rfl fun _ => flag (.inl point)
  case h_7 point =>
    split
    · exact stopping.of_running (by simp [point]) rfl rfl fun _ => flag (.inr (.inl point))
    · exact stopping
  case h_8 point =>
    split
    · exact stopping
    · exact stopping.of_running (by simp [point]) rfl rfl fun _ => flag (.inr (.inr (.inl point)))
  case h_9 point =>
    -- the database is closed, and no loop has a cycle left
    exact ⟨fun _ => flag (.inr (.inr (.inr (.inl point)))), fun _ => rfl, fun _ => orderly point,
      stopping.onTime⟩
  case h_10 point => exact stopping

theorem step (stopping : Stopping config process) {turn : Turn}
    (orderly : Orderly config process turn) : Stopping config (process.step config turn) := by
  cases turn with
  | worker index now succeeds => exact stopping.stepWorker index now succeeds
  | watchdog now timedOut => exact stopping.stepWatchdog orderly
  | main stopRequested timedOut => exact stopping.stepMain orderly

end Stopping

/-- **As long as no restart clears the flag after `run` has set it, and no loop
has a due cycle left when the database is closed, at every point of every
interleaving from the return on the flag is set and no collection cycle has
begun on the closed database.** -/
theorem shutdown_is_final (config : Config) (heartbeat : Option Epoch) (turns : List Turn)
    (orderly : Runs.Guarded (fun process => process.step config) (Orderly config)
      (Process.initial heartbeat) turns) :
    ∀ done rest, turns = done ++ rest →
      ShutDown (runTurns config (Process.initial heartbeat) done) := by
  intro done rest split
  rw [split, Runs.guarded_append] at orderly
  exact (orderly.1.invariant (Stopping config) (fun _ _ allowed stopping => stopping.step allowed)
    (.initial heartbeat)).shutDown

/-- The worker ends its iteration and exits, then `run` returns. -/
theorem shutdown_is_final_idle :
    ShutDown (runTurns {} (Process.initial none)
      (List.replicate 3 (.main false false) ++ List.replicate 6 (.worker 0 1000 true) ++
        List.replicate 3 (.main true false) ++ List.replicate 2 (.worker 0 1001 true) ++
        List.replicate 3 (.main true true))) :=
  shutdown_is_final {} none _ (by decide +kernel) _ [] (List.append_nil _).symm

/-- The service is stopped while a restart waits for the blocked worker. The
restart clears the flag after that, and the new worker collects on the closed
database. -/
theorem restart_outlives_shutdown :
    ¬ ShutDown (runTurns {} (Process.initial (some 0))
      (List.replicate 3 (.main false false) ++ List.replicate 2 (.worker 0 1000 true) ++
        List.replicate 3 (.watchdog 1000 false) ++ List.replicate 3 (.main true false) ++
        List.replicate 3 (.watchdog 1010 true) ++ List.replicate 3 (.main true true) ++
        List.replicate 2 (.worker 1 1011 true))) := by
  unfold ShutDown
  decide +kernel

end Threads

end PcDiagnosticAgent
