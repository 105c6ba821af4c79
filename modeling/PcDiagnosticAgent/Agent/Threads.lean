import PcDiagnosticAgent.Agent.Config
import PcDiagnosticAgent.Library.Runs

/-!
# The threads of the agent

`Agent.run`, `_start_worker` and `_restart_worker` of `agent/lifecycle.py`,
`Scheduler.loop` of `agent/scheduler.py` and `Watchdog.run` and `_check` of
`watchdog/watchdog.py` as threads that take turns. A turn takes one thread to
its next point; what it learns from outside comes with the turn: the clock, how
a cycle ends, whether a join times out, whether the service is asked to stop.
Any list of turns is an interleaving. A worker that is blocked in a collector
gets no turn. A call of the database is part of the turn of its thread; threads that
wait for the lock of the database are in `DatabaseLock`.

The marks `signalled`, `resumed` and `lateCycles` record what happened and are
never read by a turn.
-/

set_option autoImplicit false

namespace PcDiagnosticAgent

namespace Threads

/-! ## The scheduler loop -/

/-- Where a scheduler loop is. `high` and `low` are the tests whether the cycle
is due. -/
inductive WorkerPoint where
  | test
  | high
  | inHigh
  | low
  | inLow
  | wait
  | exited
deriving DecidableEq, Repr

/-- A thread that runs `Scheduler.loop`. It is signalled when a restart told it
to stop, and has resumed when it began an iteration after that. -/
structure Worker where
  point : WorkerPoint := .test
  now : Epoch := 0
  lastHigh : Epoch := 0
  lastLow : Epoch := 0
  signalled : Bool := false
  resumed : Bool := false
deriving DecidableEq, Repr

namespace Worker

/-- A loop that has just been started. -/
def started : Worker := {}

def HighDue (config : Config) (worker : Worker) : Prop :=
  config.collectionIntervalSeconds ≤ worker.now - worker.lastHigh

def LowDue (config : Config) (worker : Worker) : Prop :=
  config.lowFrequencyIntervalSeconds ≤ worker.now - worker.lastLow

instance (config : Config) (worker : Worker) : Decidable (worker.HighDue config) :=
  inferInstanceAs (Decidable (_ ≤ _))

instance (config : Config) (worker : Worker) : Decidable (worker.LowDue config) :=
  inferInstanceAs (Decidable (_ ≤ _))

/-- The next turn of a loop. The clock is read right after the test of the
flag, before anything that the threads share. -/
def next (config : Config) (stopFlag : Bool) (now : Epoch) (worker : Worker) : Worker :=
  match worker.point with
  | .test =>
    if stopFlag then { worker with point := .exited }
    else { worker with point := .high, now, resumed := worker.resumed || worker.signalled }
  | .high => { worker with point := if worker.HighDue config then .inHigh else .low }
  | .inHigh => { worker with point := .low, lastHigh := worker.now }
  | .low => { worker with point := if worker.LowDue config then .inLow else .wait }
  | .inLow => { worker with point := .wait, lastLow := worker.now }
  | .wait => { worker with point := .test }
  | .exited => worker

/-- The next turn begins a collection cycle. -/
def Begins (config : Config) (worker : Worker) : Prop :=
  worker.point = .high ∧ worker.HighDue config ∨ worker.point = .low ∧ worker.LowDue config

instance (config : Config) (worker : Worker) : Decidable (worker.Begins config) :=
  inferInstanceAs (Decidable (_ ∨ _))

/-- The current iteration still has to begin a cycle. -/
def CycleAhead (config : Config) (worker : Worker) : Prop :=
  match worker.point with
  | .high => worker.HighDue config ∨ worker.LowDue config
  | .inHigh | .low => worker.LowDue config
  | _ => False

instance (config : Config) (worker : Worker) : Decidable (worker.CycleAhead config) := by
  unfold CycleAhead
  split <;> infer_instance

def Live (worker : Worker) : Prop := worker.point ≠ .exited

instance (worker : Worker) : Decidable worker.Live := inferInstanceAs (Decidable (_ ≠ _))

end Worker

/-! ## The process -/

/-- Where the watchdog is; the points from `set` to `assign` are
`_restart_worker`. -/
inductive WatchdogPoint where
  | notStarted
  | test
  | check
  | set
  | join
  | clear
  | spawn
  | assign (index : ℕ)
  | wait
  | exited
deriving DecidableEq, Repr

/-- Where `Agent.run` is. -/
inductive MainPoint where
  | clear
  | spawn
  | startWatchdog
  | running
  | setFlag
  | stopWatchdog
  | joinWatchdog
  | joinWorker
  | close
  | returned
deriving DecidableEq, Repr

/-- The agent while it runs. Every scheduler thread that was ever started is in
`workers`, and `current` is the one `_worker` refers to. -/
structure Process where
  stopFlag : Bool := false
  workers : List Worker := []
  current : Option ℕ := none
  main : MainPoint := .clear
  watchdog : WatchdogPoint := .notStarted
  watchdogStop : Bool := false
  restarts : ℕ := 0
  lastRestart : Epoch := 0
  heartbeat : Option Epoch := none
  databaseOpen : Bool := true
  lateCycles : ℕ := 0
deriving DecidableEq, Repr

/-- The agent before `run`, with the heartbeat that an earlier run left. -/
def Process.initial (heartbeat : Option Epoch) : Process := { heartbeat }

/-- One turn of one thread. -/
inductive Turn where
  | worker (index : ℕ) (now : Epoch) (succeeds : Bool)
  | watchdog (now : Epoch) (timedOut : Bool)
  | main (stopRequested timedOut : Bool)
deriving DecidableEq, Repr

/-- `stale_after`. -/
def staleAfter : Epoch := 90

/-- `max_restarts`. -/
def maxRestarts : ℕ := 5

/-- `backoff_seconds`. -/
def backoffSeconds : Epoch := 60

namespace Process

variable (process : Process)

/-- The thread that `_worker` refers to is alive. -/
def CurrentLive : Prop :=
  ∃ index ∈ process.current, ∃ worker ∈ process.workers[index]?, worker.Live

instance : Decidable process.CurrentLive := by
  unfold CurrentLive
  infer_instance

/-- `_check` asks for a restart. Reading the heartbeat of a closed database
raises, and then there is none. -/
def RestartDue (now : Epoch) : Prop :=
  process.databaseOpen ∧ (∃ heartbeat ∈ process.heartbeat, staleAfter < now - heartbeat) ∧
    process.restarts < maxRestarts ∧ backoffSeconds ≤ now - process.lastRestart

instance (now : Epoch) : Decidable (process.RestartDue now) := by
  unfold RestartDue
  infer_instance

/-- `_worker_stop.clear()`. -/
def clearFlag : Process := { process with stopFlag := false }

/-- `_worker_stop.set()`. -/
def setFlag : Process := { process with stopFlag := true }

/-- The new thread of `_start_worker`. -/
def spawnWorker : Process := { process with workers := process.workers ++ [.started] }

/-- Every loop that is alive is told to stop. -/
def signalWorkers : Process :=
  { process with
    workers := process.workers.map fun worker =>
      { worker with signalled := worker.signalled || worker.Live } }

/-- The turn of one worker. A cycle that succeeds updates the heartbeat. -/
def stepWorker (config : Config) (index : ℕ) (now : Epoch) (succeeds : Bool) : Process :=
  match process.workers[index]? with
  | none => process
  | some worker =>
    { process with
      workers := process.workers.set index (worker.next config process.stopFlag now)
      heartbeat :=
        if worker.point = .inHigh ∧ succeeds ∧ process.databaseOpen then some worker.now
        else process.heartbeat
      lateCycles :=
        if worker.Begins config ∧ ¬ process.databaseOpen then process.lateCycles + 1
        else process.lateCycles }

/-- The turn of the watchdog. -/
def stepWatchdog (now : Epoch) (timedOut : Bool) : Process :=
  match process.watchdog with
  | .notStarted => process
  | .test => { process with watchdog := if process.watchdogStop then .exited else .check }
  | .check =>
    if process.RestartDue now then
      { process with restarts := process.restarts + 1, lastRestart := now, watchdog := .set }
    else { process with watchdog := .wait }
  | .set => { process.setFlag.signalWorkers with watchdog := .join }
  | .join =>
    if process.CurrentLive ∧ ¬ timedOut then process else { process with watchdog := .clear }
  | .clear => { process.clearFlag with watchdog := .spawn }
  | .spawn => { process.spawnWorker with watchdog := .assign process.workers.length }
  | .assign index => { process with current := some index, watchdog := .wait }
  | .wait => { process with watchdog := .test }
  | .exited => process

/-- The turn of `Agent.run`. -/
def stepMain (stopRequested timedOut : Bool) : Process :=
  match process.main with
  | .clear => { process.clearFlag with main := .spawn }
  | .spawn =>
    { process.spawnWorker with current := some process.workers.length, main := .startWatchdog }
  | .startWatchdog => { process with watchdog := .test, main := .running }
  | .running => { process with main := if stopRequested then .setFlag else .running }
  | .setFlag => { process.setFlag with main := .stopWatchdog }
  | .stopWatchdog => { process with watchdogStop := true, main := .joinWatchdog }
  | .joinWatchdog =>
    if process.watchdog = .exited ∨ timedOut then { process with main := .joinWorker }
    else process
  | .joinWorker =>
    if process.CurrentLive ∧ ¬ timedOut then process else { process with main := .close }
  | .close => { process with databaseOpen := false, main := .returned }
  | .returned => process

def step (config : Config) : Turn → Process
  | .worker index now succeeds => process.stepWorker config index now succeeds
  | .watchdog now timedOut => process.stepWatchdog now timedOut
  | .main stopRequested timedOut => process.stepMain stopRequested timedOut

end Process

/-- The process after the turns. -/
def runTurns (config : Config) (process : Process) (turns : List Turn) : Process :=
  Runs.run (fun process => process.step config) process turns

/-! ## What a turn changes -/

namespace Worker

variable (config : Config) (stopFlag : Bool) (now : Epoch) (worker : Worker)

@[simp] theorem next_signalled :
    (worker.next config stopFlag now).signalled = worker.signalled := by
  unfold next
  split
  · split <;> rfl
  all_goals rfl

/-- A loop that has exited stays so. -/
theorem live_of_next (live : (worker.next config stopFlag now).Live) : worker.Live := by
  intro exited
  simp [next, Live, exited] at live

/-- A loop begins an iteration only while it is alive and the flag is clear. -/
theorem next_resumed (resumed : (worker.next config stopFlag now).resumed) :
    worker.resumed ∨ worker.signalled ∧ worker.Live ∧ stopFlag = false := by
  unfold next at resumed
  split at resumed
  · rename_i test
    cases stopFlag with
    | true => exact .inl resumed
    | false =>
      rcases Bool.or_eq_true_iff.mp resumed with old | signalled
      · exact .inl old
      · exact .inr ⟨signalled, by simp [Live, test], rfl⟩
  all_goals exact .inl resumed

end Worker

namespace Process

variable {config : Config} {process : Process} {index : ℕ} {now : Epoch} {succeeds : Bool}

@[simp] theorem stepWorker_stopFlag :
    (process.stepWorker config index now succeeds).stopFlag = process.stopFlag := by
  unfold stepWorker
  split <;> rfl

@[simp] theorem stepWorker_main :
    (process.stepWorker config index now succeeds).main = process.main := by
  unfold stepWorker
  split <;> rfl

@[simp] theorem stepWorker_watchdog :
    (process.stepWorker config index now succeeds).watchdog = process.watchdog := by
  unfold stepWorker
  split <;> rfl

@[simp] theorem stepWorker_databaseOpen :
    (process.stepWorker config index now succeeds).databaseOpen = process.databaseOpen := by
  unfold stepWorker
  split <;> rfl

/-- After the turn of a worker every thread is as before, or has taken its
turn. -/
theorem stepWorker_workers {place : ℕ} {later : Worker}
    (found : (process.stepWorker config index now succeeds).workers[place]? = some later) :
    ∃ worker, process.workers[place]? = some worker ∧
      (later = worker ∨ later = worker.next config process.stopFlag now) := by
  unfold stepWorker at found
  split at found
  · exact ⟨later, found, .inl rfl⟩
  · rename_i worker turn
    by_cases same : index = place
    · subst same
      have bound := (List.getElem?_eq_some_iff.mp turn).1
      simp only [List.getElem?_set_self bound, Option.some.injEq] at found
      exact ⟨worker, turn, .inr found.symm⟩
    · simp only [List.getElem?_set_ne same] at found
      exact ⟨later, found, .inl rfl⟩

theorem mem_stepWorker {later : Worker}
    (member : later ∈ (process.stepWorker config index now succeeds).workers) :
    ∃ worker ∈ process.workers,
      later = worker ∨ later = worker.next config process.stopFlag now := by
  obtain ⟨place, found⟩ := List.mem_iff_getElem?.mp member
  obtain ⟨worker, old, turn⟩ := stepWorker_workers found
  exact ⟨worker, List.mem_of_getElem? old, turn⟩

end Process

end Threads

end PcDiagnosticAgent
