import PcDiagnosticAgent.Agent.Threads
import Mathlib.Data.List.Chain

/-!
# Heartbeats of another worker

The watchdog compares the clock with the heartbeat in the database, whoever
stored it: the current worker, a worker that was replaced, or an earlier run of
the agent. A restart for the current worker's own heartbeat comes when that
worker has been silent for long enough. A restart for another one says nothing
about the current worker, which may have been started just now: without such
restarts every restart is justified, and with them only by luck
(`restarts_justified_iff`).

`Watched` adds to a process when its workers were started and who stored which
heartbeat. A heartbeat counts from the time it carries.
-/

set_option autoImplicit false

namespace PcDiagnosticAgent

namespace Threads

/-! ## Who stored the heartbeat -/

/-- A process with marks that no turn reads: when each worker was started, the
newest heartbeat that it stored, and the worker whose heartbeat is in the
database. -/
structure Watched where
  process : Process
  startedAt : ℕ → Epoch := fun _ => 0
  stored : ℕ → Option Epoch := fun _ => none
  writer : Option ℕ := none

namespace Watched

/-- A worker was started. -/
def noteStart (watched : Watched) (reading : Epoch) : Watched :=
  { watched with
    startedAt := Function.update watched.startedAt watched.process.workers.length reading }

/-- A worker stored its heartbeat. -/
def noteHeartbeat (watched : Watched) (index : ℕ) (heartbeat : Epoch) : Watched :=
  { watched with
    stored := Function.update watched.stored index (some heartbeat)
    writer := some index }

/-- The marks of one turn; `started` is the clock when `run` starts its
worker. -/
def note (started : Epoch) (watched : Watched) : Turn → Watched
  | .worker index _ succeeds =>
    match watched.process.workers[index]? with
    | none => watched
    | some worker =>
      if worker.point = .inHigh ∧ succeeds ∧ watched.process.databaseOpen then
        watched.noteHeartbeat index worker.now
      else watched
  | .watchdog now _ =>
    if watched.process.watchdog = .spawn then watched.noteStart now else watched
  | .main _ _ =>
    if watched.process.main = .spawn then watched.noteStart started else watched

def step (config : Config) (started : Epoch) (watched : Watched) (turn : Turn) : Watched :=
  { watched.note started turn with process := watched.process.step config turn }

/-- The agent before `run`, with the heartbeat that an earlier run left. -/
def initial (heartbeat : Option Epoch) : Watched := { process := .initial heartbeat }

def run (config : Config) (heartbeat : Option Epoch) (started : Epoch) (turns : List Turn) :
    Watched :=
  Runs.run (step config started) (initial heartbeat) turns

/-- The last sign of life of a worker: its newest heartbeat, or its start. -/
def lastSign (watched : Watched) (index : ℕ) : Epoch :=
  (watched.stored index).getD (watched.startedAt index)

/-- The current worker has been silent for more than `stale_after`. -/
def Silent (watched : Watched) (now : Epoch) : Prop :=
  ∀ index ∈ watched.process.current, staleAfter < now - watched.lastSign index

/-- The current worker has been running for more than `stale_after`. -/
def RunningLong (watched : Watched) (now : Epoch) : Prop :=
  ∀ index ∈ watched.process.current, staleAfter < now - watched.startedAt index

/-- The heartbeat in the database is none of the current worker. -/
def Foreign (watched : Watched) : Prop :=
  ∀ index ∈ watched.process.current, watched.writer ≠ some index

end Watched

/-- What holds at every check of the run, with the clock that it reads. -/
def EveryCheck (config : Config) (heartbeat : Option Epoch) (started : Epoch)
    (turns : List Turn) (property : Watched → Epoch → Prop) : Prop :=
  ∀ done now timedOut rest, turns = done ++ .watchdog now timedOut :: rest →
    (Watched.run config heartbeat started done).process.watchdog = .check →
    property (Watched.run config heartbeat started done) now

/-- The clock readings of the turns. -/
def readings (turns : List Turn) : List Epoch :=
  turns.filterMap fun turn =>
    match turn with
    | .worker _ now _ => some now
    | .watchdog now _ => some now
    | .main _ _ => none

namespace Watched

/-- The marks follow the process. -/
theorem run_process (config : Config) (heartbeat : Option Epoch) (started : Epoch)
    (turns : List Turn) :
    (run config heartbeat started turns).process =
      runTurns config (.initial heartbeat) turns := by
  have follows : ∀ watched : Watched, (Runs.run (step config started) watched turns).process =
      runTurns config watched.process turns := by
    induction turns with
    | nil => exact fun _ => rfl
    | cons turn turns ih => exact fun watched => ih (watched.step config started turn)
  exact follows (initial heartbeat)

end Watched

/-! ## What a turn does to the heartbeat and the workers -/

namespace Process

variable (process : Process)

theorem stepWatchdog_heartbeat (now : Epoch) (timedOut : Bool) :
    (process.stepWatchdog now timedOut).heartbeat = process.heartbeat := by
  unfold stepWatchdog
  split
  case h_3 => split <;> rfl
  case h_5 => split <;> rfl
  all_goals rfl

theorem stepMain_heartbeat (stopRequested timedOut : Bool) :
    (process.stepMain stopRequested timedOut).heartbeat = process.heartbeat := by
  unfold stepMain
  split
  case h_7 => split <;> rfl
  case h_8 => split <;> rfl
  all_goals rfl

/-- The watchdog and `run` leave the points and the clocks of the loops alone,
and start at most one. -/
structure Keeps (starts : Prop) (later : Process) : Prop where
  length : starts ∧ later.workers.length = process.workers.length + 1 ∨
    ¬ starts ∧ later.workers.length = process.workers.length
  workers : ∀ (index : ℕ) (worker : Worker), later.workers[index]? = some worker →
    worker.point = .test ∨ ∃ earlier : Worker, process.workers[index]? = some earlier ∧
      worker.point = earlier.point ∧ worker.now = earlier.now

variable {process}

theorem Keeps.of_same {starts : Prop} {later : Process} (none : ¬ starts)
    (same : later.workers = process.workers) : process.Keeps starts later where
  length := .inr ⟨none, congrArg List.length same⟩
  workers := fun _ worker found => .inr ⟨worker, same ▸ found, rfl, rfl⟩

theorem Keeps.of_spawn {starts : Prop} {later : Process} (one : starts)
    (spawned : later.workers = process.workers ++ [.started]) : process.Keeps starts later where
  length := .inl ⟨one, by simp [spawned]⟩
  workers := by
    intro index worker found
    rw [spawned, List.getElem?_append] at found
    split at found
    · exact .inr ⟨worker, found, rfl, rfl⟩
    · rw [List.mem_singleton.mp (List.mem_of_getElem? found)]
      exact .inl rfl

theorem stepWatchdog_keeps (process : Process) (now : Epoch) (timedOut : Bool) :
    process.Keeps (process.watchdog = .spawn) (process.stepWatchdog now timedOut) := by
  unfold stepWatchdog
  split
  case h_3 point => split <;> exact .of_same (by simp [point]) rfl
  case h_4 point =>
    refine ⟨.inr ⟨by simp [point], List.length_map _⟩, fun index worker found => ?_⟩
    have mapped : (process.workers.map fun worker => { worker with
        signalled := worker.signalled || worker.Live })[index]? = some worker := found
    rw [List.getElem?_map] at mapped
    obtain ⟨earlier, old, rfl⟩ := Option.map_eq_some_iff.mp mapped
    exact .inr ⟨earlier, old, rfl, rfl⟩
  case h_5 point => split <;> exact .of_same (by simp [point]) rfl
  case h_7 point => exact .of_spawn point rfl
  all_goals
    rename_i point
    exact .of_same (by simp [point]) rfl

theorem stepMain_keeps (process : Process) (stopRequested timedOut : Bool) :
    process.Keeps (process.main = .spawn) (process.stepMain stopRequested timedOut) := by
  unfold stepMain
  split
  case h_2 point => exact .of_spawn point rfl
  case h_7 point => split <;> exact .of_same (by simp [point]) rfl
  case h_8 point => split <;> exact .of_same (by simp [point]) rfl
  all_goals
    rename_i point
    exact .of_same (by simp [point]) rfl

end Process

namespace Watched

/-! ## What a turn does to the marks -/

/-- A turn of a worker stores its heartbeat, or none. -/
theorem step_worker (config : Config) (started : Epoch) (watched : Watched) (index : ℕ)
    (now : Epoch) (succeeds : Bool) :
    watched.step config started (.worker index now succeeds) = watched ∨
    ∃ (worker : Worker) (later : Process), watched.process.workers[index]? = some worker ∧
      later.workers =
        watched.process.workers.set index (worker.next config watched.process.stopFlag now) ∧
      (worker.point = .inHigh ∧ later.heartbeat = some worker.now ∧
          watched.step config started (.worker index now succeeds) =
            { watched.noteHeartbeat index worker.now with process := later } ∨
        later.heartbeat = watched.process.heartbeat ∧
          watched.step config started (.worker index now succeeds) =
            { watched with process := later }) := by
  cases turn : watched.process.workers[index]? with
  | none =>
    refine .inl ?_
    simp only [step, note, Process.step, Process.stepWorker, turn]
  | some worker =>
    refine .inr ⟨worker, watched.process.stepWorker config index now succeeds, rfl, ?_, ?_⟩
    · simp only [Process.stepWorker, turn]
    · by_cases stores : worker.point = .inHigh ∧ succeeds ∧ watched.process.databaseOpen
      · refine .inl ⟨stores.1, ?_, ?_⟩
        · simp only [Process.stepWorker, turn, if_pos stores]
        · simp only [step, note, turn, if_pos stores]
          rfl
      · refine .inr ⟨?_, ?_⟩
        · simp only [Process.stepWorker, turn, if_neg stores]
        · simp only [step, note, turn, if_neg stores]
          rfl

/-- The other turns store none, and start at most one worker. -/
theorem step_other (config : Config) (started : Epoch) (watched : Watched) {turn : Turn}
    (other : ∀ index now succeeds, turn ≠ .worker index now succeeds) :
    ∃ starts : Prop, ∃ later : Process, watched.process.Keeps starts later ∧
      later.heartbeat = watched.process.heartbeat ∧
      (starts ∧ (∃ reading ∈ started :: readings [turn],
          watched.step config started turn =
            { watched.noteStart reading with process := later }) ∨
        ¬ starts ∧ watched.step config started turn = { watched with process := later }) := by
  cases turn with
  | worker index now succeeds => exact absurd rfl (other index now succeeds)
  | watchdog now timedOut =>
    refine ⟨_, _, watched.process.stepWatchdog_keeps now timedOut,
      watched.process.stepWatchdog_heartbeat now timedOut, ?_⟩
    by_cases spawns : watched.process.watchdog = .spawn
    · refine .inl ⟨spawns, now, by simp [readings], ?_⟩
      rw [step, note, if_pos spawns]
      rfl
    · refine .inr ⟨spawns, ?_⟩
      rw [step, note, if_neg spawns]
      rfl
  | main stopRequested timedOut =>
    refine ⟨_, _, watched.process.stepMain_keeps stopRequested timedOut,
      watched.process.stepMain_heartbeat stopRequested timedOut, ?_⟩
    by_cases spawns : watched.process.main = .spawn
    · refine .inl ⟨spawns, started, by simp, ?_⟩
      rw [step, note, if_pos spawns]
      rfl
    · refine .inr ⟨spawns, ?_⟩
      rw [step, note, if_neg spawns]
      rfl

/-! ## The invariants -/

/-- The heartbeat in the database is the newest one of its writer. -/
def Owned (watched : Watched) : Prop :=
  ∀ index ∈ watched.writer, ∃ heartbeat, watched.stored index = some heartbeat ∧
    watched.process.heartbeat = some heartbeat

theorem Owned.step {config : Config} {started : Epoch} {watched : Watched}
    (owned : watched.Owned) (turn : Turn) : (watched.step config started turn).Owned := by
  by_cases isWorker : ∃ index now succeeds, turn = .worker index now succeeds
  · obtain ⟨index, now, succeeds, rfl⟩ := isWorker
    rcases watched.step_worker config started index now succeeds with
      same | ⟨worker, later, -, -, ⟨-, heartbeat, next⟩ | ⟨heartbeat, next⟩⟩
    · exact same.symm ▸ owned
    · rw [next]
      intro other writes
      rw [← Option.some.inj writes]
      exact ⟨worker.now, Function.update_self .., heartbeat⟩
    · rw [next]
      intro other writes
      obtain ⟨stored, own, kept⟩ := owned other writes
      exact ⟨stored, own, heartbeat.trans kept⟩
  · obtain ⟨starts, later, -, heartbeat, ⟨-, reading, -, next⟩ | ⟨-, next⟩⟩ :=
      watched.step_other config started fun index now succeeds same =>
        isWorker ⟨index, now, succeeds, same⟩
    all_goals
      rw [next]
      intro other writes
      obtain ⟨stored, own, kept⟩ := owned other writes
      exact ⟨stored, own, heartbeat.trans kept⟩

theorem owned_run (config : Config) (heartbeat : Option Epoch) (started : Epoch)
    (turns : List Turn) : (run config heartbeat started turns).Owned :=
  Runs.run_invariant Owned (fun _ turn (_ : True) owned => owned.step turn)
    (by simp [Owned, initial]) fun _ _ => trivial

/-- A worker whose iteration is under way has read the clock. -/
def UnderWay (worker : Worker) : Prop := worker.point ≠ .test ∧ worker.point ≠ .exited

/-- On a clock that was never set back, what a worker reads and stores is not
older than its start. -/
structure Dated (watched : Watched) (clock : Epoch) : Prop where
  started : ∀ index < watched.process.workers.length, watched.startedAt index ≤ clock
  read : ∀ (index : ℕ) (worker : Worker), watched.process.workers[index]? = some worker →
    UnderWay worker → watched.startedAt index ≤ worker.now
  known : ∀ index, watched.stored index ≠ none → index < watched.process.workers.length
  stored : ∀ index heartbeat, watched.stored index = some heartbeat →
    watched.startedAt index ≤ heartbeat

theorem underWay_next {config : Config} {stopFlag : Bool} {now : Epoch} {worker : Worker}
    (underWay : UnderWay (worker.next config stopFlag now)) :
    (worker.next config stopFlag now).now = now ∨
      UnderWay worker ∧ (worker.next config stopFlag now).now = worker.now := by
  unfold UnderWay at *
  cases point : worker.point with
  | test =>
    cases stopFlag with
    | true => simp [Worker.next, point] at underWay
    | false => exact .inl (by simp [Worker.next, point])
  | wait => simp [Worker.next, point] at underWay
  | exited => simp [Worker.next, point] at underWay
  | high => exact .inr ⟨by simp, by simp [Worker.next, point]⟩
  | inHigh => exact .inr ⟨by simp, by simp [Worker.next, point]⟩
  | low => exact .inr ⟨by simp, by simp [Worker.next, point]⟩
  | inLow => exact .inr ⟨by simp, by simp [Worker.next, point]⟩

namespace Dated

variable {config : Config} {started clock later : Epoch} {watched : Watched}
  (dated : watched.Dated clock)

include dated

theorem of_later (order : clock ≤ later) : watched.Dated later :=
  ⟨fun index bound => (dated.started index bound).trans order, dated.read, dated.known,
    dated.stored⟩

theorem step_worker {index : ℕ} {now : Epoch} {succeeds : Bool} (order : clock ≤ now) :
    (watched.step config started (.worker index now succeeds)).Dated now := by
  rcases watched.step_worker config started index now succeeds with
    same | ⟨worker, next, turn, workers, marks⟩
  · exact same.symm ▸ dated.of_later order
  · have bound : index < watched.process.workers.length := (List.getElem?_eq_some_iff.mp turn).1
    have length : next.workers.length = watched.process.workers.length := by
      rw [workers, List.length_set]
    have before : ∀ place < next.workers.length, watched.startedAt place ≤ now :=
      fun place inside => (dated.started place (length ▸ inside)).trans order
    have read : ∀ (place : ℕ) (other : Worker), next.workers[place]? = some other →
        UnderWay other → watched.startedAt place ≤ other.now := by
      intro place other found underWay
      rw [workers] at found
      by_cases own : index = place
      · subst own
        rw [List.getElem?_set_self bound] at found
        rw [← Option.some.inj found] at underWay ⊢
        rcases underWay_next underWay with fresh | ⟨before, kept⟩
        · rw [fresh]
          exact (dated.started index bound).trans order
        · rw [kept]
          exact dated.read index worker turn before
      · rw [List.getElem?_set_ne own] at found
        exact dated.read place other found underWay
    rcases marks with ⟨point, -, marks⟩ | ⟨-, marks⟩
    · rw [marks]
      refine ⟨before, read, fun place isSome => ?_, fun place heartbeat isStored => ?_⟩
      · change place < next.workers.length
        rw [length]
        change Function.update watched.stored index (some worker.now) place ≠ none at isSome
        by_cases own : place = index
        · exact own ▸ bound
        · rw [Function.update_of_ne own] at isSome
          exact dated.known place isSome
      · change Function.update watched.stored index (some worker.now) place = some heartbeat
          at isStored
        by_cases own : place = index
        · subst own
          rw [Function.update_self] at isStored
          rw [← Option.some.inj isStored]
          exact dated.read place worker turn (by simp [UnderWay, point])
        · rw [Function.update_of_ne own] at isStored
          exact dated.stored place heartbeat isStored
    · rw [marks]
      exact ⟨before, read, fun place isSome => length ▸ dated.known place isSome, dated.stored⟩

theorem step_other {turn : Turn} (other : ∀ index now succeeds, turn ≠ .worker index now succeeds)
    (order : clock ≤ later) (past : ∀ reading ∈ started :: readings [turn], reading ≤ later) :
    (watched.step config started turn).Dated later := by
  obtain ⟨starts, next, keeps, -, marks⟩ := watched.step_other config started other
  -- whoever is under way is an old worker, with the clock it had read
  have old : ∀ (index : ℕ) (worker : Worker), next.workers[index]? = some worker →
      UnderWay worker → index < watched.process.workers.length ∧
        watched.startedAt index ≤ worker.now := by
    intro index worker found underWay
    rcases keeps.workers index worker found with fresh | ⟨earlier, before, point, now⟩
    · exact absurd fresh underWay.1
    · rw [now]
      exact ⟨(List.getElem?_eq_some_iff.mp before).1,
        dated.read index earlier before ⟨point ▸ underWay.1, point ▸ underWay.2⟩⟩
  rcases marks with ⟨starting, reading, read, marks⟩ | ⟨idle, marks⟩
  · have length : next.workers.length = watched.process.workers.length + 1 := by
      rcases keeps.length with ⟨-, longer⟩ | ⟨idle, -⟩
      · exact longer
      · exact absurd starting idle
    have kept : ∀ index < watched.process.workers.length,
        (watched.noteStart reading).startedAt index = watched.startedAt index :=
      fun index bound => Function.update_of_ne bound.ne _ _
    have new : (watched.noteStart reading).startedAt watched.process.workers.length = reading :=
      Function.update_self ..
    rw [marks]
    refine ⟨fun index bound => ?_, fun index worker found underWay => ?_, fun index isSome => ?_,
      fun index heartbeat isStored => ?_⟩
    · change (watched.noteStart reading).startedAt index ≤ later
      have within : index < next.workers.length := bound
      rw [length, Nat.lt_succ_iff_lt_or_eq] at within
      rcases within with early | rfl
      · rw [kept index early]
        exact (dated.started index early).trans order
      · rw [new]
        exact past reading read
    · change (watched.noteStart reading).startedAt index ≤ worker.now
      obtain ⟨bound, order⟩ := old index worker found underWay
      rw [kept index bound]
      exact order
    · change index < next.workers.length
      rw [length]
      exact Nat.lt_succ_of_lt (dated.known index isSome)
    · change (watched.noteStart reading).startedAt index ≤ heartbeat
      change watched.stored index = some heartbeat at isStored
      rw [kept index (dated.known index (by simp [isStored]))]
      exact dated.stored index heartbeat isStored
  · have length : next.workers.length = watched.process.workers.length := by
      rcases keeps.length with ⟨starting, -⟩ | ⟨-, same⟩
      · exact absurd starting idle
      · exact same
    rw [marks]
    refine ⟨fun index bound => ?_, fun index worker found underWay => ?_, fun index isSome => ?_,
      dated.stored⟩
    · exact (dated.started index (length ▸ bound)).trans order
    · exact (old index worker found underWay).2
    · exact length ▸ dated.known index isSome

end Dated

/-- On a clock that is not set back the marks stay in order. -/
theorem dated_run {config : Config} {started clock : Epoch} {watched : Watched}
    (dated : watched.Dated clock) (order : started ≤ clock) {turns : List Turn}
    (forward : (clock :: readings turns).IsChain (· ≤ ·)) :
    ∃ later, (Runs.run (step config started) watched turns).Dated later := by
  induction turns generalizing watched clock with
  | nil => exact ⟨clock, dated⟩
  | cons turn turns ih =>
    cases turn with
    | worker index now succeeds =>
      obtain ⟨next, rest⟩ := List.isChain_cons_cons.mp forward
      exact ih (dated.step_worker next) (order.trans next) rest
    | watchdog now timedOut =>
      obtain ⟨next, rest⟩ := List.isChain_cons_cons.mp forward
      refine ih (dated.step_other (by simp) next ?_) (order.trans next) rest
      simp [readings, order.trans next]
    | main stopRequested timedOut =>
      refine ih (dated.step_other (by simp) (le_refl clock) ?_) order forward
      simp [readings, order]

theorem dated_initial (heartbeat : Option Epoch) (clock : Epoch) :
    (initial heartbeat).Dated clock where
  started := by simp [initial, Process.initial]
  read := by simp [initial, Process.initial]
  known := by simp [initial]
  stored := by simp [initial]

end Watched

/-! ## The restarts of a run -/

/-- A restart for the heartbeat of the current worker finds it silent. -/
theorem Watched.silent_of_own {watched : Watched} (owned : watched.Owned) {now : Epoch}
    (due : watched.process.RestartDue now) (own : ¬ watched.Foreign) : watched.Silent now := by
  obtain ⟨-, ⟨heartbeat, inDatabase, stale⟩, -⟩ := due
  unfold Foreign at own
  push Not at own
  obtain ⟨writer, current, writes⟩ := own
  obtain ⟨stored, newest, kept⟩ := owned writer writes
  intro index isCurrent
  rw [Option.mem_unique isCurrent current, lastSign, newest, Option.getD_some]
  rw [kept] at inDatabase
  exact Option.some.inj inDatabase ▸ stale

/-- **Where every restart is for a heartbeat of the current worker, it finds
that worker silent for more than `stale_after`. A restart for another heartbeat
finds it so by luck only: all restarts do exactly when no check calls for one
because of another heartbeat while the worker is not silent. On a clock that is
never set back a silent worker has been running for longer than that.** -/
theorem restarts_justified_iff (config : Config) (heartbeat : Option Epoch) (started : Epoch)
    (turns : List Turn) :
    (EveryCheck config heartbeat started turns (fun watched now =>
        watched.process.RestartDue now → ¬ watched.Foreign) →
      EveryCheck config heartbeat started turns fun watched now =>
        watched.process.RestartDue now → watched.Silent now) ∧
    (EveryCheck config heartbeat started turns (fun watched now =>
        watched.process.RestartDue now → watched.Silent now) ↔
      EveryCheck config heartbeat started turns fun watched now =>
        watched.Foreign → ¬ watched.Silent now → ¬ watched.process.RestartDue now) ∧
    ((started :: readings turns).IsChain (· ≤ ·) →
      EveryCheck config heartbeat started turns fun watched now =>
        watched.Silent now → watched.RunningLong now) := by
  have owned := Watched.owned_run config heartbeat started
  refine ⟨?_, ⟨?_, ?_⟩, ?_⟩
  · intro own done now timedOut rest split point due
    exact Watched.silent_of_own (owned done) due (own done now timedOut rest split point due)
  · intro justified done now timedOut rest split point _ active due
    exact active (justified done now timedOut rest split point due)
  · intro harmless done now timedOut rest split point due
    by_cases own : (Watched.run config heartbeat started done).Foreign
    · by_contra active
      exact harmless done now timedOut rest split point own active due
    · exact Watched.silent_of_own (owned done) due own
  · intro forward done now timedOut rest split _ silent
    have before : (started :: readings done).IsChain (· ≤ ·) := by
      rw [split, readings, List.filterMap_append, ← List.cons_append] at forward
      exact forward.left_of_append
    obtain ⟨clock, dated⟩ : ∃ clock, (Watched.run config heartbeat started done).Dated clock :=
      Watched.dated_run (Watched.dated_initial heartbeat started) (le_refl started) before
    intro index current
    have sign := silent index current
    rw [Watched.lastSign] at sign
    cases newest : (Watched.run config heartbeat started done).stored index with
    | none => rwa [newest] at sign
    | some stored =>
      rw [newest, Option.getD_some] at sign
      have order := dated.stored index stored newest
      exact lt_of_lt_of_le sign (sub_le_sub_left order now)

/-- An earlier run left its heartbeat. The first check comes before the first
cycle of the worker, and restarts it at once. -/
theorem inherited_heartbeat_restarts_worker :
    let turns := List.replicate 3 (Turn.main false false) ++ List.replicate 2 (.watchdog 1000 false)
    let checked := Watched.run {} (some 0) 1000 (turns.take 4)
    checked.process.RestartDue 1000 ∧ checked.process.current = some 0 ∧
      checked.startedAt 0 = 1000 ∧ checked.stored 0 = none ∧
      ¬ EveryCheck {} (some 0) 1000 turns fun watched now =>
        watched.process.RestartDue now → watched.Silent now := by
  intro turns checked
  have due : checked.process.RestartDue 1000 := by decide +kernel
  refine ⟨due, by decide +kernel, by decide +kernel, by decide +kernel, fun justified => ?_⟩
  have silent := justified (turns.take 4) 1000 false [] rfl (by decide +kernel) due 0
    (by decide +kernel)
  exact absurd silent (by decide +kernel)

end Threads

end PcDiagnosticAgent
