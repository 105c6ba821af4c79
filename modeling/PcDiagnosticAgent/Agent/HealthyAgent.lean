import PcDiagnosticAgent.Agent.InheritedHeartbeat

/-!
# A healthy agent is left alone

The watchdog calls a heartbeat stale after 90 seconds, and a healthy loop stores
one at every interval. In between lie the pace of the loop, which looks at the
clock only now and then, and the delay of a check behind the loop. As long as the
interval and twice that pace stay within the 90 seconds, a worker whose cycles
succeed is not restarted for a heartbeat of its own, however the threads take turns,
wherever the loop is when the check comes, and also on a clock that is set back.

Before the worker has stored its first heartbeat a check reads the one that an
earlier run left, and a stale one has the new worker restarted. So the watchdog
leaves a healthy worker alone exactly when no such check meets a stale heartbeat
(`healthy_never_restarted`).
-/

set_option autoImplicit false

namespace PcDiagnosticAgent

namespace Threads

/-- How far the clock of a loop can be ahead of its last cycle. -/
def Worker.Recent (config : Config) (pace : ℚ) (worker : Worker) : Prop :=
  match worker.point with
  | .high | .inHigh =>
    worker.now - worker.lastHigh < config.collectionIntervalSeconds + pace
  | _ => worker.now - worker.lastHigh < config.collectionIntervalSeconds

/-- What makes an agent healthy: once its worker has stored a heartbeat, the loop reads
the clock again within the pace, and a check comes within the pace of the last
reading; the cycles succeed. -/
def Lively (pace : ℚ) (watched : Watched) : Turn → Prop
  | .worker index now succeeds => ∀ worker ∈ watched.process.workers[index]?,
      (worker.point = .test → watched.process.stopFlag = false → watched.writer ≠ none →
        now - worker.now ≤ pace) ∧
      (worker.point = .inHigh → succeeds = true)
  | .watchdog now _ => watched.process.watchdog = .check → watched.writer ≠ none →
      ∀ worker ∈ watched.process.workers, now - worker.now ≤ pace
  | .main _ _ => True

instance (pace : ℚ) (watched : Watched) (turn : Turn) : Decidable (Lively pace watched turn) :=
  match turn with
  | .worker .. => by
    dsimp only [Lively]
    infer_instance
  | .watchdog .. => by
    dsimp only [Lively]
    infer_instance
  | .main .. => isTrue trivial

/-- A check does not ask for a restart because of the heartbeat that an earlier run
left. -/
def Spared (watched : Watched) : Turn → Prop
  | .watchdog now _ => watched.process.watchdog = .check → watched.writer = none →
      ¬ watched.process.RestartDue now
  | _ => True

instance (watched : Watched) (turn : Turn) : Decidable (Spared watched turn) :=
  match turn with
  | .worker .. => isTrue trivial
  | .watchdog .. => by
    dsimp only [Spared]
    infer_instance
  | .main .. => isTrue trivial

/-! ## One loop -/

namespace Worker

variable {config : Config} {pace : ℚ} {worker : Worker}

theorem Recent.le (recent : worker.Recent config pace) (nonneg : 0 ≤ pace) :
    worker.now - worker.lastHigh < config.collectionIntervalSeconds + pace := by
  unfold Recent at recent
  split at recent
  · exact recent
  · exact recent
  · linarith

/-- A cycle that ends moves its mark to the clock of the iteration. -/
theorem recent_next_of_inHigh (point : worker.point = .inHigh)
    (positive : 0 < config.collectionIntervalSeconds) (stopFlag : Bool) (now : Epoch) :
    (worker.next config stopFlag now).Recent config pace := by
  have interval : (0 : ℚ) < config.collectionIntervalSeconds := by exact_mod_cast positive
  simpa [next, point, Recent] using interval

/-- Every turn of a loop keeps it recent. -/
theorem recent_next (recent : worker.Recent config pace)
    (positive : 0 < config.collectionIntervalSeconds) {stopFlag : Bool} {now : Epoch}
    (again : worker.point = .test → stopFlag = false → now - worker.now ≤ pace) :
    (worker.next config stopFlag now).Recent config pace := by
  cases point : worker.point with
  | test =>
    simp only [Recent, point] at recent
    cases stopFlag with
    | true => simpa [next, point, Recent] using recent
    | false =>
      have step := again point rfl
      have sum : now - worker.lastHigh = (now - worker.now) + (worker.now - worker.lastHigh) :=
        (sub_add_sub_cancel ..).symm
      simp only [next, point, Recent, Bool.false_eq_true, if_false]
      linarith
  | high =>
    simp only [Recent, point] at recent
    by_cases due : worker.HighDue config
    · simpa [next, point, due, Recent] using recent
    · simpa [next, point, due, Recent] using not_le.mp due
  | inHigh => exact recent_next_of_inHigh point positive stopFlag now
  | low =>
    simp only [Recent, point] at recent
    by_cases due : worker.LowDue config <;> simpa [next, point, due, Recent] using recent
  | inLow => simpa [next, point, Recent] using recent
  | wait => simpa [next, point, Recent] using recent
  | exited => simpa [next, point, Recent] using recent

/-- Only the end of a cycle moves its mark, to the clock of the iteration. -/
theorem next_lastHigh (stopFlag : Bool) (now : Epoch) :
    (worker.next config stopFlag now).lastHigh =
      if worker.point = .inHigh then worker.now else worker.lastHigh := by
  cases point : worker.point with
  | test => cases stopFlag <;> simp [next, point]
  | high => simp [next, point]
  | inHigh => simp [next, point]
  | low => simp [next, point]
  | inLow => simp [next, point]
  | wait => simp [next, point]
  | exited => simp [next, point]

end Worker

/-! ## The invariant -/

/-- There is one worker at most, the watchdog has not restarted it, and a
heartbeat that it stored is the mark of its last cycle. -/
structure Healthy (config : Config) (pace : ℚ) (watched : Watched) : Prop where
  restarts : watched.process.restarts = 0
  watching : watched.process.watchdog = .notStarted ∨ watched.process.watchdog = .test ∨
    watched.process.watchdog = .check ∨ watched.process.watchdog = .wait ∨
    watched.process.watchdog = .exited
  unstarted : watched.process.main = .clear ∨ watched.process.main = .spawn →
    watched.process.workers = []
  single : watched.process.workers.length ≤ 1
  beating : watched.process.databaseOpen = true → watched.writer ≠ none →
    ∃ worker, watched.process.workers = [worker] ∧
      watched.process.heartbeat = some worker.lastHigh ∧ worker.Recent config pace

/-- The only item of a list. -/
theorem eq_singleton_of_getElem? {Item : Type} {items : List Item} {index : ℕ} {item : Item}
    (single : items.length ≤ 1) (found : items[index]? = some item) :
    items = [item] ∧ index = 0 := by
  cases items with
  | nil => simp at found
  | cons first rest =>
    obtain rfl : rest = [] := by simpa using single
    cases index with
    | zero => simpa using found
    | succ index => simp at found

namespace Healthy

variable {config : ValidConfig} {pace : ℚ} {started : Epoch} {watched : Watched}
  (healthy : Healthy config.toConfig pace watched)

theorem initial (config : Config) (pace : ℚ) (heartbeat : Option Epoch) :
    Healthy config pace (Watched.initial heartbeat) where
  restarts := rfl
  watching := .inl rfl
  unstarted := fun _ => rfl
  single := by simp [Watched.initial, Process.initial]
  beating := fun _ written => absurd rfl written

include healthy

/-- A check of a healthy agent restarts nothing. -/
theorem not_due (nonneg : 0 ≤ pace)
    (slack : (config.collectionIntervalSeconds : ℚ) + 2 * pace ≤ staleAfter) {now : Epoch}
    {timedOut : Bool} (lively : Lively pace watched (.watchdog now timedOut))
    (spared : Spared watched (.watchdog now timedOut))
    (check : watched.process.watchdog = .check) : ¬ watched.process.RestartDue now := by
  by_cases written : watched.writer = Option.none
  · exact spared check written
  · rintro ⟨isOpen, ⟨heartbeat, stored, stale⟩, -⟩
    obtain ⟨worker, single, mark, recent⟩ := healthy.beating isOpen written
    have soon := lively check written worker (by simp [single])
    have age := recent.le nonneg
    have same : worker.lastHigh = heartbeat := Option.mem_unique mark stored
    have sum : now - heartbeat = (now - worker.now) + (worker.now - worker.lastHigh) := by
      rw [sub_add_sub_cancel, same]
    linarith

theorem stepWorker {index : ℕ} {now : Epoch} {succeeds : Bool}
    (lively : Lively pace watched (.worker index now succeeds)) :
    Healthy config.toConfig pace
      (watched.step config.toConfig started (.worker index now succeeds)) := by
  cases turn : watched.process.workers[index]? with
  | none => simpa [Watched.step, Watched.note, Process.step, Process.stepWorker, turn] using healthy
  | some worker =>
    obtain ⟨alone, rfl⟩ := eq_singleton_of_getElem? healthy.single turn
    obtain ⟨again, succeeded⟩ := lively worker turn
    have unstarted : ∀ next : Worker, watched.process.main = .clear ∨
        watched.process.main = .spawn → watched.process.workers.set 0 next = [] := by
      intro next early
      simp [healthy.unstarted early]
    have single : ∀ next : Worker, (watched.process.workers.set 0 next).length ≤ 1 :=
      fun next => (List.length_set ..).trans_le healthy.single
    simp only [Watched.step, Watched.note, Process.step, Process.stepWorker, turn]
    by_cases stores : worker.point = .inHigh ∧ succeeds ∧ watched.process.databaseOpen
    · simp only [if_pos stores]
      refine ⟨healthy.restarts, healthy.watching, unstarted _, single _, fun _ _ => ?_⟩
      refine ⟨worker.next config.toConfig watched.process.stopFlag now, by simp [alone], ?_,
        Worker.recent_next_of_inHigh stores.1 config.interval_pos ..⟩
      rw [Worker.next_lastHigh, if_pos stores.1]
    · simp only [if_neg stores]
      refine ⟨healthy.restarts, healthy.watching, unstarted _, single _, fun isOpen written => ?_⟩
      obtain ⟨other, same, mark, recent⟩ := healthy.beating isOpen written
      obtain rfl : worker = other := List.head_eq_of_cons_eq (alone.symm.trans same)
      refine ⟨worker.next config.toConfig watched.process.stopFlag now, by simp [alone], ?_,
        Worker.recent_next recent config.interval_pos fun point flag => again point flag written⟩
      rw [Worker.next_lastHigh, if_neg fun point => stores ⟨point, succeeded point, isOpen⟩]
      exact mark

theorem stepWatchdog (nonneg : 0 ≤ pace)
    (slack : (config.collectionIntervalSeconds : ℚ) + 2 * pace ≤ staleAfter) {now : Epoch}
    {timedOut : Bool} (lively : Lively pace watched (.watchdog now timedOut))
    (spared : Spared watched (.watchdog now timedOut)) :
    Healthy config.toConfig pace
      (watched.step config.toConfig started (.watchdog now timedOut)) := by
  have moved : ∀ watchdog : WatchdogPoint, watchdog = .notStarted ∨ watchdog = .test ∨
      watchdog = .check ∨ watchdog = .wait ∨ watchdog = .exited →
      Healthy config.toConfig pace { watched with process := { watched.process with watchdog } } :=
    fun watchdog watching => { healthy with watching }
  have watching := healthy.watching
  rcases watching with point | point | point | point | point
  all_goals simp only [Watched.step, Watched.note, Process.step, Process.stepWatchdog, point]
  · exact healthy
  · exact moved _ (by split <;> simp)
  · rw [if_neg (healthy.not_due nonneg slack lively spared point)]
    exact moved .wait (by simp)
  · exact moved .test (by simp)
  · exact healthy

/-- `run` goes on with its worker and its heartbeat. -/
theorem of_main {later : Process} (workers : later.workers = watched.process.workers)
    (heartbeat : later.heartbeat = watched.process.heartbeat)
    (restarts : later.restarts = watched.process.restarts)
    (watchdog : later.watchdog = watched.process.watchdog ∨ later.watchdog = .test)
    (isOpen : later.databaseOpen = true → watched.process.databaseOpen = true)
    (unstarted : later.main = .clear ∨ later.main = .spawn → watched.process.workers = []) :
    Healthy config.toConfig pace { watched with process := later } where
  restarts := restarts.trans healthy.restarts
  watching := by
    rcases watchdog with same | test
    · rw [same]
      exact healthy.watching
    · exact .inr (.inl test)
  unstarted := fun early => workers.trans (unstarted early)
  single := by
    rw [workers]
    exact healthy.single
  beating := by
    rw [workers, heartbeat]
    exact fun stillOpen => healthy.beating (isOpen stillOpen)

theorem stepMain (stopRequested timedOut : Bool) :
    Healthy config.toConfig pace
      (watched.step config.toConfig started (.main stopRequested timedOut)) := by
  cases point : watched.process.main with
  | clear =>
    simp only [Watched.step, Watched.note, Process.step, Process.stepMain, point]
    exact healthy.of_main rfl rfl rfl (.inl rfl) id fun _ => healthy.unstarted (.inl point)
  | spawn =>
    have empty := healthy.unstarted (.inr point)
    simp only [Watched.step, Watched.note, Process.step, Process.stepMain, point, if_true]
    refine ⟨healthy.restarts, healthy.watching, by simp, ?_, fun isOpen written => ?_⟩
    · simp [Process.spawnWorker, empty]
    · obtain ⟨worker, alone, -⟩ := healthy.beating isOpen written
      simp [empty] at alone
  | startWatchdog =>
    simp only [Watched.step, Watched.note, Process.step, Process.stepMain, point]
    exact healthy.of_main rfl rfl rfl (.inr rfl) id (by simp)
  | running =>
    simp only [Watched.step, Watched.note, Process.step, Process.stepMain, point]
    refine healthy.of_main rfl rfl rfl (.inl rfl) id ?_
    cases stopRequested <;> simp
  | setFlag =>
    simp only [Watched.step, Watched.note, Process.step, Process.stepMain, point]
    exact healthy.of_main rfl rfl rfl (.inl rfl) id (by simp)
  | stopWatchdog =>
    simp only [Watched.step, Watched.note, Process.step, Process.stepMain, point]
    exact healthy.of_main rfl rfl rfl (.inl rfl) id (by simp)
  | joinWatchdog =>
    simp only [Watched.step, Watched.note, Process.step, Process.stepMain, point]
    split
    · exact healthy.of_main rfl rfl rfl (.inl rfl) id (by simp)
    · exact healthy
  | joinWorker =>
    simp only [Watched.step, Watched.note, Process.step, Process.stepMain, point]
    split
    · exact healthy
    · exact healthy.of_main rfl rfl rfl (.inl rfl) id (by simp)
  | close =>
    simp only [Watched.step, Watched.note, Process.step, Process.stepMain, point]
    exact healthy.of_main rfl rfl rfl (.inl rfl) (by simp) (by simp)
  | returned =>
    simp only [Watched.step, Watched.note, Process.step, Process.stepMain, point]
    exact healthy

theorem step (nonneg : 0 ≤ pace)
    (slack : (config.collectionIntervalSeconds : ℚ) + 2 * pace ≤ staleAfter) {turn : Turn}
    (lively : Lively pace watched turn) (spared : Spared watched turn) :
    Healthy config.toConfig pace (watched.step config.toConfig started turn) := by
  cases turn with
  | worker index now succeeds => exact healthy.stepWorker lively
  | watchdog now timedOut => exact healthy.stepWatchdog nonneg slack lively spared
  | main stopRequested timedOut => exact healthy.stepMain stopRequested timedOut

end Healthy

/-- A check that asks for a restart counts it. -/
theorem restarts_of_due (config : Config) (started : Epoch) {watched : Watched} {now : Epoch}
    {timedOut : Bool} (check : watched.process.watchdog = .check)
    (due : watched.process.RestartDue now) :
    (watched.step config started (.watchdog now timedOut)).process.restarts =
      watched.process.restarts + 1 := by
  simp only [Watched.step, Watched.note, Process.step, Process.stepWatchdog, check, if_pos due]

section Runs

variable (config : ValidConfig) (pace : ℚ) (nonneg : 0 ≤ pace)
  (slack : (config.collectionIntervalSeconds : ℚ) + 2 * pace ≤ staleAfter)
  (heartbeat : Option Epoch) (started : Epoch)

include nonneg slack

theorem healthy_run {turns : List Turn}
    (lively : Runs.Guarded (Watched.step config.toConfig started) (Lively pace)
      (Watched.initial heartbeat) turns)
    (spared : Runs.Guarded (Watched.step config.toConfig started) Spared
      (Watched.initial heartbeat) turns) :
    Healthy config.toConfig pace (Watched.run config.toConfig heartbeat started turns) :=
  (lively.and spared).invariant (Healthy config.toConfig pace)
    (fun _ _ allowed healthy => healthy.step nonneg slack allowed.1 allowed.2)
    (.initial config.toConfig pace heartbeat)

/-- **While the interval and twice the pace stay within the time after which a
heartbeat is stale, the watchdog never restarts the worker of a healthy agent, and
there is never a second one, exactly when no check before the first heartbeat of the
worker asks for a restart because of the one that an earlier run left.** -/
theorem healthy_never_restarted (turns : List Turn)
    (lively : Runs.Guarded (Watched.step config.toConfig started) (Lively pace)
      (Watched.initial heartbeat) turns) :
    (∀ done rest, turns = done ++ rest →
      (runTurns config.toConfig (.initial heartbeat) done).restarts = 0 ∧
        (runTurns config.toConfig (.initial heartbeat) done).workers.length ≤ 1) ↔
      Runs.Guarded (Watched.step config.toConfig started) Spared
        (Watched.initial heartbeat) turns := by
  constructor
  · intro alone
    refine Runs.guarded_iff.mpr fun done turn rest split => ?_
    cases turn with
    | worker index now succeeds => trivial
    | main stopRequested timedOut => trivial
    | watchdog now timedOut =>
      intro check _ due
      have after := (alone (done ++ [.watchdog now timedOut]) rest (by simp [split])).1
      rw [← Watched.run_process config.toConfig heartbeat started, Watched.run,
        Runs.run_append] at after
      have counted := @restarts_of_due config.toConfig started _ now timedOut check due
      exact absurd (counted.symm.trans after) (Nat.succ_ne_zero _)
  · intro spared done rest split
    rw [split, Runs.guarded_append] at lively spared
    have healthy := healthy_run config pace nonneg slack heartbeat started lively.1 spared.1
    rw [← Watched.run_process config.toConfig heartbeat started done]
    exact ⟨healthy.restarts, healthy.single⟩

end Runs

/-- A check of a fresh heartbeat from an earlier run, a first cycle, a check 15 seconds
later, and the next iteration. -/
theorem healthy_never_restarted_first_check :
    let turns := List.replicate 3 (Turn.main false false) ++
      List.replicate 3 (.watchdog 1000 false) ++ List.replicate 6 (.worker 0 1000 true) ++
      List.replicate 3 (.watchdog 1015 false) ++ List.replicate 3 (.worker 0 1015 true)
    (runTurns ValidConfig.default.toConfig (.initial (some 950)) turns).restarts = 0 ∧
      (runTurns ValidConfig.default.toConfig (.initial (some 950)) turns).workers.length ≤ 1 := by
  intro turns
  have alone := healthy_never_restarted .default 15 (by norm_num) (by decide +kernel) (some 950)
    1000 turns (by decide +kernel)
  exact alone.mpr (by decide +kernel) turns [] (List.append_nil _).symm

end Threads

end PcDiagnosticAgent
