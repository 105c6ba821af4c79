import PcDiagnosticAgent.Agent.Threads
import PcDiagnosticAgent.Storage.Schema
import PcDiagnosticAgent.PyValue
import Mathlib.Data.List.Chain

/-!
# The watchdog

`Watchdog._check`, `_record_failure` and the loop of `run` in
`watchdog/watchdog.py`, with everything that may fail: reading the heartbeat,
recording the failure and the restart itself. What a check meets comes with it.
The mark `calls` records the calls of `on_restart` and is never read.

The counter and the time of the last restart are set before `on_restart` is
called, so each of them says the same about the calls whether they raise or not.
That is the invariant `Counted`, and from it the calls stay within the limit and
keep their distance (`restarts_bounded`).
-/

set_option autoImplicit false

namespace PcDiagnosticAgent

/-- A call of `on_restart`: the clock and the heartbeat of the check it was made
in. -/
structure RestartCall where
  now : Epoch
  heartbeat : Epoch
  raised : Bool
deriving DecidableEq, Repr

structure Watchdog where
  staleAfter : ℚ := 90
  maxRestarts : ℕ := 5
  backoffSeconds : ℚ := 60
  restarts : ℕ := 0
  lastRestart : Epoch := 0
  staleDetected : Bool := false
  recorded : List (String × StateValue) := []
  calls : List RestartCall := []

/-- What a check meets: the answer of `get_heartbeat`, the clock, which of the
two writes of `_record_failure` raise, and whether `on_restart` does. -/
structure Check where
  heartbeat : Except PyError (Option Epoch)
  now : Epoch
  countRefused : Bool := false
  timeRefused : Bool := false
  restartRaises : Bool := false

namespace Watchdog

/-- A watchdog as the constructor leaves it. -/
def started (staleAfter : ℚ) (maxRestarts : ℕ) (backoffSeconds : ℚ) : Watchdog :=
  { staleAfter, maxRestarts, backoffSeconds }

/-- `_record_failure`; the first write that raises ends it. -/
def recordFailure (watchdog : Watchdog) (meets : Check) : Watchdog :=
  if meets.countRefused then watchdog
  else
    let count := [("watchdog_failures", StateValue.int (watchdog.restarts + 1))]
    let time := if meets.timeRefused then [] else [("watchdog_last_failure", .float meets.now)]
    { watchdog with recorded := watchdog.recorded ++ count ++ time }

/-- `_check`. -/
def check (watchdog : Watchdog) (meets : Check) : Except PyError Watchdog := do
  match ← meets.heartbeat with
  | none => return watchdog
  | some heartbeat =>
    if watchdog.staleAfter < meets.now - heartbeat then
      let watchdog := { watchdog with staleDetected := true }.recordFailure meets
      if watchdog.restarts < watchdog.maxRestarts ∧
          watchdog.backoffSeconds ≤ meets.now - watchdog.lastRestart then
        return { watchdog with
          restarts := watchdog.restarts + 1
          lastRestart := meets.now
          calls := watchdog.calls ++ [⟨meets.now, heartbeat, meets.restartRaises⟩] }
      else return watchdog
    else return watchdog

/-- An iteration of `run`, whose handler swallows what a check raises. -/
def step (watchdog : Watchdog) (meets : Check) : Watchdog :=
  match watchdog.check meets with
  | .ok next => next
  | .error _ => watchdog

def run (watchdog : Watchdog) (checks : List Check) : Watchdog := Runs.run step watchdog checks

/-! ## One check -/

/-- The check asks for a restart. -/
def Due (watchdog : Watchdog) (now heartbeat : Epoch) : Prop :=
  watchdog.staleAfter < now - heartbeat ∧ watchdog.restarts < watchdog.maxRestarts ∧
    watchdog.backoffSeconds ≤ now - watchdog.lastRestart

instance (watchdog : Watchdog) (now heartbeat : Epoch) : Decidable (watchdog.Due now heartbeat) :=
  inferInstanceAs (Decidable (_ ∧ _))

/-- The call that a check makes. -/
def called (watchdog : Watchdog) (meets : Check) : Option RestartCall :=
  match meets.heartbeat with
  | .ok (some heartbeat) =>
    if watchdog.Due meets.now heartbeat then some ⟨meets.now, heartbeat, meets.restartRaises⟩
    else none
  | _ => none

theorem called_eq_some_iff {watchdog : Watchdog} {meets : Check} {call : RestartCall} :
    watchdog.called meets = some call ↔
      meets.heartbeat = .ok (some call.heartbeat) ∧ watchdog.Due meets.now call.heartbeat ∧
        call = ⟨meets.now, call.heartbeat, meets.restartRaises⟩ := by
  unfold called
  split
  · rename_i heartbeat read
    rw [read]
    constructor
    · intro found
      split at found
      · rename_i due
        cases found
        exact ⟨rfl, due, rfl⟩
      · cases found
    · rintro ⟨same, due, whole⟩
      cases same
      rw [if_pos due, whole]
  · rename_i unread
    refine iff_of_false nofun fun found => ?_
    exact unread _ found.1

/-- A check without its call, as far as the calls are concerned. -/
theorem recordFailure_eq (watchdog : Watchdog) (meets : Check) :
    ∃ recorded, watchdog.recordFailure meets = { watchdog with recorded } := by
  unfold recordFailure
  split
  · exact ⟨_, rfl⟩
  · exact ⟨_, rfl⟩

/-- **What a check can do**: call `on_restart` and count it, or neither. -/
theorem step_cases (watchdog : Watchdog) (meets : Check) :
    (∃ call, watchdog.called meets = some call ∧ ∃ staleDetected recorded,
      watchdog.step meets = { watchdog with
        restarts := watchdog.restarts + 1
        lastRestart := meets.now
        calls := watchdog.calls ++ [call]
        staleDetected
        recorded }) ∨
    (watchdog.called meets = none ∧ ∃ staleDetected recorded,
      watchdog.step meets = { watchdog with staleDetected, recorded }) := by
  unfold step check called
  cases meets.heartbeat with
  | error error => exact .inr ⟨rfl, _, _, rfl⟩
  | ok read =>
    cases read with
    | none => exact .inr ⟨rfl, _, _, rfl⟩
    | some heartbeat =>
      obtain ⟨recorded, same⟩ :=
        recordFailure_eq { watchdog with staleDetected := true } meets
      simp only [ok_bind, same]
      by_cases stale : watchdog.staleAfter < meets.now - heartbeat
      · rw [if_pos stale]
        by_cases room : watchdog.restarts < watchdog.maxRestarts ∧
            watchdog.backoffSeconds ≤ meets.now - watchdog.lastRestart
        · rw [if_pos room, if_pos ⟨stale, room⟩]
          exact .inl ⟨_, rfl, true, recorded, rfl⟩
        · rw [if_neg room, if_neg fun due => room due.2]
          exact .inr ⟨rfl, true, recorded, rfl⟩
      · rw [if_neg stale, if_neg fun due => stale due.1]
        exact .inr ⟨rfl, _, _, rfl⟩

/-! ## The invariant -/

/-- Every call is counted, was due, and came after the backoff. -/
structure Counted (settings : Watchdog) (checks : List Check) (watchdog : Watchdog) : Prop where
  staleAfter : watchdog.staleAfter = settings.staleAfter
  maxRestarts : watchdog.maxRestarts = settings.maxRestarts
  backoffSeconds : watchdog.backoffSeconds = settings.backoffSeconds
  counted : watchdog.calls.length = watchdog.restarts
  limited : watchdog.restarts ≤ watchdog.maxRestarts
  latest : ∀ call ∈ watchdog.calls.getLast?, call.now = watchdog.lastRestart
  stale : ∀ call ∈ watchdog.calls, ∃ meets ∈ checks, meets.now = call.now ∧
    meets.heartbeat = .ok (some call.heartbeat) ∧
    watchdog.staleAfter < call.now - call.heartbeat
  spaced : watchdog.calls.IsChain fun earlier later =>
    watchdog.backoffSeconds ≤ later.now - earlier.now

namespace Counted

theorem started (staleAfter : ℚ) (maxRestarts : ℕ) (backoffSeconds : ℚ) (checks : List Check) :
    Counted (.started staleAfter maxRestarts backoffSeconds) checks
      (.started staleAfter maxRestarts backoffSeconds) where
  staleAfter := rfl
  maxRestarts := rfl
  backoffSeconds := rfl
  counted := rfl
  limited := Nat.zero_le _
  latest := by simp [Watchdog.started]
  stale := by simp [Watchdog.started]
  spaced := .nil

theorem step {settings watchdog : Watchdog} {checks : List Check} {meets : Check}
    (one : meets ∈ checks) (counted : Counted settings checks watchdog) :
    Counted settings checks (watchdog.step meets) := by
  rcases watchdog.step_cases meets with ⟨call, made, _, _, same⟩ | ⟨-, _, _, same⟩
  · obtain ⟨read, ⟨stale, room, rested⟩, whole⟩ := called_eq_some_iff.mp made
    have now : call.now = meets.now := congrArg RestartCall.now whole
    rw [same]
    refine ⟨counted.staleAfter, counted.maxRestarts, counted.backoffSeconds, ?_, room, ?_, ?_, ?_⟩
    · simp [counted.counted]
    · simp [now]
    · intro other member
      rcases List.mem_append.mp member with old | new
      · exact counted.stale other old
      · rw [List.mem_singleton.mp new]
        exact ⟨meets, one, now.symm, read, now.symm ▸ stale⟩
    · refine List.isChain_append.mpr
        ⟨counted.spaced, .singleton _, fun last isLast next isNext => ?_⟩
      rw [List.head?_cons, Option.mem_some_iff] at isNext
      rw [← isNext, counted.latest last isLast, now]
      exact rested
  · rw [same]
    exact ⟨counted.staleAfter, counted.maxRestarts, counted.backoffSeconds, counted.counted,
      counted.limited, counted.latest, counted.stale, counted.spaced⟩

theorem run {settings watchdog : Watchdog} {checks : List Check}
    (counted : Counted settings checks watchdog) :
    Counted settings checks (watchdog.run checks) :=
  Runs.run_invariant (Counted settings checks)
    (fun watchdog meets one kept => @step settings watchdog checks meets one kept) counted
    fun _ member => member

end Counted

/-! ## Failures -/

/-- What a check reads. -/
def reading (meets : Check) : Except PyError (Option Epoch) × Epoch := (meets.heartbeat, meets.now)

/-- When a call was made and why. -/
def moment (call : RestartCall) : Epoch × Epoch := (call.now, call.heartbeat)

/-- The watchdogs differ in what failed only. -/
structure SameCalls (first second : Watchdog) : Prop where
  staleAfter : first.staleAfter = second.staleAfter
  maxRestarts : first.maxRestarts = second.maxRestarts
  backoffSeconds : first.backoffSeconds = second.backoffSeconds
  restarts : first.restarts = second.restarts
  lastRestart : first.lastRestart = second.lastRestart
  moments : first.calls.map moment = second.calls.map moment

theorem SameCalls.called {first second : Watchdog} (same : SameCalls first second)
    {meets other : Check} (read : reading meets = reading other) :
    (first.called meets).map moment = (second.called other).map moment := by
  obtain ⟨heartbeat, now⟩ := Prod.mk.inj read
  have due : ∀ age, first.Due meets.now age ↔ second.Due other.now age := by
    intro age
    simp only [Due, same.staleAfter, same.maxRestarts, same.backoffSeconds, same.restarts,
      same.lastRestart, now]
  unfold Watchdog.called
  rw [heartbeat]
  split
  · simp only [due]
    split
    · rw [Option.map_some, Option.map_some, moment, moment, now]
    · rfl
  · rfl

theorem SameCalls.step {first second : Watchdog} (same : SameCalls first second)
    {meets other : Check} (read : reading meets = reading other) :
    SameCalls (first.step meets) (second.step other) := by
  have agree := same.called read
  have now : meets.now = other.now := congrArg Prod.snd read
  rcases first.step_cases meets with ⟨call, made, _, _, next⟩ | ⟨made, _, _, next⟩ <;>
    rcases second.step_cases other with ⟨call', made', _, _, next'⟩ | ⟨made', _, _, next'⟩ <;>
    rw [made, made'] at agree
  · have moments : moment call = moment call' := Option.some.inj agree
    rw [next, next']
    exact ⟨same.staleAfter, same.maxRestarts, same.backoffSeconds,
      congrArg (· + 1) same.restarts, now, by simp [same.moments, moments]⟩
  · cases agree
  · cases agree
  · rw [next, next']
    exact ⟨same.staleAfter, same.maxRestarts, same.backoffSeconds, same.restarts,
      same.lastRestart, same.moments⟩

theorem SameCalls.run {first second : Watchdog} (same : SameCalls first second)
    {checks others : List Check} (read : checks.map reading = others.map reading) :
    SameCalls (first.run checks) (second.run others) := by
  induction checks generalizing first second others with
  | nil =>
    rw [List.map_eq_nil_iff.mp read.symm]
    exact same
  | cons meets checks ih =>
    obtain ⟨other, rest, rfl, one, all⟩ := List.map_eq_cons_iff.mp read.symm
    exact ih (same.step one.symm) all.symm

/-- **However the clock goes, whatever heartbeats are read and whatever fails,
the watchdog calls `on_restart` within its limit, only for a stale heartbeat and
only after its backoff, and it does so at the same readings whether the calls and
the records succeed or not.** -/
theorem restarts_bounded (staleAfter : ℚ) (maxRestarts : ℕ) (backoffSeconds : ℚ)
    (checks : List Check) :
    let ended := (started staleAfter maxRestarts backoffSeconds).run checks
    ended.calls.length ≤ maxRestarts ∧
      (∀ call ∈ ended.calls, ∃ meets ∈ checks, meets.now = call.now ∧
        meets.heartbeat = .ok (some call.heartbeat) ∧ staleAfter < call.now - call.heartbeat) ∧
      (ended.calls.IsChain fun earlier later => backoffSeconds ≤ later.now - earlier.now) ∧
      (ended.restarts = ended.calls.length ∧
        ∀ call ∈ ended.calls.getLast?, ended.lastRestart = call.now) ∧
      ∀ others, others.map reading = checks.map reading →
        ((started staleAfter maxRestarts backoffSeconds).run others).calls.map moment =
          ended.calls.map moment := by
  intro ended
  have kept : Counted (started staleAfter maxRestarts backoffSeconds) checks ended :=
    (Counted.started staleAfter maxRestarts backoffSeconds checks).run
  have limit : ended.maxRestarts = maxRestarts := kept.maxRestarts
  have stale : ended.staleAfter = staleAfter := kept.staleAfter
  have backoff : ended.backoffSeconds = backoffSeconds := kept.backoffSeconds
  refine ⟨?_, ?_, ?_, ⟨kept.counted.symm, fun call last => (kept.latest call last).symm⟩, ?_⟩
  · rw [kept.counted, ← limit]
    exact kept.limited
  · rw [← stale]
    exact kept.stale
  · rw [← backoff]
    exact kept.spaced
  · intro others same
    have alike : SameCalls (started staleAfter maxRestarts backoffSeconds)
        (started staleAfter maxRestarts backoffSeconds) := ⟨rfl, rfl, rfl, rfl, rfl, rfl⟩
    exact (alike.run same).moments

/-! ## The watchdog among the threads -/

/-- The watchdog of a process. -/
def ofProcess (process : Threads.Process) : Watchdog :=
  { staleAfter := Threads.staleAfter
    maxRestarts := Threads.maxRestarts
    backoffSeconds := Threads.backoffSeconds
    restarts := process.restarts
    lastRestart := process.lastRestart }

/-- A check in a process; a closed database cannot be read. -/
def checkOf (process : Threads.Process) (now : Epoch) : Check where
  heartbeat := if process.databaseOpen then .ok process.heartbeat else .error .other
  now := now

/-- The turn of the watchdog in a process begins a restart exactly when this
check calls `on_restart`. -/
theorem restartDue_iff_called (process : Threads.Process) (now : Epoch) :
    process.RestartDue now ↔
      ∃ call, (ofProcess process).called (checkOf process now) = some call := by
  simp only [called_eq_some_iff]
  constructor
  · rintro ⟨isOpen, ⟨heartbeat, stored, stale⟩, due⟩
    refine ⟨⟨now, heartbeat, false⟩, ?_, ⟨stale, due⟩, rfl⟩
    rw [checkOf, if_pos isOpen, stored]
  · rintro ⟨call, read, ⟨stale, due⟩, whole⟩
    have clock : call.now = now := congrArg RestartCall.now whole
    rw [checkOf] at read
    split at read
    · rename_i isOpen
      exact ⟨isOpen, ⟨call.heartbeat, Except.ok.inj read, clock ▸ stale⟩, clock ▸ due⟩
    · cases read

end Watchdog

end PcDiagnosticAgent
