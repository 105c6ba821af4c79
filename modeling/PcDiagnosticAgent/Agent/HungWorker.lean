import PcDiagnosticAgent.Agent.Watchdog
import PcDiagnosticAgent.Library.RateLimit

/-!
# Restarts of a worker that hangs

Which checks of the watchdog call `on_restart`. A restart is an action with a
least distance, the backoff, at the checks that find the heartbeat stale, and it
is allowed only so often. So the calls are determined by the readings of these
checks alone: they are made at the first ones that are far enough apart
(`attempts_eq`).

A worker that stays silent is found stale by every check. The checks come at a
pace, so the attempts follow each other until none is left
(`attempts_exhausted`).
-/

set_option autoImplicit false

namespace PcDiagnosticAgent

namespace Watchdog

open RateLimits

/-- The check finds a heartbeat that is stale. -/
def FindsStale (staleAfter : ℚ) (meets : Check) : Prop :=
  match meets.heartbeat with
  | .ok (some heartbeat) => staleAfter < meets.now - heartbeat
  | _ => False

instance (staleAfter : ℚ) (meets : Check) : Decidable (FindsStale staleAfter meets) := by
  unfold FindsStale
  split <;> infer_instance

/-- The readings of the checks that find the heartbeat stale. -/
def staleReadings (staleAfter : ℚ) (checks : List Check) : List Epoch :=
  (checks.filter fun meets => FindsStale staleAfter meets).map Check.now

theorem staleReadings_cons_of_stale {staleAfter : ℚ} {meets : Check} {checks : List Check}
    (stale : FindsStale staleAfter meets) :
    staleReadings staleAfter (meets :: checks) = meets.now :: staleReadings staleAfter checks := by
  rw [staleReadings, List.filter_cons_of_pos (by simpa using stale), List.map_cons, staleReadings]

theorem staleReadings_cons_of_not_stale {staleAfter : ℚ} {meets : Check} {checks : List Check}
    (fresh : ¬ FindsStale staleAfter meets) :
    staleReadings staleAfter (meets :: checks) = staleReadings staleAfter checks := by
  rw [staleReadings, List.filter_cons_of_neg (by simpa using fresh), staleReadings]

/-- A check makes a call when it finds the heartbeat stale, attempts are left and
the backoff has passed. -/
theorem called_isSome_iff (watchdog : Watchdog) (meets : Check) :
    (watchdog.called meets).isSome ↔ FindsStale watchdog.staleAfter meets ∧
      0 < watchdog.maxRestarts - watchdog.restarts ∧
        RateLimits.Due watchdog.backoffSeconds watchdog.lastRestart meets.now := by
  unfold called FindsStale
  cases meets.heartbeat with
  | error raised => exact iff_of_false (by simp) fun due => due.1
  | ok heartbeat =>
    cases heartbeat with
    | none => exact iff_of_false (by simp) fun due => due.1
    | some heartbeat =>
      simp only [Nat.sub_pos_iff_lt]
      by_cases due : watchdog.Due meets.now heartbeat
      · exact iff_of_true (by rw [if_pos due]; rfl) due
      · exact iff_of_false (by rw [if_neg due]; simp) due

/-- The readings of the calls so far. -/
def attempts (watchdog : Watchdog) : List Epoch := watchdog.calls.map RestartCall.now

theorem called_now {watchdog : Watchdog} {meets : Check} {call : RestartCall}
    (made : watchdog.called meets = some call) : call.now = meets.now :=
  congrArg RestartCall.now (called_eq_some_iff.mp made).2.2

/-- The calls of a run follow those before it. -/
theorem attempts_run (watchdog : Watchdog) (checks : List Check) :
    (watchdog.run checks).attempts = watchdog.attempts ++
      takenUpTo watchdog.backoffSeconds (watchdog.maxRestarts - watchdog.restarts)
        watchdog.lastRestart (staleReadings watchdog.staleAfter checks) := by
  induction checks generalizing watchdog with
  | nil => exact (List.append_nil _).symm
  | cons meets checks ih =>
    have after := ih (watchdog.step meets)
    have decided := watchdog.called_isSome_iff meets
    rw [run, Runs.run_cons]
    rcases watchdog.step_cases meets with ⟨call, made, _, _, next⟩ | ⟨made, _, _, next⟩
    · obtain ⟨stale, room, due⟩ := decided.mp (by rw [made]; rfl)
      rw [next] at after ⊢
      refine after.trans ?_
      rw [staleReadings_cons_of_stale stale, takenUpTo, if_pos ⟨room, due⟩, ← Nat.sub_sub]
      simp only [attempts, List.map_append, List.map_cons, List.map_nil, called_now made,
        List.append_assoc, List.singleton_append]
    · have refused := mt decided.mpr (by rw [made]; simp)
      rw [next] at after ⊢
      refine after.trans (congrArg (watchdog.attempts ++ ·) ?_)
      by_cases stale : FindsStale watchdog.staleAfter meets
      · rw [staleReadings_cons_of_stale stale, takenUpTo, if_neg fun due => refused ⟨stale, due⟩]
      · rw [staleReadings_cons_of_not_stale stale]

/-- **The watchdog calls `on_restart` at the first readings that are far enough
apart of the checks that find the heartbeat stale.** -/
theorem attempts_eq (staleAfter : ℚ) (maxRestarts : ℕ) (backoffSeconds : ℚ)
    (checks : List Check) :
    ((started staleAfter maxRestarts backoffSeconds).run checks).attempts =
      (taken backoffSeconds 0 (staleReadings staleAfter checks)).take maxRestarts := by
  rw [attempts_run, ← takenUpTo_eq]
  rfl

/-- **While every check finds the heartbeat stale, the attempts follow each other
at the backoff, less than the pace of the checks late, until none is left.** -/
theorem attempts_exhausted (staleAfter : ℚ) (maxRestarts : ℕ) (backoffSeconds : ℚ)
    (first : Check) (checks : List Check) (pace : ℚ) (backoff : 0 < backoffSeconds)
    (ready : backoffSeconds ≤ first.now)
    (stale : ∀ meets ∈ first :: checks, FindsStale staleAfter meets)
    (paced : Paced pace first.now (checks.map Check.now)) :
    let ended := (started staleAfter maxRestarts backoffSeconds).run (first :: checks)
    let last := (checks.map Check.now).getLastD first.now
    (0 < maxRestarts → ended.attempts.head? = some first.now) ∧
      (ended.attempts.IsChain fun earlier later => backoffSeconds ≤ later - earlier) ∧
      (ended.attempts.IsChain fun earlier later => later - earlier < backoffSeconds + pace) ∧
      (ended.attempts.length = maxRestarts ∨
        last - first.now <
          backoffSeconds + (ended.attempts.length - 1) • (backoffSeconds + pace)) := by
  intro ended last
  have readings : staleReadings staleAfter (first :: checks) =
      first.now :: checks.map Check.now := by
    have all := List.filter_eq_self.mpr fun meets member => decide_eq_true (stale meets member)
    rw [staleReadings, all, List.map_cons]
  have due : RateLimits.Due backoffSeconds 0 first.now := by rwa [RateLimits.Due, sub_zero]
  have steady := steady_taken backoff due paced
  have kept : ended.attempts =
      (taken backoffSeconds 0 (first.now :: checks.map Check.now)).take maxRestarts := by
    rw [← readings, ← takenUpTo_eq]
    exact attempts_run ..
  rw [kept]
  refine ⟨fun some => ?_, steady.spaced.take maxRestarts, steady.prompt.take maxRestarts, ?_⟩
  · rw [List.head?_take, if_neg (Nat.pos_iff_ne_zero.mp some)]
    exact steady.head
  · rw [List.length_take]
    rcases Nat.le_total maxRestarts
      (taken backoffSeconds 0 (first.now :: checks.map Check.now)).length with full | room
    · exact .inl (Nat.min_eq_left full)
    · rw [Nat.min_eq_right room]
      exact .inr steady.atLeast

/-- A heartbeat of time 0, found stale by every check. -/
def silentCheck (now : Epoch) : Check := { heartbeat := .ok (some 0), now }

/-- Four checks a minute apart: two attempts, and then none is left. -/
theorem attempts_exhausted_begins :
    let checks := [silentCheck 1060, silentCheck 1120, silentCheck 1180]
    let ended := (started 90 2 60).run (silentCheck 1000 :: checks)
    ended.attempts = [1000, 1060] ∧
      (0 < 2 → ended.attempts.head? = some 1000) ∧
      (ended.attempts.IsChain fun earlier later => 60 ≤ later - earlier) ∧
      (ended.attempts.IsChain fun earlier later => later - earlier < 60 + 60) ∧
      (ended.attempts.length = 2 ∨
        1180 - 1000 < 60 + (ended.attempts.length - 1) • ((60 : ℚ) + 60)) := by
  intro checks ended
  refine ⟨by decide +kernel, ?_⟩
  exact attempts_exhausted 90 2 60 (silentCheck 1000) checks 60 (by norm_num) (by decide +kernel)
    (by decide +kernel) (by simp [checks, Paced, silentCheck]; norm_num)

end Watchdog

end PcDiagnosticAgent
