import PcDiagnosticAgent.Agent.ClockSteps
import PcDiagnosticAgent.Library.RateLimit

/-!
# The cadence of the collectors

How often `Scheduler.loop` runs its two cycles. The loop looks at the clock about
once a second, later after a slow cycle. Each cycle is an action with a least
distance: due when its interval has passed since its mark, which moves to the
reading whether the cycle succeeds or raises.

So on a clock that goes forward by at most a pace from one iteration to the next,
both cycles come at their intervals, less than the pace late, and their number
over a span of time follows (`cycles_steady`). A cycle that fails takes its turn
like any other one.
-/

set_option autoImplicit false

namespace PcDiagnosticAgent

namespace Loop

open RateLimits

/-- The readings of the iterations that run the cycle with the given interval
and mark. -/
def cyclesOf (interval : ℚ) (mark : Marks → Epoch) (config : Config) :
    Marks → List Iteration → List Epoch
  | _, [] => []
  | marks, iteration :: iterations =>
    if interval ≤ iteration.now - mark marks then
      iteration.now :: cyclesOf interval mark config (iterate config marks iteration) iterations
    else cyclesOf interval mark config (iterate config marks iteration) iterations

/-- The readings at which the loop calls `collect_high`. -/
def highCycles (config : Config) (iterations : List Iteration) : List Epoch :=
  cyclesOf config.collectionIntervalSeconds Marks.lastHigh config {} iterations

/-- The readings at which the loop calls `collect_low`. -/
def lowCycles (config : Config) (iterations : List Iteration) : List Epoch :=
  cyclesOf config.lowFrequencyIntervalSeconds Marks.lastLow config {} iterations

/-- A cycle whose mark only it moves is an action with a least distance. -/
theorem cyclesOf_eq_taken {interval : ℚ} {mark : Marks → Epoch} {config : Config}
    (moves : ∀ marks iteration,
      mark (iterate config marks iteration) = advance interval (mark marks) iteration.now)
    (marks : Marks) (iterations : List Iteration) :
    cyclesOf interval mark config marks iterations =
      taken interval (mark marks) (iterations.map Iteration.now) := by
  induction iterations generalizing marks with
  | nil => rfl
  | cons iteration iterations ih =>
    have rest := ih (iterate config marks iteration)
    rw [moves, advance] at rest
    by_cases due : interval ≤ iteration.now - mark marks
    · rw [if_pos (show Due .. from due)] at rest
      rw [List.map_cons, taken_of_due due, cyclesOf, if_pos due, rest]
    · rw [if_neg (show ¬ Due .. from due)] at rest
      rw [List.map_cons, taken_of_not_due due, cyclesOf, if_neg due, rest]

theorem highCycles_eq (config : Config) (iterations : List Iteration) :
    highCycles config iterations =
      taken (config.collectionIntervalSeconds : ℚ) 0 (iterations.map Iteration.now) :=
  cyclesOf_eq_taken (fun _ _ => runCycle_eq ..) {} iterations

theorem lowCycles_eq (config : Config) (iterations : List Iteration) :
    lowCycles config iterations =
      taken (config.lowFrequencyIntervalSeconds : ℚ) 0 (iterations.map Iteration.now) :=
  cyclesOf_eq_taken (fun _ _ => runCycle_eq ..) {} iterations

/-- **With a clock that goes forward by at most a pace from one iteration to the
next, both cycles come at their intervals, less than the pace late, whatever
cycles fail.** -/
theorem cycles_steady (config : ValidConfig) (first : Iteration) (iterations : List Iteration)
    (pace : ℚ) (paced : Paced pace first.now (iterations.map Iteration.now))
    (high : (config.collectionIntervalSeconds : ℚ) ≤ first.now)
    (low : (config.lowFrequencyIntervalSeconds : ℚ) ≤ first.now) :
    let last := (iterations.map Iteration.now).getLastD first.now
    Steady (config.collectionIntervalSeconds : ℚ) pace first.now last
        (highCycles config.toConfig (first :: iterations)) ∧
      Steady (config.lowFrequencyIntervalSeconds : ℚ) pace first.now last
        (lowCycles config.toConfig (first :: iterations)) := by
  have highPositive : (0 : ℚ) < config.collectionIntervalSeconds := by
    exact_mod_cast config.interval_pos
  have lowPositive : (0 : ℚ) < config.lowFrequencyIntervalSeconds := by
    have bound := config.low_frequency_bound
    exact_mod_cast (show (0 : ℤ) < config.lowFrequencyIntervalSeconds by omega)
  rw [highCycles_eq, lowCycles_eq]
  exact ⟨steady_taken highPositive (by rwa [Due, sub_zero]) paced,
    steady_taken lowPositive (by rwa [Due, sub_zero]) paced⟩

/-- Four cycles of high frequency, the first of which fails, and three of low
frequency. -/
theorem cycles_steady_failing :
    let first : Iteration := { now := 1000000, high := .error .other }
    let iterations : List Iteration := [{ now := 1000030 }, { now := 1000330 }, { now := 1000630 }]
    (highCycles ValidConfig.default.toConfig (first :: iterations)).length = 4 ∧
      (lowCycles ValidConfig.default.toConfig (first :: iterations)).length = 3 ∧
      Steady (30 : ℚ) 300 1000000 1000630
        (highCycles ValidConfig.default.toConfig (first :: iterations)) ∧
      Steady (300 : ℚ) 300 1000000 1000630
        (lowCycles ValidConfig.default.toConfig (first :: iterations)) :=
  ⟨by decide +kernel, by decide +kernel,
    cycles_steady .default { now := 1000000, high := .error .other }
      [{ now := 1000030 }, { now := 1000330 }, { now := 1000630 }] 300
      (by simp [Paced]; norm_num) (by decide +kernel) (by decide +kernel)⟩

end Loop

end PcDiagnosticAgent
