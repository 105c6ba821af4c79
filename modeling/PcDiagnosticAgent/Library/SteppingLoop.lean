import Mathlib.Algebra.Order.Floor.Semiring
import Mathlib.Order.Bounds.Basic
import Mathlib.Tactic.FieldSimp
import Mathlib.Tactic.Linarith
import Mathlib.Tactic.Ring

/-!
# A loop that steps to a bound

`collect step item now stop` is the loop that takes an item at every time from
`now` on, a step apart, as long as the time is at most `stop`. The number of
rounds that are left bounds it.

Its times are the multiples of the step above the start that do not exceed the
bound (`mem_times_iff`). The greatest of them is the start plus as many steps as
fit (`isGreatest_times`), which is the bound itself only when the distance is a
multiple of the step.
-/

set_option autoImplicit false

namespace SteppingLoop

universe u v

section Rounds

variable {K : Type u} [Field K] [LinearOrder K] [IsStrictOrderedRing K] [FloorSemiring K]

/-- How many steps fit between the two times. -/
def rounds (step : {step : K // 0 < step}) (now stop : K) : ℕ := ⌊(stop - now) / step⌋₊

/-- A round that takes place is one of those that are left. -/
theorem rounds_add (step : {step : K // 0 < step}) {now stop : K} (more : now + step ≤ stop) :
    rounds step now stop = rounds step (now + step) stop + 1 := by
  have nonneg : 0 ≤ (stop - (now + step)) / step :=
    div_nonneg (sub_nonneg.mpr more) step.2.le
  have shifted : (stop - now) / step = (stop - (now + step)) / step + 1 := by
    have positive := step.2.ne'
    field_simp
    ring
  rw [rounds, shifted, Nat.floor_add_one nonneg]
  rfl

end Rounds

section Loop

variable {K : Type u} {Item : Type v} [Field K] [LinearOrder K]

/-- `while now <= stop: append(item now); now += step`. -/
def collect [IsStrictOrderedRing K] [FloorSemiring K] (step : {step : K // 0 < step})
    (item : K → Item) (now stop : K) : List Item :=
  if now ≤ stop then item now :: collect step item (now + step) stop else []
termination_by if now ≤ stop then rounds step now stop + 1 else 0
decreasing_by
  rename_i more
  by_cases further : now + step ≤ stop
  · rw [if_pos further, if_pos more, rounds_add step further]
    exact Nat.lt_succ_self _
  · rw [if_neg further, if_pos more]
    exact Nat.succ_pos _

/-- The times of the loop. -/
def times [IsStrictOrderedRing K] [FloorSemiring K] (step : {step : K // 0 < step})
    (start stop : K) : List K :=
  collect step id start stop

variable [IsStrictOrderedRing K] [FloorSemiring K] {step : {step : K // 0 < step}}
  {start stop time : K}

theorem times_of_le (more : start ≤ stop) :
    times step start stop = start :: times step (start + step) stop := by
  unfold times
  rw [collect, if_pos more]
  rfl

theorem times_of_not_le (beyond : ¬ start ≤ stop) : times step start stop = [] := by
  unfold times
  rw [collect, if_neg beyond]

/-- The items are taken at the times. -/
theorem collect_eq_map (item : K → Item) :
    collect step item start stop = (times step start stop).map item := by
  fun_induction collect step item start stop with
  | case1 start more ih =>
    rw [times_of_le more, List.map_cons, ih]
  | case2 start beyond =>
    rw [times_of_not_le beyond, List.map_nil]

/-- **The times are the multiples of the step up to the bound.** -/
theorem mem_times_iff :
    time ∈ times step start stop ↔ ∃ round : ℕ, start + round * step = time ∧ time ≤ stop := by
  unfold times
  fun_induction collect step id start stop with
  | case1 start more ih =>
    rw [List.mem_cons, ih]
    constructor
    · rintro (rfl | ⟨round, same, within⟩)
      · exact ⟨0, by simp, more⟩
      · refine ⟨round + 1, ?_, within⟩
        rw [← same]
        push_cast
        ring
    · rintro ⟨round, same, within⟩
      cases round with
      | zero => exact .inl (by simpa using same.symm)
      | succ round =>
        refine .inr ⟨round, ?_, within⟩
        rw [← same]
        push_cast
        ring
  | case2 start beyond =>
    refine ⟨fun member => (List.not_mem_nil member).elim, ?_⟩
    rintro ⟨round, same, within⟩
    have later : 0 ≤ (round : K) * step := mul_nonneg (Nat.cast_nonneg round) step.2.le
    exact absurd (by linarith : start ≤ stop) beyond

/-- **The last time is as many steps after the start as fit.** -/
theorem isGreatest_times (some : start ≤ stop) :
    IsGreatest {time | time ∈ times step start stop}
      (start + rounds step start stop * step) := by
  have nonneg : 0 ≤ (stop - start) / step := div_nonneg (sub_nonneg.mpr some) step.2.le
  constructor
  · have fits : (rounds step start stop : K) ≤ (stop - start) / step := Nat.floor_le nonneg
    have product : (rounds step start stop : K) * step ≤ stop - start :=
      (le_div_iff₀ step.2).mp fits
    exact mem_times_iff.mpr ⟨_, rfl, by linarith⟩
  · intro time member
    obtain ⟨round, same, within⟩ := mem_times_iff.mp member
    have product : (round : K) * step ≤ stop - start := by linarith
    have fits : round ≤ rounds step start stop :=
      Nat.le_floor ((le_div_iff₀ step.2).mpr product)
    rw [← same]
    have order : (round : K) * step ≤ rounds step start stop * step :=
      mul_le_mul_of_nonneg_right (Nat.cast_le.mpr fits) step.2.le
    linarith

end Loop

end SteppingLoop
