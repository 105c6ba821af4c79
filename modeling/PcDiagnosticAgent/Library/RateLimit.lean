import Mathlib.Algebra.Order.Group.Basic
import Mathlib.Algebra.Order.Module.Defs
import Mathlib.Data.List.Chain
import Mathlib.Order.Basic

/-!
# Actions with a least distance

A loop reads a clock again and again and takes an action whenever an interval has
passed since a mark, which it then moves to the reading. The readings at which it
acts are `taken`.

They are at least the interval apart, whatever the clock does (`taken_spaced`), so
there are only so many of them in a span of time (`length_taken_le`). On a clock
that goes forward by at most a pace from one reading to the next they are less
than the interval and the pace apart (`taken_prompt`), so there are that many of
them at least (`lt_length_taken`).

A loop that stops acting after a number of actions takes the first ones of these
(`takenUpTo_eq`).
-/

set_option autoImplicit false

namespace RateLimits

universe u

variable {Time : Type u} [AddCommGroup Time] [LinearOrder Time]

/-- The interval has passed since the mark. -/
def Due (interval mark now : Time) : Prop := interval ≤ now - mark

instance (interval mark now : Time) : Decidable (Due interval mark now) :=
  inferInstanceAs (Decidable (_ ≤ _))

/-- The mark after a reading. -/
def advance (interval mark now : Time) : Time := if Due interval mark now then now else mark

/-- The readings at which the action is taken. -/
def taken (interval : Time) : Time → List Time → List Time
  | _, [] => []
  | mark, now :: readings =>
    if Due interval mark now then now :: taken interval now readings
    else taken interval mark readings

/-- The readings at which an action is taken that is allowed only so often. -/
def takenUpTo (interval : Time) : ℕ → Time → List Time → List Time
  | _, _, [] => []
  | limit, mark, now :: readings =>
    if 0 < limit ∧ Due interval mark now then
      now :: takenUpTo interval (limit - 1) now readings
    else takenUpTo interval limit mark readings

/-- From one reading to the next the clock goes forward by at most the pace. -/
def Paced (pace start : Time) (readings : List Time) : Prop :=
  (start :: readings).IsChain fun earlier later => earlier ≤ later ∧ later - earlier ≤ pace

variable {interval mark now pace start : Time} {readings : List Time}

@[simp] theorem taken_nil : taken interval mark [] = [] := rfl

theorem taken_of_due (due : Due interval mark now) :
    taken interval mark (now :: readings) = now :: taken interval now readings := if_pos due

theorem taken_of_not_due (notDue : ¬ Due interval mark now) :
    taken interval mark (now :: readings) = taken interval mark readings := if_neg notDue

/-- **Two actions are at least the interval apart, whatever the clock does.** -/
theorem taken_spaced (interval mark : Time) (readings : List Time) :
    (mark :: taken interval mark readings).IsChain fun earlier later =>
      interval ≤ later - earlier := by
  induction readings generalizing mark with
  | nil => exact .singleton mark
  | cons now readings ih =>
    by_cases due : Due interval mark now
    · rw [taken_of_due due]
      exact .cons_cons due (ih now)
    · rw [taken_of_not_due due]
      exact ih mark

theorem takenUpTo_zero (interval mark : Time) (readings : List Time) :
    takenUpTo interval 0 mark readings = [] := by
  induction readings with
  | nil => rfl
  | cons now readings ih => exact (if_neg fun allowed => absurd allowed.1 (by simp)).trans ih

/-- **A limit on the number of actions keeps the first ones.** -/
theorem takenUpTo_eq (interval : Time) (limit : ℕ) (mark : Time) (readings : List Time) :
    takenUpTo interval limit mark readings = (taken interval mark readings).take limit := by
  induction readings generalizing limit mark with
  | nil => simp [takenUpTo]
  | cons now readings ih =>
    cases limit with
    | zero => rw [takenUpTo_zero, List.take_zero]
    | succ limit =>
      by_cases due : Due interval mark now
      · rw [takenUpTo, if_pos ⟨Nat.succ_pos limit, due⟩, taken_of_due due, List.take_succ_cons,
          ih, Nat.add_sub_cancel]
      · rw [takenUpTo, if_neg fun allowed => due allowed.2, taken_of_not_due due, ih]

/-! ## The mark -/

/-- On a clock that goes forward the mark is never after the last reading. -/
theorem foldl_advance_le (past : mark ≤ start) (paced : Paced pace start readings) :
    readings.foldl (advance interval) mark ≤ readings.getLastD start := by
  induction readings generalizing mark start with
  | nil => exact past
  | cons now readings ih =>
    obtain ⟨⟨forward, -⟩, rest⟩ := List.isChain_cons_cons.mp paced
    rw [List.foldl_cons, List.getLastD_cons]
    refine ih ?_ rest
    unfold advance
    split
    · exact le_refl now
    · exact past.trans forward

/-! ## Counting -/

section Counting

variable [IsOrderedAddMonoid Time]

/-- **So many actions need so many intervals.** -/
theorem length_taken_le (interval mark : Time) (readings : List Time) :
    (taken interval mark readings).length • interval ≤
      readings.foldl (advance interval) mark - mark := by
  induction readings generalizing mark with
  | nil => simp
  | cons now readings ih =>
    by_cases due : Due interval mark now
    · rw [taken_of_due due, List.length_cons, succ_nsmul, List.foldl_cons, advance, if_pos due]
      calc (taken interval now readings).length • interval + interval
          ≤ (readings.foldl (advance interval) now - now) + (now - mark) :=
            add_le_add (ih now) due
        _ = readings.foldl (advance interval) now - mark := sub_add_sub_cancel ..
    · rw [taken_of_not_due due, List.foldl_cons, advance, if_neg due]
      exact ih mark

/-- **At a steady pace the next action is less than the interval and the pace
away.** -/
theorem taken_prompt (positive : 0 < interval) (fresh : start - mark < interval)
    (paced : Paced pace start readings) :
    (mark :: taken interval mark readings).IsChain fun earlier later =>
      later - earlier < interval + pace := by
  induction readings generalizing mark start with
  | nil => exact .singleton mark
  | cons now readings ih =>
    obtain ⟨⟨-, step⟩, rest⟩ := List.isChain_cons_cons.mp paced
    by_cases due : Due interval mark now
    · rw [taken_of_due due]
      refine .cons_cons ?_ (ih (by rwa [sub_self]) rest)
      calc now - mark = (start - mark) + (now - start) := by
            rw [add_comm, sub_add_sub_cancel]
        _ < interval + pace := add_lt_add_of_lt_of_le fresh step
    · rw [taken_of_not_due due]
      exact ih (not_le.mp due) rest

/-- **At a steady pace a span of time sees so many actions.** -/
theorem lt_length_taken (positive : 0 < interval) (fresh : start - mark < interval)
    (paced : Paced pace start readings) :
    readings.getLastD start - mark <
      interval + (taken interval mark readings).length • (interval + pace) := by
  induction readings generalizing mark start with
  | nil => simpa using fresh
  | cons now readings ih =>
    obtain ⟨⟨-, step⟩, rest⟩ := List.isChain_cons_cons.mp paced
    rw [List.getLastD_cons]
    by_cases due : Due interval mark now
    · rw [taken_of_due due, List.length_cons, succ_nsmul, ← add_assoc]
      have here : now - mark < interval + pace :=
        calc now - mark = (start - mark) + (now - start) := by
              rw [add_comm, sub_add_sub_cancel]
          _ < interval + pace := add_lt_add_of_lt_of_le fresh step
      calc readings.getLastD now - mark = (readings.getLastD now - now) + (now - mark) :=
            (sub_add_sub_cancel ..).symm
        _ < _ := add_lt_add (ih (by rwa [sub_self]) rest) here
    · rw [taken_of_not_due due]
      exact ih (not_le.mp due) rest

/-- Actions from the first one up to a moment: how far they are apart, and how
many there are. -/
structure Steady (interval pace first last : Time) (actions : List Time) : Prop where
  head : actions.head? = some first
  spaced : actions.IsChain fun earlier later => interval ≤ later - earlier
  prompt : actions.IsChain fun earlier later => later - earlier < interval + pace
  atMost : (actions.length - 1) • interval ≤ last - first
  atLeast : last - first < interval + (actions.length - 1) • (interval + pace)

/-- **From the first reading at which it is due, an action at a steady pace is
taken steadily.** -/
theorem steady_taken {first : Time} (positive : 0 < interval) (due : Due interval mark first)
    (paced : Paced pace first readings) :
    Steady interval pace first (readings.getLastD first)
      (taken interval mark (first :: readings)) := by
  have fresh : first - first < interval := by rwa [sub_self]
  rw [taken_of_due due]
  refine ⟨rfl, taken_spaced interval first readings, taken_prompt positive fresh paced, ?_,
    lt_length_taken positive fresh paced⟩
  exact (length_taken_le interval first readings).trans
    (sub_le_sub_right (foldl_advance_le (le_refl first) paced) first)

end Counting

end RateLimits
