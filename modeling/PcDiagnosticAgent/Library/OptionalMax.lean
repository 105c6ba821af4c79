import Mathlib.Order.Bounds.Basic
import Mathlib.Order.Interval.Set.Basic
import Mathlib.Order.MinMax

/-!
# The greatest of finitely many values, when there are any

A search for the largest value over several sources returns nothing when all
sources are empty. `Greatest values best` says that `best` is the answer of
such a search: the greatest element of `values`, or `none` when there is none.

The rules follow the way such a search is written. A list answers with its
maximum (`Greatest.max?`), two searches combine by `optMax`
(`Greatest.optMax`), and a loop over sources is the fold of the combination
(`Greatest.foldl`). The answer is unique (`Greatest.unique`).

A search that is bounded only from above answers a question bounded from below
exactly when the interval between the bounds holds a value or nothing lies
below the upper bound at all (`greatest_from_iff`).
-/

set_option autoImplicit false

namespace OptionalMax

universe u v

variable {α : Type u} [LinearOrder α]

/-- The larger of two optional values, where an absent value never wins. -/
def optMax : Option α → Option α → Option α
  | none, second => second
  | some first, none => some first
  | some first, some second => some (max first second)

/-- `best` is the greatest of the values, and absent exactly when there are
none. -/
def Greatest (values : Set α) : Option α → Prop
  | none => values = ∅
  | some best => IsGreatest values best

namespace Greatest

theorem empty : Greatest (∅ : Set α) none := rfl

/-- There is only one answer. -/
theorem unique {values : Set α} {first second : Option α}
    (firstGreatest : Greatest values first) (secondGreatest : Greatest values second) :
    first = second := by
  cases first with
  | none =>
    cases second with
    | none => rfl
    | some best =>
      have member : best ∈ values := secondGreatest.1
      rw [show values = ∅ from firstGreatest] at member
      exact member.elim
  | some best =>
    cases second with
    | none =>
      have member : best ∈ values := firstGreatest.1
      rw [show values = ∅ from secondGreatest] at member
      exact member.elim
    | some other => exact congrArg some (IsGreatest.unique firstGreatest secondGreatest)

theorem eq_none_iff {values : Set α} {best : Option α} (greatest : Greatest values best) :
    best = none ↔ values = ∅ := by
  constructor
  · rintro rfl
    exact greatest
  · rintro rfl
    exact greatest.unique empty

/-- The answer of a list is its maximum. -/
theorem max? (list : List α) : Greatest {value | value ∈ list} list.max? := by
  cases answer : list.max? with
  | none =>
    rw [List.max?_eq_none_iff.mp answer]
    ext value
    simp
  | some best =>
    obtain ⟨member, bound⟩ := List.max?_eq_some_iff.mp answer
    exact ⟨member, bound⟩

/-- The answer over two sources is the larger of the two answers. -/
theorem optMax {values more : Set α} {first second : Option α}
    (firstGreatest : Greatest values first) (secondGreatest : Greatest more second) :
    Greatest (values ∪ more) (optMax first second) := by
  cases first with
  | none =>
    rw [show values = ∅ from firstGreatest, Set.empty_union]
    exact secondGreatest
  | some left =>
    cases second with
    | none =>
      rw [show more = ∅ from secondGreatest, Set.union_empty]
      exact firstGreatest
    | some right => exact IsGreatest.union firstGreatest secondGreatest

/-- A running maximum that starts from the answer so far, or from a bound below
all values when there is none, answers for the values it runs over too. -/
theorem foldl_max {values : Set α} {best : Option α} (greatest : Greatest values best)
    (floor : α) {list : List α} (above : ∀ value ∈ list, floor ≤ value) (filled : list ≠ []) :
    Greatest (values ∪ {value | value ∈ list}) (some (list.foldl Max.max (best.getD floor))) := by
  obtain ⟨first, rest, rfl⟩ := List.exists_cons_of_ne_nil filled
  have answer := greatest.optMax (max? (first :: rest))
  rw [List.max?_cons'] at answer
  cases best with
  | none =>
    have start : Max.max floor first = first := max_eq_right (above first List.mem_cons_self)
    rw [Option.getD_none, List.foldl_cons, start]
    exact answer
  | some best =>
    rw [Option.getD_some, List.foldl_cons, List.foldl_assoc]
    exact answer

/-- A loop over sources answers for all of them together. -/
theorem foldl {ι : Type v} {search : ι → Option α} {values : ι → Set α}
    (answers : ∀ source, Greatest (values source) (search source)) (sources : List ι)
    {start : Option α} {initial : Set α} (greatest : Greatest initial start) :
    Greatest (initial ∪ {value | ∃ source ∈ sources, value ∈ values source})
      (sources.foldl (fun best source => OptionalMax.optMax best (search source)) start) := by
  induction sources generalizing start initial with
  | nil => simpa using greatest
  | cons source sources ih =>
    have step := ih (greatest.optMax (answers source))
    have regroup : initial ∪ {value | ∃ other ∈ source :: sources, value ∈ values other} =
        initial ∪ values source ∪ {value | ∃ other ∈ sources, value ∈ values other} := by
      ext value
      simp [or_assoc]
    rw [regroup]
    exact step

/-- The answer stays the same when values other than it are left out. -/
theorem of_subset {values fewer : Set α} {best : Option α} (subset : fewer ⊆ values)
    (kept : ∀ value, best = some value → value ∈ fewer) (greatest : Greatest values best) :
    Greatest fewer best := by
  cases best with
  | none =>
    have none : values = ∅ := greatest
    exact Set.subset_empty_iff.mp (none ▸ subset)
  | some best => exact ⟨kept best rfl, fun value member => greatest.2 (subset member)⟩

/-- Values that are matched by at least as large ones can be left out. -/
theorem of_matched {values more : Set α} {best : Option α} (subset : values ⊆ more)
    (matched : ∀ value ∈ more, ∃ other ∈ values, value ≤ other)
    (greatest : Greatest more best) : Greatest values best := by
  refine of_subset subset ?_ greatest
  rintro value rfl
  obtain ⟨other, member, above⟩ := matched value greatest.1
  have below : other ≤ value := greatest.2 (subset member)
  rwa [le_antisymm above below]

end Greatest

/-- **The greatest of all values is the greatest of those from a bound on
exactly when some value lies there or there are no values at all.** -/
theorem greatest_from_iff {values : Set α} {best : Option α} (bound : α)
    (greatest : Greatest values best) :
    Greatest (values ∩ Set.Ici bound) best ↔
      (values ∩ Set.Ici bound).Nonempty ∨ values = ∅ := by
  cases best with
  | none =>
    have none : values = ∅ := greatest
    simp [Greatest, none]
  | some best =>
    have member : best ∈ values := greatest.1
    constructor
    · intro inside
      exact Or.inl ⟨best, inside.1⟩
    · rintro (⟨value, present, above⟩ | none)
      · refine ⟨⟨member, le_trans above (greatest.2 present)⟩, fun other inside => ?_⟩
        exact greatest.2 inside.1
      · rw [none] at member
        exact member.elim

end OptionalMax
