import Mathlib.Data.List.Induction
import Mathlib.Data.List.Nodup

/-!
# Dictionaries in insertion order

A dictionary lists its keys in the order in which they were first set. Setting a
key that is there replaces its value in place, setting another one appends it.
Updating with a second dictionary sets the keys of the second one by one, so
what the second one says about a key counts (`lookup_update`).

That the keys are distinct is a field, so every pair of the list is what a
lookup finds (`mem_entries_iff`).
-/

set_option autoImplicit false

namespace Dicts

universe u v w

/-- Pairs with distinct keys. -/
structure Dict (Key : Type u) (Value : Type v) where
  entries : List (Key × Value)
  distinct : (entries.map Prod.fst).Nodup

namespace Dict

variable {Key : Type u} {Value : Type v} [DecidableEq Key]

def empty : Dict Key Value := ⟨[], .nil⟩

def lookup (dict : Dict Key Value) (key : Key) : Option Value := dict.entries.lookup key

/-- The pairs after setting one key. -/
def setEntries (entries : List (Key × Value)) (key : Key) (value : Value) : List (Key × Value) :=
  if key ∈ entries.map Prod.fst then
    entries.map fun entry => if entry.1 = key then (key, value) else entry
  else entries ++ [(key, value)]

/-- Replacing a value keeps the keys. -/
theorem keys_replace (entries : List (Key × Value)) (key : Key) (value : Value) :
    (entries.map fun entry => if entry.1 = key then (key, value) else entry).map Prod.fst =
      entries.map Prod.fst := by
  rw [List.map_map]
  refine List.map_congr_left fun entry _ => ?_
  by_cases same : entry.1 = key <;> simp [same]

/-- `dict[key] = value`. -/
def set (dict : Dict Key Value) (key : Key) (value : Value) : Dict Key Value where
  entries := setEntries dict.entries key value
  distinct := by
    unfold setEntries
    split
    · rw [keys_replace]
      exact dict.distinct
    · rename_i absent
      rw [List.map_append]
      refine List.nodup_append.mpr ⟨dict.distinct, by simp, ?_⟩
      rintro other member added last rfl
      obtain rfl : other = key := by simpa using last
      exact absent member

/-- `dict.update(more)`. -/
def update (dict more : Dict Key Value) : Dict Key Value :=
  more.entries.foldl (fun dict entry => dict.set entry.1 entry.2) dict

/-! ## Lookups -/

/-- Every pair is what a lookup of its key finds. -/
theorem mem_entries_iff {dict : Dict Key Value} {key : Key} {value : Value} :
    (key, value) ∈ dict.entries ↔ dict.lookup key = some value := by
  obtain ⟨entries, distinct⟩ := dict
  change (key, value) ∈ entries ↔ entries.lookup key = some value
  induction entries with
  | nil => simp
  | cons entry entries ih =>
    obtain ⟨first, found⟩ := entry
    obtain ⟨fresh, rest⟩ := List.nodup_cons.mp distinct
    rw [List.mem_cons, List.lookup_cons, ih rest]
    by_cases same : key = first
    · subst same
      have absent : entries.lookup key ≠ some value := fun later =>
        fresh (List.mem_map.mpr ⟨_, (ih rest).mpr later, rfl⟩)
      simp [absent, eq_comm]
    · simp [same, beq_eq_false_iff_ne.mpr same]

theorem mem_setEntries {entries : List (Key × Value)} {key : Key} {value : Value}
    {entry : Key × Value} :
    entry ∈ setEntries entries key value ↔
      entry = (key, value) ∨ entry ∈ entries ∧ entry.1 ≠ key := by
  unfold setEntries
  split
  · rename_i present
    obtain ⟨held, heldMember, heldKey⟩ := List.mem_map.mp present
    rw [List.mem_map]
    constructor
    · rintro ⟨old, member, rfl⟩
      split
      · exact .inl rfl
      · rename_i other
        exact .inr ⟨member, other⟩
    · rintro (rfl | ⟨member, other⟩)
      · exact ⟨held, heldMember, if_pos heldKey⟩
      · exact ⟨entry, member, if_neg other⟩
  · rename_i absent
    have others : entry ∈ entries → entry.1 ≠ key := by
      rintro member rfl
      exact absent (List.mem_map_of_mem member)
    rw [List.mem_append, List.mem_singleton, or_comm]
    exact or_congr_right ⟨fun member => ⟨member, others member⟩, And.left⟩

theorem lookup_set (dict : Dict Key Value) (key other : Key) (value : Value) :
    (dict.set key value).lookup other = if other = key then some value else dict.lookup other := by
  refine Option.ext fun found => ?_
  rw [← mem_entries_iff, set, mem_setEntries, mem_entries_iff]
  by_cases same : other = key
  · simp [same, eq_comm]
  · simp [same]

theorem lookup_empty (key : Key) : (empty : Dict Key Value).lookup key = none := rfl

/-- **What the second dictionary says about a key counts.** -/
theorem lookup_update (dict more : Dict Key Value) (key : Key) :
    (dict.update more).lookup key = (more.lookup key).or (dict.lookup key) := by
  obtain ⟨entries, distinct⟩ := more
  change (entries.foldl (fun dict entry => dict.set entry.1 entry.2) dict).lookup key =
    (entries.lookup key).or (dict.lookup key)
  induction entries generalizing dict with
  | nil => rfl
  | cons entry entries ih =>
    obtain ⟨fresh, rest⟩ := List.nodup_cons.mp distinct
    rw [List.foldl_cons, ih _ rest, lookup_set, List.lookup_cons]
    by_cases same : key = entry.1
    · subst same
      have absent : entries.lookup entry.1 = none := by
        refine List.lookup_eq_none_iff.mpr fun other member => bne_iff_ne.mpr fun again => ?_
        exact fresh (List.mem_map.mpr ⟨other, member, again.symm⟩)
      simp [absent]
    · simp [same, beq_eq_false_iff_ne.mpr same]

/-- The last value that a key is given. -/
def lastOf (entries : List (Key × Value)) (key : Key) : Option Value := entries.reverse.lookup key

theorem lastOf_mem {entries : List (Key × Value)} {key : Key} {value : Value}
    (last : lastOf entries key = some value) : (key, value) ∈ entries := by
  rw [lastOf, List.lookup_eq_some_iff] at last
  obtain ⟨first, rest, split, -⟩ := last
  rw [← List.mem_reverse, split]
  exact List.mem_append_right _ List.mem_cons_self

/-- After a key was set again and again, its last value counts. -/
theorem lookup_foldl_set (entries : List (Key × Value)) (dict : Dict Key Value) (key : Key) :
    (entries.foldl (fun dict entry => dict.set entry.1 entry.2) dict).lookup key =
      (lastOf entries key).or (dict.lookup key) := by
  induction entries using List.reverseRecOn with
  | nil => rfl
  | append_singleton entries last ih =>
    obtain ⟨lastKey, value⟩ := last
    have last : lastOf (entries ++ [(lastKey, value)]) key =
        if key = lastKey then some value else lastOf entries key := by
      rw [lastOf, List.reverse_append, List.reverse_singleton, List.singleton_append,
        List.lookup_cons]
      by_cases same : key = lastKey
      · simp [same]
      · simp [lastOf, same, beq_eq_false_iff_ne.mpr same]
    rw [List.foldl_append, List.foldl_cons, List.foldl_nil, lookup_set, ih, last]
    by_cases same : key = lastKey
    · simp [same]
    · simp [same]

/-! ## All pairs -/

/-- What is gathered from every pair but only comes from one key is what is
gathered from the value of this key. -/
theorem flatMap_entries {Result : Type w} (dict : Dict Key Value) (key : Key)
    (gather : Key × Value → List Result)
    (only : ∀ other value, other ≠ key → gather (other, value) = []) :
    dict.entries.flatMap gather =
      ((dict.lookup key).map fun value => gather (key, value)).getD [] := by
  obtain ⟨entries, distinct⟩ := dict
  change entries.flatMap gather =
    ((entries.lookup key).map fun value => gather (key, value)).getD []
  induction entries with
  | nil => rfl
  | cons entry entries ih =>
    obtain ⟨first, value⟩ := entry
    obtain ⟨fresh, rest⟩ := List.nodup_cons.mp distinct
    rw [List.flatMap_cons, List.lookup_cons]
    by_cases same : key = first
    · subst same
      have none : entries.flatMap gather = [] := by
        refine List.flatMap_eq_nil_iff.mpr fun other member => only other.1 other.2 ?_
        exact fun again => fresh (List.mem_map.mpr ⟨other, member, again⟩)
      simp [none]
    · rw [only first value (Ne.symm same), List.nil_append, ih rest,
        beq_eq_false_iff_ne.mpr same]

end Dict

end Dicts
