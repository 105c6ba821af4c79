import Mathlib.Data.List.Induction
import Mathlib.Data.List.Sort

/-!
# Stable sorting by a key

Items are sorted by a key, and items with the same key keep their order. So the
place of an item is a count: before it stand the items with a smaller key and
the earlier ones with the same key (`sortBy_split`).

The first items of a sorted list are then known without sorting: an item is
among them when its count is small enough (`mem_take_sortBy_iff`), and a key is
among theirs when few keys are smaller (`forall_take_sortBy_iff`). Cutting a
sorted part of the list before sorting does not change the first items
(`take_sortBy_take_append`).
-/

set_option autoImplicit false

namespace StableSort

universe u v

variable {Item : Type u} {Key : Type v} [LinearOrder Key] (key : Item → Key)

/-- The first item may stand before the second one. -/
abbrev InOrder (first second : Item) : Prop := key first ≤ key second

/-- Sort by a key. -/
def sortBy (items : List Item) : List Item := items.insertionSort (InOrder key)

/-- How many items are sorted before one that stands between these. -/
def rank (earlier : List Item) (item : Item) (later : List Item) : ℕ :=
  earlier.countP (fun other => key other ≤ key item) +
    later.countP fun other => key other < key item

@[simp] theorem mem_sortBy {items : List Item} {item : Item} :
    item ∈ sortBy key items ↔ item ∈ items := List.mem_insertionSort _

theorem sortBy_perm (items : List Item) : (sortBy key items).Perm items :=
  List.perm_insertionSort _ items

theorem sortBy_sorted (items : List Item) : (sortBy key items).Pairwise (InOrder key) := by
  have : Std.Total (InOrder key) := ⟨fun first second => le_total (key first) (key second)⟩
  have : IsTrans Item (InOrder key) := ⟨fun _ _ _ => le_trans⟩
  exact List.pairwise_insertionSort _ items

/-- Only the keys decide about the order of the keys. -/
theorem map_sortBy (items : List Item) :
    (sortBy key items).map key = sortBy id (items.map key) :=
  List.map_insertionSort (InOrder key) (InOrder id) key items fun _ _ _ _ => Iff.rfl

/-! ## Insertion -/

/-- An item is inserted behind the items with smaller keys. -/
theorem orderedInsert_append {item : Item} {front : List Item} (back : List Item)
    (smaller : ∀ other ∈ front, key other < key item) :
    (front ++ back).orderedInsert (InOrder key) item =
      front ++ back.orderedInsert (InOrder key) item := by
  induction front with
  | nil => rfl
  | cons first front ih =>
    have below : ¬ key item ≤ key first := (smaller first List.mem_cons_self).not_ge
    rw [List.cons_append, List.orderedInsert_of_not_le (InOrder key) _ below,
      ih fun other member => smaller other (List.mem_cons_of_mem _ member)]
    rfl

/-- An item whose key is not above that of a second one is inserted before the
second one, and in the same place when the second one is missing. -/
theorem orderedInsert_before {item second : Item} (small : key item ≤ key second)
    {before after : List Item} (sorted : (before ++ second :: after).Pairwise (InOrder key)) :
    ∃ front, front.length = before.length + 1 ∧
      (before ++ second :: after).orderedInsert (InOrder key) item = front ++ second :: after ∧
      (before ++ after).orderedInsert (InOrder key) item = front ++ after := by
  induction before with
  | nil =>
    refine ⟨[item], rfl, List.orderedInsert_cons_of_le (InOrder key) _ small, ?_⟩
    cases after with
    | nil => rfl
    | cons third after =>
      have above : key second ≤ key third := List.rel_of_pairwise_cons sorted List.mem_cons_self
      exact List.orderedInsert_cons_of_le (InOrder key) _ (small.trans above)
  | cons first before ih =>
    by_cases order : key item ≤ key first
    · exact ⟨item :: first :: before, rfl, List.orderedInsert_cons_of_le (InOrder key) _ order,
        List.orderedInsert_cons_of_le (InOrder key) _ order⟩
    · obtain ⟨front, length, whole, without⟩ := ih (List.pairwise_cons.mp sorted).2
      refine ⟨first :: front, by rw [List.length_cons, length, List.length_cons], ?_, ?_⟩
      · rw [List.cons_append, List.orderedInsert_of_not_le (InOrder key) _ order, whole]
        rfl
      · rw [List.cons_append, List.orderedInsert_of_not_le (InOrder key) _ order, without]
        rfl

/-! ## The place of an item -/

/-- In a sorted list the items with a smaller key come first. -/
theorem length_takeWhile_sorted (item : Item) {items : List Item}
    (sorted : items.Pairwise (InOrder key)) :
    (items.takeWhile fun other => ¬ key item ≤ key other).length =
      items.countP fun other => key other < key item := by
  induction items with
  | nil => rfl
  | cons first items ih =>
    obtain ⟨above, rest⟩ := List.pairwise_cons.mp sorted
    by_cases order : key item ≤ key first
    · have none : ∀ other ∈ first :: items, ¬ key other < key item := by
        intro other member
        rcases List.mem_cons.mp member with rfl | later
        · exact order.not_gt
        · exact (order.trans (above other later)).not_gt
      rw [List.takeWhile_cons_of_neg (by simpa using order), List.length_nil,
        List.countP_eq_zero.mpr (by simpa using none)]
    · rw [List.takeWhile_cons_of_pos (by simpa using order), List.length_cons, ih rest,
        List.countP_cons_of_pos (by simpa using order)]

/-- Before an item stand the items with a smaller key and the earlier ones with
the same key; the others are sorted as they are without it. -/
theorem sortBy_split (earlier : List Item) (item : Item) (later : List Item) :
    ∃ before after, sortBy key (earlier ++ item :: later) = before ++ item :: after ∧
      sortBy key (earlier ++ later) = before ++ after ∧
      before.length = rank key earlier item later := by
  induction earlier with
  | nil =>
    refine ⟨(sortBy key later).takeWhile fun other => ¬ key item ≤ key other,
      (sortBy key later).dropWhile fun other => ¬ key item ≤ key other,
      List.insertionSort_cons_eq_take_drop (InOrder key) item later,
      List.takeWhile_append_dropWhile.symm, ?_⟩
    rw [rank, List.countP_nil, Nat.zero_add, ← (sortBy_perm key later).countP_eq]
    exact length_takeWhile_sorted key item (sortBy_sorted key later)
  | cons first earlier ih =>
    obtain ⟨before, after, whole, without, length⟩ := ih
    have sorted := sortBy_sorted key (earlier ++ item :: later)
    rw [whole] at sorted
    change ∃ front back, (sortBy key (earlier ++ item :: later)).orderedInsert (InOrder key) first =
        front ++ item :: back ∧
      (sortBy key (earlier ++ later)).orderedInsert (InOrder key) first = front ++ back ∧ _
    rw [whole, without]
    by_cases order : key first ≤ key item
    · obtain ⟨front, longer, inserted, absent⟩ := orderedInsert_before key order sorted
      refine ⟨front, after, inserted, absent, ?_⟩
      rw [longer, length, rank, rank, List.countP_cons_of_pos (by simpa using order)]
      omega
    · have above : key item < key first := not_le.mp order
      have smaller : ∀ other ∈ before, key other < key first := by
        intro other member
        have below := (List.pairwise_append.mp sorted).2.2 other member item List.mem_cons_self
        exact below.trans_lt above
      refine ⟨before, after.orderedInsert (InOrder key) first, ?_,
        orderedInsert_append key after smaller, ?_⟩
      · rw [orderedInsert_append key (item :: after) smaller,
          List.orderedInsert_of_not_le (InOrder key) _ order]
      · rw [length, rank, rank, List.countP_cons_of_neg (by simpa using order)]

/-! ## The first items -/

/-- An item that occurs once is among the first ones when few are sorted before
it. -/
theorem mem_take_sortBy_iff {earlier later : List Item} {item : Item}
    (once : item ∉ earlier ++ later) (count : ℕ) :
    item ∈ (sortBy key (earlier ++ item :: later)).take count ↔
      rank key earlier item later < count := by
  obtain ⟨before, after, whole, without, length⟩ := sortBy_split key earlier item later
  have absent : item ∉ before := by
    intro member
    refine once ((mem_sortBy key).mp ?_)
    rw [without]
    exact List.mem_append_left _ member
  rw [whole, ← length, List.take_append, List.mem_append]
  constructor
  · rintro (front | back)
    · exact absurd (List.mem_of_mem_take front) absent
    · by_contra outside
      rw [Nat.sub_eq_zero_of_le (not_lt.mp outside)] at back
      cases back
  · intro room
    obtain ⟨more, positive⟩ : ∃ more, count - before.length = more + 1 :=
      Nat.exists_eq_succ_of_ne_zero (Nat.sub_ne_zero_of_lt room)
    rw [positive, List.take_succ_cons]
    exact .inr List.mem_cons_self

/-- The keys of the first items are those with few smaller ones. -/
theorem forall_take_sortBy_iff (items : List Item) (count : ℕ) (property : Key → Prop) :
    (∀ item ∈ (sortBy key items).take count, property (key item)) ↔
      ∀ item ∈ items, items.countP (fun other => key other < key item) < count →
        property (key item) := by
  have sorted := sortBy_sorted key items
  simp only [← (sortBy_perm key items).mem_iff, ← (sortBy_perm key items).countP_eq]
  generalize sortBy key items = items at sorted
  induction items generalizing count with
  | nil => simp
  | cons first items ih =>
    obtain ⟨above, rest⟩ := List.pairwise_cons.mp sorted
    have least : (first :: items).countP (fun other => key other < key first) = 0 := by
      refine List.countP_eq_zero.mpr fun other member => ?_
      rcases List.mem_cons.mp member with rfl | later
      · simp
      · simpa using above other later
    cases count with
    | zero => simp
    | succ count =>
      rw [List.take_succ_cons, List.forall_mem_cons, List.forall_mem_cons, least]
      refine (and_congr_right' (ih count rest)).trans ?_
      constructor
      · rintro ⟨own, others⟩
        refine ⟨fun _ => own, fun item member small => ?_⟩
        by_cases same : key first = key item
        · rwa [← same]
        · have less : key first < key item := lt_of_le_of_ne (above item member) same
          rw [List.countP_cons_of_pos (by simpa using less)] at small
          exact others item member (by omega)
      · rintro ⟨own, others⟩
        refine ⟨own (Nat.succ_pos count), fun item member small => others item member ?_⟩
        refine lt_of_le_of_lt ?_ (Nat.succ_lt_succ small)
        rw [List.countP_cons]
        split <;> omega

/-- Cutting a sorted part behind enough items does not change the first ones. -/
theorem take_sortBy_take_append {items : List Item}
    (sorted : items.Pairwise (InOrder key)) (more : List Item)
    {count limit : ℕ} (enough : count ≤ limit) :
    (sortBy key (items.take limit ++ more)).take count =
      (sortBy key (items ++ more)).take count := by
  induction items using List.reverseRecOn with
  | nil => rw [List.take_nil]
  | append_singleton items last ih =>
    obtain ⟨front, -, order⟩ := List.pairwise_append.mp sorted
    rcases Nat.lt_or_ge items.length limit with short | long
    · have whole : (items ++ [last]).take limit = items ++ [last] :=
        List.take_of_length_le (by rw [List.length_append]; exact short)
      rw [whole]
    · -- the last item is sorted behind all the others of its part
      obtain ⟨before, after, whole, without, length⟩ := sortBy_split key items last more
      have behind : count ≤ before.length := by
        have all : items.countP (fun other => key other ≤ key last) = items.length :=
          List.countP_eq_length.mpr fun other member =>
            decide_eq_true (order other member last (List.mem_singleton_self last))
        rw [length, rank, all]
        omega
      rw [List.take_append_of_le_length long, ih front, List.append_assoc, List.singleton_append,
        whole, without, List.take_append_of_le_length behind,
        List.take_append_of_le_length behind]

end StableSort
