import Mathlib.Data.List.Nodup
import Mathlib.Order.Basic

/-!
# Tables with automatically assigned row ids

A table keeps its rows in the order of their ids. The ids come from a counter
that only grows, so the id of a row is never used again and the newest row is
the last one.

The two orders are fields of the table, so every table satisfies them. From
them follow the facts a reader of such a table relies on: an id names at most
one row (`eq_of_id_eq`), and after an insertion the newest row is the inserted
one, preceded by the row that was the newest before (`latest_insert`,
`before_insert`).
-/

set_option autoImplicit false

namespace AutoTables

universe u v

/-- A stored row together with its id. -/
structure Entry (Row : Type u) where
  id : ℕ
  row : Row
deriving DecidableEq, Repr

/-- A table whose row ids were handed out by a growing counter. -/
structure AutoTable (Row : Type u) where
  entries : List (Entry Row)
  seq : ℕ
  ascending : entries.Pairwise fun earlier later => earlier.id < later.id
  assigned : ∀ entry ∈ entries, 0 < entry.id ∧ entry.id ≤ seq

variable {Row : Type u}

namespace AutoTable

/-- The table without rows. -/
def empty : AutoTable Row where
  entries := []
  seq := 0
  ascending := .nil
  assigned := by simp

/-- The rows without their ids. -/
def rows (table : AutoTable Row) : List Row := table.entries.map Entry.row

/-- Add a row under the next id. -/
def insert (table : AutoTable Row) (row : Row) : AutoTable Row where
  entries := table.entries ++ [⟨table.seq + 1, row⟩]
  seq := table.seq + 1
  ascending := by
    refine List.pairwise_append.mpr ⟨table.ascending, List.pairwise_singleton _ _, ?_⟩
    intro earlier member later last
    rw [List.mem_singleton.mp last]
    exact Nat.lt_succ_of_le (table.assigned earlier member).2
  assigned := by
    intro entry member
    rcases List.mem_append.mp member with old | new
    · exact ⟨(table.assigned entry old).1, Nat.le_succ_of_le (table.assigned entry old).2⟩
    · rw [List.mem_singleton.mp new]
      exact ⟨Nat.succ_pos _, Nat.le_refl _⟩

/-- Add several rows, one after the other. -/
def insertAll (table : AutoTable Row) (rows : List Row) : AutoTable Row :=
  rows.foldl insert table

/-- Change the row with the given id. -/
def update (table : AutoTable Row) (id : ℕ) (change : Row → Row) : AutoTable Row where
  entries := table.entries.map fun entry =>
    if entry.id = id then { entry with row := change entry.row } else entry
  seq := table.seq
  ascending := by
    refine List.pairwise_map.mpr (table.ascending.imp fun {earlier later} order => ?_)
    split <;> split <;> exact order
  assigned := by
    intro entry member
    obtain ⟨old, oldMember, rfl⟩ := List.mem_map.mp member
    split <;> exact table.assigned old oldMember

/-- The row with the largest id. -/
def latest (table : AutoTable Row) : Option (Entry Row) := table.entries.getLast?

/-- The row with the largest id below the given one. -/
def before (table : AutoTable Row) (id : ℕ) : Option (Entry Row) :=
  (table.entries.filter fun entry => entry.id < id).getLast?

/-- The row with the given id. -/
def find? (table : AutoTable Row) (id : ℕ) : Option Row :=
  (table.entries.find? fun entry => entry.id = id).map Entry.row

/-! ## Ids -/

/-- An id names at most one row. -/
theorem eq_of_id_eq (table : AutoTable Row) {first second : Entry Row}
    (firstMember : first ∈ table.entries) (secondMember : second ∈ table.entries)
    (same : first.id = second.id) : first = second := by
  have unique : (table.entries.map Entry.id).Nodup :=
    List.pairwise_map.mpr (table.ascending.imp fun order => Nat.ne_of_lt order)
  exact List.inj_on_of_nodup_map unique firstMember secondMember same

theorem latest_mem {table : AutoTable Row} {entry : Entry Row}
    (newest : table.latest = some entry) : entry ∈ table.entries :=
  List.mem_of_getLast? newest

/-! ## Insertion -/

@[simp] theorem insert_entries (table : AutoTable Row) (row : Row) :
    (table.insert row).entries = table.entries ++ [⟨table.seq + 1, row⟩] := rfl

@[simp] theorem insertAll_nil (table : AutoTable Row) : table.insertAll [] = table := rfl

@[simp] theorem insertAll_cons (table : AutoTable Row) (row : Row) (rows : List Row) :
    table.insertAll (row :: rows) = (table.insert row).insertAll rows := rfl

@[simp] theorem rows_insert (table : AutoTable Row) (row : Row) :
    (table.insert row).rows = table.rows ++ [row] := by
  simp [rows]

@[simp] theorem rows_insertAll (table : AutoTable Row) (rows : List Row) :
    (table.insertAll rows).rows = table.rows ++ rows := by
  induction rows generalizing table with
  | nil => simp
  | cons row rows ih => simp [ih]

/-- Insertions keep the rows that are there, with their ids. -/
theorem mem_insertAll_of_mem {table : AutoTable Row} {entry : Entry Row} (rows : List Row)
    (member : entry ∈ table.entries) : entry ∈ (table.insertAll rows).entries := by
  induction rows generalizing table with
  | nil => exact member
  | cons row rows ih => exact ih (List.mem_append_left _ member)

/-- Insertions add rows of the list only. -/
theorem mem_insertAll {table : AutoTable Row} {entry : Entry Row} {rows : List Row}
    (member : entry ∈ (table.insertAll rows).entries) :
    entry ∈ table.entries ∨ entry.row ∈ rows := by
  induction rows generalizing table with
  | nil => exact .inl member
  | cons row rows ih =>
    rcases ih member with stored | later
    · rcases List.mem_append.mp stored with old | new
      · exact .inl old
      · rw [List.mem_singleton.mp new]
        exact .inr List.mem_cons_self
    · exact .inr (List.mem_cons_of_mem _ later)

@[simp] theorem latest_insert (table : AutoTable Row) (row : Row) :
    (table.insert row).latest = some ⟨table.seq + 1, row⟩ := by
  simp [latest]

/-- The row before an inserted one is the newest row of the table before. -/
@[simp] theorem before_insert (table : AutoTable Row) (row : Row) :
    (table.insert row).before (table.seq + 1) = table.latest := by
  have old : table.entries.filter (fun entry => decide (entry.id < table.seq + 1)) =
      table.entries := by
    refine List.filter_eq_self.mpr fun entry member => ?_
    exact decide_eq_true (Nat.lt_succ_of_le (table.assigned entry member).2)
  have new : [(⟨table.seq + 1, row⟩ : Entry Row)].filter
      (fun entry => decide (entry.id < table.seq + 1)) = [] := by
    simp
  rw [before, latest, insert_entries, List.filter_append, old, new, List.append_nil]

/-! ## Changing one row -/

@[simp] theorem update_entries (table : AutoTable Row) (id : ℕ) (change : Row → Row) :
    (table.update id change).entries = table.entries.map fun entry =>
      if entry.id = id then { entry with row := change entry.row } else entry := rfl

/-- The newest row stands last. -/
theorem latest_eq_some_iff {table : AutoTable Row} {last : Entry Row} :
    table.latest = some last ↔ ∃ earlier, table.entries = earlier ++ [last] :=
  List.getLast?_eq_some_iff

theorem latest_eq_none_iff {table : AutoTable Row} :
    table.latest = none ↔ table.entries = [] := List.getLast?_eq_none_iff

/-- Changing the newest row changes the last entry only. -/
theorem update_last_entries {table : AutoTable Row} {earlier : List (Entry Row)}
    {last : Entry Row} (split : table.entries = earlier ++ [last]) (change : Row → Row) :
    (table.update last.id change).entries = earlier ++ [⟨last.id, change last.row⟩] := by
  have order := table.ascending
  rw [split, List.pairwise_append] at order
  have kept : earlier.map (fun entry =>
      if entry.id = last.id then { entry with row := change entry.row } else entry) = earlier := by
    refine (List.map_congr_left fun entry member => ?_).trans (List.map_id earlier)
    have below : entry.id < last.id := order.2.2 entry member last (List.mem_singleton_self last)
    exact if_neg (Nat.ne_of_lt below)
  rw [update_entries, split, List.map_append, kept]
  simp

/-- Changing a row right after it was inserted inserts the changed row. -/
theorem insert_update_entries (table : AutoTable Row) (row : Row) (change : Row → Row) :
    ((table.insert row).update (table.seq + 1) change).entries =
      table.entries ++ [⟨table.seq + 1, change row⟩] :=
  update_last_entries (insert_entries table row) change

@[simp] theorem update_seq (table : AutoTable Row) (id : ℕ) (change : Row → Row) :
    (table.update id change).seq = table.seq := rfl

/-- Changing the newest row leaves it the newest row. -/
theorem latest_update_self {table : AutoTable Row} {entry : Entry Row} (change : Row → Row)
    (newest : table.latest = some entry) :
    (table.update entry.id change).latest = some ⟨entry.id, change entry.row⟩ := by
  rw [latest] at newest
  simp [latest, newest]

/-- Changing a row at or above an id does not change the row before that id. -/
theorem before_update_of_le {table : AutoTable Row} {id bound : ℕ} (change : Row → Row)
    (above : bound ≤ id) : (table.update id change).before bound = table.before bound := by
  have kept : ∀ entries : List (Entry Row),
      (entries.map fun entry => if entry.id = id then { entry with row := change entry.row }
        else entry).filter (fun entry => decide (entry.id < bound)) =
      entries.filter fun entry => decide (entry.id < bound) := by
    intro entries
    induction entries with
    | nil => rfl
    | cons entry entries ih =>
      by_cases same : entry.id = id
      · have outside : ¬ entry.id < bound := by omega
        simp only [List.map_cons, if_pos same, List.filter_cons, outside, decide_false,
          Bool.false_eq_true, if_false, ih]
      · simp only [List.map_cons, if_neg same, List.filter_cons, ih]
  simp only [before, update_entries, kept]

/-! ## Reading by id -/

/-- A stored row is found under its id. -/
theorem find?_of_mem {table : AutoTable Row} {entry : Entry Row}
    (member : entry ∈ table.entries) : table.find? entry.id = some entry.row := by
  have present : (table.entries.find? fun other => decide (other.id = entry.id)).isSome :=
    List.find?_isSome.mpr ⟨entry, member, by simp⟩
  obtain ⟨found, search⟩ := Option.isSome_iff_exists.mp present
  have same : found.id = entry.id := by simpa using List.find?_some search
  rw [find?, search, table.eq_of_id_eq (List.mem_of_find?_eq_some search) member same]
  rfl

theorem mem_update_self {table : AutoTable Row} {entry : Entry Row} (change : Row → Row)
    (member : entry ∈ table.entries) :
    ⟨entry.id, change entry.row⟩ ∈ (table.update entry.id change).entries :=
  List.mem_map.mpr ⟨entry, member, by simp⟩

theorem mem_update_of_ne {table : AutoTable Row} {entry : Entry Row} {id : ℕ}
    (change : Row → Row) (member : entry ∈ table.entries) (different : entry.id ≠ id) :
    entry ∈ (table.update id change).entries :=
  List.mem_map.mpr ⟨entry, member, by simp [different]⟩

/-! ## Reading rows as something else -/

section Map

variable {Other : Type v}

/-- The table of what is read from each row. -/
def map (table : AutoTable Row) (read : Row → Other) : AutoTable Other where
  entries := table.entries.map fun entry => ⟨entry.id, read entry.row⟩
  seq := table.seq
  ascending := List.pairwise_map.mpr table.ascending
  assigned := by
    intro entry member
    obtain ⟨old, oldMember, rfl⟩ := List.mem_map.mp member
    exact table.assigned old oldMember

@[simp] theorem rows_map (table : AutoTable Row) (read : Row → Other) :
    (table.map read).rows = table.rows.map read := by
  simp only [rows, map, List.map_map]
  rfl

@[simp] theorem find?_map (table : AutoTable Row) (read : Row → Other) (id : ℕ) :
    (table.map read).find? id = (table.find? id).map read := by
  simp only [find?, map, List.find?_map, Option.map_map]
  rfl

end Map

end AutoTable

end AutoTables
