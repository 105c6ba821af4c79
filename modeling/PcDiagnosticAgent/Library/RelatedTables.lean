import PcDiagnosticAgent.Library.AutoTable
import Mathlib.Data.List.Forall2

/-!
# Tables whose rows are related

Two tables that hand out the same ids, with a relation between the two rows of
each id. The operations of a table keep this, when they do related things on
both sides.
-/

set_option autoImplicit false

namespace AutoTables

universe u v

variable {Row : Type u} {Other : Type v} {related : Row → Other → Prop}

/-- What is on the left is related to something on the right. -/
theorem exists_right {first : List Row} {second : List Other}
    (all : List.Forall₂ related first second) {row : Row} (member : row ∈ first) :
    ∃ given ∈ second, related row given := by
  induction all with
  | nil => exact absurd member List.not_mem_nil
  | @cons head given _ _ both _ ih =>
    rcases List.mem_cons.mp member with rfl | later
    · exact ⟨given, List.mem_cons_self, both⟩
    · obtain ⟨found, inside, isRelated⟩ := ih later
      exact ⟨found, List.mem_cons_of_mem _ inside, isRelated⟩

theorem exists_left {first : List Row} {second : List Other}
    (all : List.Forall₂ related first second) {given : Other} (member : given ∈ second) :
    ∃ row ∈ first, related row given :=
  exists_right (List.Forall₂.flip all) member

namespace AutoTable

/-- Delete the rows that are not kept; their ids are not used again. -/
def filter (table : AutoTable Row) (keeps : Row → Bool) : AutoTable Row where
  entries := table.entries.filter fun entry => keeps entry.row
  seq := table.seq
  ascending := table.ascending.filter _
  assigned entry member := table.assigned entry (List.mem_filter.mp member).1

theorem rows_filter (table : AutoTable Row) (keeps : Row → Bool) :
    (table.filter keeps).rows = table.rows.filter keeps := by
  rw [rows, rows, List.filter_map]
  rfl

/-- The same ids, and under each of them related rows. -/
structure Related (related : Row → Other → Prop) (table : AutoTable Row)
    (other : AutoTable Other) : Prop where
  seq : table.seq = other.seq
  entries : List.Forall₂ (fun first second => first.id = second.id ∧ related first.row second.row)
    table.entries other.entries

theorem Related.empty : (empty : AutoTable Row).Related related (empty : AutoTable Other) :=
  ⟨rfl, .nil⟩

variable {table : AutoTable Row} {other : AutoTable Other}

theorem Related.insert (same : table.Related related other) {row : Row} {given : Other}
    (rows : related row given) : (table.insert row).Related related (other.insert given) := by
  refine ⟨congrArg (· + 1) same.seq, ?_⟩
  exact List.rel_append same.entries (.cons ⟨congrArg (· + 1) same.seq, rows⟩ .nil)

theorem Related.insertAll (same : table.Related related other) {rows : List Row}
    {given : List Other} (all : List.Forall₂ related rows given) :
    (table.insertAll rows).Related related (other.insertAll given) := by
  induction all generalizing table other with
  | nil => exact same
  | cons row _ ih => exact ih (same.insert row)

theorem Related.update (same : table.Related related other) (id : ℕ) {change : Row → Row}
    {otherChange : Other → Other}
    (kept : ∀ row given, related row given → related (change row) (otherChange given)) :
    (table.update id change).Related related (other.update id otherChange) := by
  refine ⟨same.seq, ?_⟩
  rw [update_entries, update_entries, List.forall₂_map_left_iff, List.forall₂_map_right_iff]
  refine same.entries.imp fun first second both => ?_
  by_cases isRow : first.id = id
  · rw [if_pos isRow, if_pos (both.1.symm.trans isRow)]
    exact ⟨both.1, kept _ _ both.2⟩
  · rw [if_neg isRow, if_neg fun isOther => isRow (both.1.trans isOther)]
    exact both

/-- A change that only one side makes. -/
theorem Related.update_right (same : table.Related related other) (id : ℕ)
    {otherChange : Other → Other}
    (kept : ∀ row given, related row given → related row (otherChange given)) :
    table.Related related (other.update id otherChange) := by
  refine ⟨same.seq, ?_⟩
  rw [update_entries, List.forall₂_map_right_iff]
  refine same.entries.imp fun first second both => ?_
  by_cases isOther : second.id = id
  · rw [if_pos isOther]
    exact ⟨both.1, kept _ _ both.2⟩
  · rw [if_neg isOther]
    exact both

/-- The rows without their ids. -/
theorem Related.rows (same : table.Related related other) :
    List.Forall₂ related table.rows other.rows := by
  rw [AutoTable.rows, AutoTable.rows, List.forall₂_map_left_iff, List.forall₂_map_right_iff]
  exact same.entries.imp fun _ _ both => both.2

/-- A row of the table has its related row under the same id. -/
theorem Related.exists_entry (same : table.Related related other) {entry : Entry Other}
    (member : entry ∈ other.entries) :
    ∃ found ∈ table.entries, found.id = entry.id ∧ related found.row entry.row :=
  exists_left same.entries member

end AutoTable

end AutoTables
