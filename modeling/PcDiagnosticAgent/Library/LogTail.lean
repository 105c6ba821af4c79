import Mathlib.Data.List.DropRight
import Mathlib.Data.List.Infix
import Mathlib.Order.Lattice

/-!
# Tailing a log with a cursor

A reader follows a log by a cursor in a join-semilattice. It reads backwards
from the newest record and stops at the first record whose stamp the cursor
covers; afterwards the cursor is the join of what was read.

`Tail` is such a reader with everything that was ever written: the log is what
is left of it, and the stored records are named by their positions in it, so
that two equal records are told apart. Its fields carry what makes the reader
sound whatever the stamps are. The stored positions ascend, so no record is
stored twice, and the newest record that was there at the last collection is
covered, so no later collection reads past it.

What is lost is decided at the collection that first meets a record: it is
stored exactly when the cursor covers no record from it on
(`mem_collectAll`).
-/

set_option autoImplicit false

namespace LogTail

universe u v

variable {Record : Type u} {Cursor : Type v}

/-! ## The cursor -/

section Cursor

variable [SemilatticeSup Cursor] (stamp : Record → Cursor)

/-- The cursor once the records are read. -/
def advance (cursor : Cursor) (records : List Record) : Cursor :=
  records.foldl (fun cursor record => cursor ⊔ stamp record) cursor

variable {stamp}

/-- The advanced cursor is the least bound of the old one and the stamps. -/
theorem advance_le_iff {cursor bound : Cursor} {records : List Record} :
    advance stamp cursor records ≤ bound ↔
      cursor ≤ bound ∧ ∀ record ∈ records, stamp record ≤ bound := by
  induction records generalizing cursor with
  | nil => simp [advance]
  | cons record records ih =>
    have step : advance stamp cursor (record :: records) =
        advance stamp (cursor ⊔ stamp record) records := rfl
    rw [step, ih, sup_le_iff, List.forall_mem_cons, and_assoc]

theorem le_advance (cursor : Cursor) (records : List Record) :
    cursor ≤ advance stamp cursor records :=
  (advance_le_iff.mp le_rfl).1

theorem stamp_le_advance {records : List Record} {record : Record} (cursor : Cursor)
    (member : record ∈ records) : stamp record ≤ advance stamp cursor records :=
  (advance_le_iff.mp le_rfl).2 record member

end Cursor

/-! ## What is unread -/

section Unread

variable [Preorder Cursor] [DecidableLE Cursor] (stamp : Record → Cursor)

/-- The records behind the newest covered one, oldest first. -/
def unread (cursor : Cursor) (log : List Record) : List Record :=
  log.rtakeWhile fun record => ¬ stamp record ≤ cursor

theorem unread_suffix (cursor : Cursor) (log : List Record) : unread stamp cursor log <:+ log :=
  List.rtakeWhile_suffix _ _

variable {stamp} {cursor : Cursor}

theorem unread_concat_covered (log : List Record) {newest : Record}
    (covered : stamp newest ≤ cursor) : unread stamp cursor (log ++ [newest]) = [] :=
  List.rtakeWhile_concat_neg _ _ _ (by simpa using covered)

theorem unread_concat_new (log : List Record) {newest : Record}
    (new : ¬ stamp newest ≤ cursor) :
    unread stamp cursor (log ++ [newest]) = unread stamp cursor log ++ [newest] :=
  List.rtakeWhile_concat_pos _ _ _ (by simpa using new)

theorem unread_append_of_new (log : List Record) {fresh : List Record}
    (new : ∀ record ∈ fresh, ¬ stamp record ≤ cursor) :
    unread stamp cursor (log ++ fresh) = unread stamp cursor log ++ fresh := by
  induction fresh using List.reverseRecOn with
  | nil => rw [List.append_nil, List.append_nil]
  | append_singleton fresh newest ih =>
    rw [List.forall_mem_append] at new
    rw [← List.append_assoc, unread_concat_new _ (new.2 newest (by simp)), ih new.1,
      List.append_assoc]

/-- A covered record hides everything before it. -/
theorem unread_append_of_covered {old : List Record} (fresh : List Record)
    (seam : ∀ newest ∈ old.getLast?, stamp newest ≤ cursor) :
    unread stamp cursor (old ++ fresh) = unread stamp cursor fresh := by
  induction fresh using List.reverseRecOn with
  | nil =>
    induction old using List.reverseRecOn with
    | nil => rfl
    | append_singleton old newest _ =>
      rw [List.append_nil, unread_concat_covered old (seam newest (by simp))]
      rfl
  | append_singleton fresh newest ih =>
    rw [← List.append_assoc]
    by_cases covered : stamp newest ≤ cursor
    · rw [unread_concat_covered _ covered, unread_concat_covered _ covered]
    · rw [unread_concat_new _ covered, unread_concat_new _ covered, ih]

/-- In a log that is ordered by a key, a record is unread exactly when no record
from it on is covered. -/
theorem mem_unread_iff {Key : Type*} [LinearOrder Key] {key : Record → Key} {log : List Record}
    (ordered : log.Pairwise fun earlier later => key earlier < key later) {record : Record} :
    record ∈ unread stamp cursor log ↔
      record ∈ log ∧ ∀ later ∈ log, key record ≤ key later → ¬ stamp later ≤ cursor := by
  induction log using List.reverseRecOn with
  | nil => simp [unread]
  | append_singleton log newest ih =>
    obtain ⟨before, -, below⟩ := List.pairwise_append.mp ordered
    have last : ∀ earlier ∈ log, key earlier < key newest := fun earlier member =>
      below earlier member newest (by simp)
    by_cases covered : stamp newest ≤ cursor
    · rw [unread_concat_covered log covered]
      refine iff_of_false (by simp) fun ⟨member, new⟩ => ?_
      refine new newest (by simp) ?_ covered
      rcases List.mem_append.mp member with earlier | same
      · exact (last record earlier).le
      · exact le_of_eq (congrArg key (List.mem_singleton.mp same))
    · rw [unread_concat_new log covered, List.mem_append, ih before]
      simp only [List.mem_append, List.mem_singleton, or_imp, forall_and, forall_eq, covered,
        not_false_eq_true, implies_true, and_true]
      constructor
      · rintro (⟨member, new⟩ | rfl)
        · exact ⟨.inl member, new⟩
        · refine ⟨.inr rfl, fun later member after => ?_⟩
          exact absurd (last later member) (not_lt.mpr after)
      · rintro ⟨member | same, new⟩
        · exact .inl ⟨member, new⟩
        · exact .inr same

variable (stamp) in
/-- Counted from the newest, the unread records reach down to a position
exactly when no record from there on is covered. -/
theorem length_sub_unread_le_iff (cursor : Cursor) (log : List Record) {position : ℕ}
    (within : position ≤ log.length) :
    log.length - (unread stamp cursor log).length ≤ position ↔
      ∀ record ∈ log.drop position, ¬ stamp record ≤ cursor := by
  induction log using List.reverseRecOn with
  | nil => simp [unread]
  | append_singleton log newest ih =>
    rw [List.length_append, List.length_singleton] at within ⊢
    rcases Nat.lt_or_ge log.length position with beyond | inside
    · have none : (log ++ [newest]).drop position = [] :=
        List.drop_eq_nil_of_le (by simp; omega)
      simp only [none, List.not_mem_nil, false_implies, implies_true, iff_true]
      omega
    · rw [List.drop_append_of_le_length inside, List.forall_mem_append]
      by_cases covered : stamp newest ≤ cursor
      · rw [unread_concat_covered log covered]
        simp only [List.length_nil, List.mem_singleton, forall_eq, covered, not_true, and_false,
          iff_false]
        omega
      · have fits := (unread_suffix stamp cursor log).length_le
        rw [unread_concat_new log covered, ← ih inside]
        simp only [List.length_append, List.length_singleton, List.mem_singleton, forall_eq,
          covered, not_false_eq_true, and_true]
        omega

end Unread

/-! ## A reader with its history -/

variable [SemilatticeSup Cursor]

/-- Everything that was written, where the log now begins, how much was written
at the last collection, the positions of the stored records, and the cursor. -/
structure Tail (stamp : Record → Cursor) where
  written : List Record
  start : ℕ
  seen : ℕ
  stored : List ℕ
  cursor : Cursor
  start_le : start ≤ written.length
  seen_le : seen ≤ written.length
  ascending : stored.Pairwise fun earlier later => earlier < later
  stored_lt : ∀ position ∈ stored, position < seen
  covered : ∀ position ∈ stored, ∀ record ∈ written[position]?, stamp record ≤ cursor
  seam : start < seen → ∀ record ∈ written[seen - 1]?, stamp record ≤ cursor

namespace Tail

variable {stamp : Record → Cursor}

/-- A reader that has stored nothing of a log. -/
def opened (written : List Record) {start : ℕ} (start_le : start ≤ written.length)
    (cursor : Cursor) : Tail stamp where
  written := written
  start := start
  seen := 0
  stored := []
  cursor := cursor
  start_le := start_le
  seen_le := Nat.zero_le _
  ascending := .nil
  stored_lt := by simp
  covered := by simp
  seam := by simp

/-- The reader of an empty log. -/
def empty (cursor : Cursor) : Tail stamp := opened [] le_rfl cursor

variable (tail : Tail stamp)

/-- The records that are in the log. -/
def log : List Record := tail.written.drop tail.start

/-- A record is written. -/
def append (record : Record) : Tail stamp where
  written := tail.written ++ [record]
  start := tail.start
  seen := tail.seen
  stored := tail.stored
  cursor := tail.cursor
  start_le := le_trans tail.start_le (by simp)
  seen_le := le_trans tail.seen_le (by simp)
  ascending := tail.ascending
  stored_lt := tail.stored_lt
  covered := by
    intro position member
    rw [List.getElem?_append_left (lt_of_lt_of_le (tail.stored_lt position member) tail.seen_le)]
    exact tail.covered position member
  seam := by
    intro inside
    have within : tail.seen - 1 < tail.written.length := by
      have := tail.seen_le
      omega
    rw [List.getElem?_append_left within]
    exact tail.seam inside

/-- The oldest records leave the log. -/
def forget (count : ℕ) : Tail stamp where
  written := tail.written
  start := min (tail.start + count) tail.written.length
  seen := tail.seen
  stored := tail.stored
  cursor := tail.cursor
  start_le := min_le_right _ _
  seen_le := tail.seen_le
  ascending := tail.ascending
  stored_lt := tail.stored_lt
  covered := tail.covered
  seam := by
    intro inside
    have := tail.seen_le
    exact tail.seam (by omega)

/-! ### Later states -/

/-- A later state of the same reader: more is written and stored, and what is
stored later is in the log and was not there at the last collection. -/
structure Later (tail later : Tail stamp) : Prop where
  written : tail.written <+: later.written
  start : tail.start ≤ later.start
  seen : tail.seen ≤ later.seen
  stored : ∃ more, later.stored = tail.stored ++ more ∧
    ∀ position ∈ more, tail.seen ≤ position ∧ tail.start ≤ position

theorem Later.refl : Later tail tail where
  written := List.prefix_rfl
  start := le_rfl
  seen := le_rfl
  stored := ⟨[], by simp⟩

variable {tail}

theorem Later.trans {middle later : Tail stamp} (first : Later tail middle)
    (second : Later middle later) : Later tail later where
  written := first.written.trans second.written
  start := le_trans first.start second.start
  seen := le_trans first.seen second.seen
  stored := by
    obtain ⟨more, stored, fresh⟩ := first.stored
    obtain ⟨most, storedLater, freshLater⟩ := second.stored
    refine ⟨more ++ most, by rw [storedLater, stored, List.append_assoc], ?_⟩
    rw [List.forall_mem_append]
    refine ⟨fresh, fun position member => ?_⟩
    obtain ⟨unseen, inside⟩ := freshLater position member
    exact ⟨le_trans first.seen unseen, le_trans first.start inside⟩

/-- About a record that was there at the last collection nothing is decided
later. -/
theorem Later.mem_stored_iff {later : Tail stamp} (after : Later tail later) {position : ℕ}
    (decided : position < tail.seen) : position ∈ later.stored ↔ position ∈ tail.stored := by
  obtain ⟨more, stored, fresh⟩ := after.stored
  rw [stored, List.mem_append]
  refine or_iff_left fun member => ?_
  exact absurd (fresh position member).1 (Nat.not_le.mpr decided)

/-- What is stored is in the log when it is. -/
theorem Later.start_le {later : Tail stamp} (after : Later tail later)
    (none : tail.stored = []) {position : ℕ} (member : position ∈ later.stored) :
    tail.start ≤ position := by
  obtain ⟨more, stored, fresh⟩ := after.stored
  rw [stored, none, List.nil_append] at member
  exact (fresh position member).2

variable (tail)

theorem later_append (record : Record) : Later tail (tail.append record) where
  written := List.prefix_append _ _
  start := le_rfl
  seen := le_rfl
  stored := ⟨[], by simp [append]⟩

theorem later_forget (count : ℕ) : Later tail (tail.forget count) where
  written := List.prefix_rfl
  start := le_min (Nat.le_add_right _ _) tail.start_le
  seen := le_rfl
  stored := ⟨[], by simp [forget]⟩

/-! ### Collecting -/

/-- The cursor after the newest records are read. -/
def advanced (count : ℕ) : Cursor :=
  advance stamp tail.cursor (tail.written.drop (tail.written.length - count))

theorem stamp_le_advanced {tail : Tail stamp} {count position : ℕ} {record : Record}
    (read : tail.written.length - count ≤ position)
    (found : record ∈ tail.written[position]?) : stamp record ≤ tail.advanced count := by
  obtain ⟨bound, same⟩ := List.getElem?_eq_some_iff.mp found
  refine stamp_le_advance _ (List.mem_drop_iff_getElem.mpr
    ⟨position - (tail.written.length - count), by omega, ?_⟩)
  rw [← same]
  congr 1
  omega

variable [DecidableLE Cursor]

/-- The records a collection meets. -/
def unread : List Record := LogTail.unread stamp tail.cursor tail.log

theorem unread_length_le : tail.unread.length ≤ tail.written.length - tail.start := by
  have fits := (unread_suffix stamp tail.cursor tail.log).length_le
  rwa [log, List.length_drop] at fits

/-- Nothing that was there at the last collection is met again. -/
theorem unread_length_le_fresh : tail.unread.length ≤ tail.written.length - tail.seen := by
  rcases Nat.lt_or_ge tail.start tail.seen with inside | outside
  · have bound := tail.seen_le
    have last : tail.seen - 1 < tail.written.length := by omega
    have split : tail.log = (tail.written.drop tail.start).take (tail.seen - tail.start) ++
        tail.written.drop tail.seen := by
      rw [log, ← List.take_append_drop (tail.seen - tail.start)
        (tail.written.drop tail.start), List.drop_drop]
      congr 2
      · simp
      · omega
    have newest : ∀ record ∈
        ((tail.written.drop tail.start).take (tail.seen - tail.start)).getLast?,
        stamp record ≤ tail.cursor := by
      intro record final
      refine tail.seam inside record ?_
      rw [List.getLast?_eq_getElem?, List.length_take, List.length_drop,
        Nat.min_eq_left (by omega), List.getElem?_take, if_pos (by omega),
        List.getElem?_drop] at final
      rwa [show tail.start + (tail.seen - tail.start - 1) = tail.seen - 1 by omega] at final
    have fits := (unread_suffix stamp tail.cursor (tail.written.drop tail.seen)).length_le
    rw [unread, split, unread_append_of_covered _ newest]
    rwa [List.length_drop] at fits
  · exact le_trans tail.unread_length_le (by omega)

variable {tail}

/-- The newest record is covered after a collection, and was covered before if
there was nothing to read. -/
theorem newest_le_advanced {count : ℕ} {record : Record}
    (newest : tail.unread ≠ [] → 0 < count) (inside : tail.start < tail.written.length)
    (found : record ∈ tail.written[tail.written.length - 1]?) :
    stamp record ≤ tail.advanced count := by
  by_cases none : tail.unread = []
  · have final : tail.log.getLast? = some record := by
      rw [log, List.getLast?_drop, if_neg (by omega), List.getLast?_eq_getElem?]
      exact found
    obtain ⟨rest, whole⟩ := List.getLast?_eq_some_iff.mp final
    refine le_trans ?_ (le_advance _ _)
    by_contra new
    rw [unread, whole, unread_concat_new rest new] at none
    simp at none
  · have some := newest none
    exact stamp_le_advanced (by omega) found

variable (tail)

/-- The newest unread records are stored. -/
def collect (count : ℕ) (within : count ≤ tail.unread.length)
    (newest : tail.unread ≠ [] → 0 < count) : Tail stamp where
  written := tail.written
  start := tail.start
  seen := tail.written.length
  stored := tail.stored ++ List.range' (tail.written.length - count) count
  cursor := tail.advanced count
  start_le := tail.start_le
  seen_le := le_rfl
  ascending := by
    refine List.pairwise_append.mpr ⟨tail.ascending, List.pairwise_lt_range', ?_⟩
    intro old oldMember new newMember
    have before := tail.stored_lt old oldMember
    have fresh := tail.unread_length_le_fresh
    have bound := tail.seen_le
    have after := (List.mem_range'_1.mp newMember).1
    omega
  stored_lt := by
    intro position member
    rcases List.mem_append.mp member with old | new
    · exact lt_of_lt_of_le (tail.stored_lt position old) tail.seen_le
    · have bound := le_trans within tail.unread_length_le
      have inside := List.mem_range'_1.mp new
      omega
  covered := by
    intro position member record found
    rcases List.mem_append.mp member with old | new
    · exact le_trans (tail.covered position old record found) (le_advance _ _)
    · exact stamp_le_advanced (List.mem_range'_1.mp new).1 found
  seam := fun inside _ found => newest_le_advanced newest inside found

/-- Everything unread is stored. -/
def collectAll : Tail stamp :=
  tail.collect tail.unread.length le_rfl List.length_pos_of_ne_nil

/-- **A record in the log is stored by a complete collection exactly when no
record from it on is covered.** -/
theorem mem_collectAll {position : ℕ} (kept : tail.start ≤ position)
    (within : position < tail.written.length) :
    position ∈ tail.collectAll.stored ↔ position ∈ tail.stored ∨
      ∀ record ∈ tail.written.drop position, ¬ stamp record ≤ tail.cursor := by
  have inside : position - tail.start ≤ tail.log.length := by
    rw [log, List.length_drop]
    omega
  have reach := length_sub_unread_le_iff stamp tail.cursor tail.log inside
  have bound := tail.unread_length_le
  have length : tail.log.length = tail.written.length - tail.start := List.length_drop
  have rest : tail.log.drop (position - tail.start) = tail.written.drop position := by
    rw [log, List.drop_drop, Nat.add_sub_cancel' kept]
  rw [length, rest] at reach
  have stored : position ∈ List.range' (tail.written.length - tail.unread.length)
      tail.unread.length ↔
      tail.written.length - tail.start - tail.unread.length ≤ position - tail.start := by
    rw [List.mem_range'_1]
    omega
  have whole : tail.collectAll.stored = tail.stored ++
      List.range' (tail.written.length - tail.unread.length) tail.unread.length := rfl
  rw [whole, List.mem_append, stored, ← reach]
  rfl

theorem later_collect {count : ℕ} (within : count ≤ tail.unread.length)
    (newest : tail.unread ≠ [] → 0 < count) : Later tail (tail.collect count within newest) where
  written := List.prefix_rfl
  start := le_rfl
  seen := tail.seen_le
  stored := by
    refine ⟨_, rfl, fun position member => ?_⟩
    have inside := tail.unread_length_le
    have fresh := tail.unread_length_le_fresh
    have bound := tail.seen_le
    have begun := tail.start_le
    have after := (List.mem_range'_1.mp member).1
    omega

end Tail

end LogTail
