import PcDiagnosticAgent.Library.Runs
import Mathlib.Algebra.Order.BigOperators.Group.List
import Mathlib.Algebra.Order.Ring.Nat

/-!
# One connection with an implicit transaction

All operations share a connection. A statement changes what the connection sees;
the disk follows at the next commit. An operation attempts its statements in
order and commits at the end, so an operation that raises leaves its changes
pending, and the next commit of any operation takes them along.

When the changes of an operation can be counted, a failed operation stays unseen
exactly when it changed nothing before it raised or nothing is committed after
it (`failed_unseen_iff`).
-/

set_option autoImplicit false

namespace Transactions

universe u v

variable {Store : Type u} {Change : Type v}

/-- What is on disk and what the connection sees. -/
structure Connection (Store : Type u) where
  disk : Store
  working : Store

def Connection.commit (connection : Connection Store) : Connection Store :=
  { connection with disk := connection.working }

/-- One statement of an operation: it changes something, its error is handled
on the spot, or its error leaves the operation. -/
inductive Attempt (Change : Type v) where
  | stores (change : Change)
  | skips
  | raises

/-- An operation: its statements, and whether it commits after them. -/
structure Operation (Change : Type v) where
  attempts : List (Attempt Change)
  commits : Bool

/-- The changes that are made before an error leaves the operation. -/
def stored : List (Attempt Change) → List Change
  | [] => []
  | .stores change :: rest => change :: stored rest
  | .skips :: rest => stored rest
  | .raises :: _ => []

/-- Some error leaves the operation. -/
def fails : List (Attempt Change) → Bool
  | [] => false
  | .stores _ :: rest => fails rest
  | .skips :: rest => fails rest
  | .raises :: _ => true

/-- The operation gets to its commit. -/
def Operation.completes (op : Operation Change) : Bool := op.commits && !fails op.attempts

section Run

variable (apply : Store → Change → Store)

def Operation.run (connection : Connection Store) (op : Operation Change) : Connection Store :=
  let working := (stored op.attempts).foldl apply connection.working
  { disk := if op.completes then working else connection.disk, working }

/-- Run operations in order. -/
def runAll (connection : Connection Store) (ops : List (Operation Change)) : Connection Store :=
  Runs.run (Operation.run apply) connection ops

end Run

/-! ## Attempts in sequence -/

section Append

variable {first second : List (Attempt Change)}

theorem fails_append : fails (first ++ second) = (fails first || fails second) := by
  induction first with
  | nil => rfl
  | cons attempt rest ih => cases attempt <;> simp [fails, ih]

/-- What follows an error is not attempted. -/
theorem stored_append_of_fails (failed : fails first = true) :
    stored (first ++ second) = stored first := by
  induction first with
  | nil => cases failed
  | cons attempt rest ih =>
    cases attempt with
    | stores change => exact congrArg (change :: ·) (ih failed)
    | skips => exact ih failed
    | raises => rfl

theorem stored_append (completed : fails first = false) :
    stored (first ++ second) = stored first ++ stored second := by
  induction first with
  | nil => rfl
  | cons attempt rest ih =>
    cases attempt with
    | stores change => exact congrArg (change :: ·) (ih completed)
    | skips => exact ih completed
    | raises => cases completed

end Append

theorem fails_iff {attempts : List (Attempt Change)} :
    fails attempts = true ↔ .raises ∈ attempts := by
  induction attempts with
  | nil => simp [fails]
  | cons attempt rest ih => cases attempt <;> simp [fails, ih]

/-- What is stored is the change of an attempt. -/
theorem mem_stored {attempts : List (Attempt Change)} {change : Change}
    (member : change ∈ stored attempts) : .stores change ∈ attempts := by
  induction attempts with
  | nil => cases member
  | cons attempt attempts ih =>
    cases attempt with
    | stores first =>
      rcases List.mem_cons.mp member with rfl | later
      · exact List.mem_cons_self
      · exact List.mem_cons_of_mem _ (ih later)
    | skips => exact List.mem_cons_of_mem _ (ih member)
    | raises => cases member

def Attempt.change? : Attempt Change → Option Change
  | .stores change => some change
  | .skips => none
  | .raises => none

/-- Without an error, every change is made. -/
theorem stored_of_completed {attempts : List (Attempt Change)}
    (completed : fails attempts = false) :
    stored attempts = attempts.filterMap Attempt.change? := by
  induction attempts with
  | nil => rfl
  | cons attempt rest ih =>
    cases attempt with
    | stores change => exact congrArg (change :: ·) (ih completed)
    | skips => exact ih completed
    | raises => cases completed

/-- Nothing is stored exactly when every statement that would store something
comes after one that raises. -/
theorem stored_eq_nil_iff {attempts : List (Attempt Change)} :
    stored attempts = [] ↔ ∀ done change rest, attempts = done ++ .stores change :: rest →
      fails done = true := by
  induction attempts with
  | nil => simp [stored]
  | cons attempt attempts ih =>
    cases attempt with
    | stores change =>
      refine iff_of_false (by simp [stored]) fun late => ?_
      cases late [] change attempts rfl
    | skips =>
      rw [stored, ih]
      constructor
      · rintro late (_ | ⟨first, done⟩) change rest split
        · cases split
        · obtain ⟨rfl, remaining⟩ := List.cons.inj split
          exact late done change rest remaining
      · exact fun late done change rest split =>
          late (.skips :: done) change rest (congrArg (.skips :: ·) split)
    | raises =>
      refine iff_of_true rfl ?_
      rintro (_ | ⟨first, done⟩) change rest split
      · cases split
      · obtain ⟨rfl, -⟩ := List.cons.inj split
        rfl

/-! ## Failed operations -/

section Failed

variable {apply : Store → Change → Store}

/-- Nothing reaches the disk without a commit. -/
theorem runAll_disk_of_no_commit {ops : List (Operation Change)}
    (uncommitted : ∀ op ∈ ops, op.completes = false) (connection : Connection Store) :
    (runAll apply connection ops).disk = connection.disk := by
  refine Runs.run_unchanged Connection.disk (fun state op incomplete => ?_) connection uncommitted
  simp only [Operation.run, incomplete, Bool.false_eq_true, if_false]

variable {size : Store → ℕ} {gain : Change → ℕ}
  (grows : ∀ store change, size (apply store change) = size store + gain change)

include grows

theorem size_foldl (changes : List Change) (store : Store) :
    size (changes.foldl apply store) = size store + (changes.map gain).sum := by
  induction changes generalizing store with
  | nil => rfl
  | cons change rest ih =>
    rw [List.foldl_cons, ih, grows, List.map_cons, List.sum_cons, Nat.add_assoc]

/-- A difference in size is kept by every operation, and a commit takes it to
the disk. -/
theorem size_runAll {first second : Connection Store} {ops : List (Operation Change)} {ahead : ℕ}
    (working : size first.working = size second.working + ahead)
    (disk : size first.disk = size second.disk + ahead ∨ ∃ op ∈ ops, op.completes = true) :
    size (runAll apply first ops).disk = size (runAll apply second ops).disk + ahead := by
  induction ops generalizing first second with
  | nil =>
    rcases disk with disk | ⟨op, member, -⟩
    · exact disk
    · cases member
  | cons op ops ih =>
    have next : size (op.run apply first).working = size (op.run apply second).working + ahead := by
      simp only [Operation.run, size_foldl grows, working]
      omega
    refine ih next ?_
    cases completed : op.completes with
    | true =>
      refine .inl ?_
      simp only [Operation.run, completed, if_true] at next ⊢
      exact next
    | false =>
      rcases disk with disk | ⟨other, member, completes⟩
      · refine .inl ?_
        simpa only [Operation.run, completed, Bool.false_eq_true, if_false] using disk
      · refine .inr ⟨other, (List.mem_cons.mp member).resolve_left ?_, completes⟩
        rintro rfl
        rw [completed] at completes
        cases completes

/-- **A failed operation stays unseen exactly when it changed nothing before it
raised or nothing is committed after it**, if some change of it counts. -/
theorem failed_unseen_iff {op : Operation Change} (failed : fails op.attempts = true)
    (counts : stored op.attempts ≠ [] → ∃ change ∈ stored op.attempts, 0 < gain change)
    (connection : Connection Store) (later : List (Operation Change)) :
    (runAll apply (op.run apply connection) later).disk = (runAll apply connection later).disk ↔
      stored op.attempts = [] ∨ ∀ other ∈ later, other.completes = false := by
  have incomplete : op.completes = false := by
    rw [Operation.completes, failed, Bool.not_true, Bool.and_false]
  constructor
  · intro unseen
    by_cases committed : ∃ other ∈ later, other.completes = true
    · refine .inl (by_contra fun some => ?_)
      obtain ⟨change, member, positive⟩ := counts some
      have ahead := @size_runAll _ _ apply size gain grows (op.run apply connection) connection
        later ((stored op.attempts).map gain).sum (size_foldl grows _ _) (.inr committed)
      have counted : gain change ≤ ((stored op.attempts).map gain).sum :=
        List.le_sum_of_mem (List.mem_map_of_mem member)
      rw [unseen] at ahead
      omega
    · refine .inr fun other member => ?_
      by_contra completes
      exact committed ⟨other, member, by simpa using completes⟩
  · rintro (nothing | uncommitted)
    · have same : op.run apply connection = connection := by
        simp only [Operation.run, nothing, incomplete, List.foldl_nil, Bool.false_eq_true, if_false]
      rw [same]
    · rw [runAll_disk_of_no_commit uncommitted, runAll_disk_of_no_commit uncommitted]
      simp only [Operation.run, incomplete, Bool.false_eq_true, if_false]

end Failed

end Transactions
