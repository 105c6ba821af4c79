import Mathlib.Data.List.Basic

/-!
# Runs of a deterministic step

A deterministic system takes a state and an operation to the next state. A
run applies a list of operations; the trace of a system that also answers each
operation collects the answers.

An invariant that every allowed operation preserves holds at the end of every
run of allowed operations (`run_invariant`). Where it depends on the state
whether an operation is allowed, the run is `Guarded` and the invariant rule is
`Guarded.invariant`. A measure that operations lower bounds how many of them a run
needs to get somewhere (`run_measure_le`).

Facts about the answers need to know what the remaining operations are: a state
is ready for them when it and they fit together. What the next answer of a
ready state satisfies, every answer of the run does (`trace_forall`). A relation
between any two answers is decided answer by answer (`trace_pairwise_iff`), and
so is a bound on a count that operations raise by one (`trace_count_le_iff`).
-/

set_option autoImplicit false

namespace Runs

universe u v w

variable {State : Type u} {Op : Type v} {Answer : Type w}

/-- Apply the operations in order. -/
def run (step : State → Op → State) (state : State) (ops : List Op) : State :=
  ops.foldl step state

@[simp] theorem run_nil (step : State → Op → State) (state : State) :
    run step state [] = state := rfl

@[simp] theorem run_cons (step : State → Op → State) (state : State) (op : Op)
    (ops : List Op) : run step state (op :: ops) = run step (step state op) ops := rfl

/-- **An invariant of every allowed operation holds after every run of allowed
operations.** -/
theorem run_invariant {step : State → Op → State} (invariant : State → Prop)
    {allowed : Op → Prop}
    (preserved : ∀ state op, allowed op → invariant state → invariant (step state op))
    {state : State} (initial : invariant state) {ops : List Op}
    (all : ∀ op ∈ ops, allowed op) : invariant (run step state ops) := by
  induction ops generalizing state with
  | nil => exact initial
  | cons op ops ih =>
    exact ih (preserved state op (all op (by simp)) initial)
      fun later member => all later (List.mem_cons_of_mem _ member)

/-- What no allowed operation changes, no run of allowed operations changes. -/
theorem run_unchanged {Seen : Type w} {step : State → Op → State} (observe : State → Seen)
    {allowed : Op → Prop}
    (unchanged : ∀ state op, allowed op → observe (step state op) = observe state)
    (state : State) {ops : List Op} (all : ∀ op ∈ ops, allowed op) :
    observe (run step state ops) = observe state :=
  run_invariant (fun later => observe later = observe state)
    (fun later op legal same => (unchanged later op legal).trans same) rfl all

theorem run_append (step : State → Op → State) (state : State) (first second : List Op) :
    run step state (first ++ second) = run step (run step state first) second :=
  List.foldl_append

/-- **A measure that no operation raises, and some operations lower, goes down
with each of these operations until it is zero.** -/
theorem run_measure_le (step : State → Op → State) (invariant : State → Prop)
    (measure : State → ℕ) (lowers : Op → Prop) [DecidablePred lowers]
    (preserved : ∀ state op, invariant state → invariant (step state op))
    (kept : ∀ state op, invariant state → measure (step state op) ≤ measure state)
    (lowered : ∀ state op, invariant state → lowers op →
      measure (step state op) ≤ measure state - 1)
    (state : State) (initial : invariant state) (ops : List Op) :
    measure (run step state ops) ≤ measure state - ops.countP fun op => lowers op := by
  induction ops generalizing state with
  | nil => simp
  | cons op ops ih =>
    have rest := ih (step state op) (preserved state op initial)
    rw [run_cons]
    by_cases lowering : lowers op
    · have one := lowered state op initial lowering
      rw [List.countP_cons_of_pos (by simpa using lowering)]
      omega
    · have same := kept state op initial
      rw [List.countP_cons_of_neg (by simpa using lowering)]
      omega

/-! ## Guarded runs -/

section Guards

variable {step : State → Op → State} {allowed : State → Op → Prop}

/-- Every operation of the run is allowed in the state that it meets. -/
def Guarded (step : State → Op → State) (allowed : State → Op → Prop) :
    State → List Op → Prop
  | _, [] => True
  | state, op :: ops => allowed state op ∧ Guarded step allowed (step state op) ops

instance decidableGuarded [∀ state op, Decidable (allowed state op)] :
    ∀ (state : State) (ops : List Op), Decidable (Guarded step allowed state ops)
  | _, [] => inferInstanceAs (Decidable True)
  | state, op :: ops =>
    have := decidableGuarded (step state op) ops
    inferInstanceAs (Decidable (allowed state op ∧ Guarded step allowed (step state op) ops))

@[simp] theorem guarded_nil (state : State) : Guarded step allowed state [] := trivial

@[simp] theorem guarded_cons {state : State} {op : Op} {ops : List Op} :
    Guarded step allowed state (op :: ops) ↔
      allowed state op ∧ Guarded step allowed (step state op) ops := Iff.rfl

theorem guarded_append {state : State} {first second : List Op} :
    Guarded step allowed state (first ++ second) ↔
      Guarded step allowed state first ∧ Guarded step allowed (run step state first) second := by
  induction first generalizing state with
  | nil => simp
  | cons op ops ih => simp [ih, and_assoc]

theorem Guarded.mono {other : State → Op → Prop}
    (weaker : ∀ state op, allowed state op → other state op) {state : State} {ops : List Op}
    (guarded : Guarded step allowed state ops) : Guarded step other state ops := by
  induction ops generalizing state with
  | nil => trivial
  | cons op ops ih => exact ⟨weaker state op guarded.1, ih guarded.2⟩

theorem Guarded.of_forall {also : Op → Prop} {state : State} {ops : List Op}
    (all : ∀ op ∈ ops, also op) : Guarded step (fun _ op => also op) state ops := by
  induction ops generalizing state with
  | nil => trivial
  | cons op ops ih =>
    obtain ⟨first, rest⟩ := List.forall_mem_cons.mp all
    exact ⟨first, ih rest⟩

theorem Guarded.and {other : State → Op → Prop} {state : State} {ops : List Op}
    (guarded : Guarded step allowed state ops) (also : Guarded step other state ops) :
    Guarded step (fun state op => allowed state op ∧ other state op) state ops := by
  induction ops generalizing state with
  | nil => trivial
  | cons op ops ih => exact ⟨⟨guarded.1, also.1⟩, ih guarded.2 also.2⟩

/-- **A run is guarded exactly when every operation is allowed where it comes.** -/
theorem guarded_iff {state : State} {ops : List Op} :
    Guarded step allowed state ops ↔
      ∀ done op rest, ops = done ++ op :: rest → allowed (run step state done) op := by
  constructor
  · rintro guarded done op rest rfl
    exact (guarded_append.mp guarded).2.1
  · intro each
    induction ops generalizing state with
    | nil => trivial
    | cons op ops ih =>
      refine ⟨each [] op ops rfl, ih fun done later rest split => ?_⟩
      exact each (op :: done) later rest (congrArg (op :: ·) split)

/-- **An invariant of every allowed operation holds after every guarded
run.** -/
theorem Guarded.invariant (holds : State → Prop)
    (preserved : ∀ state op, allowed state op → holds state → holds (step state op))
    {state : State} {ops : List Op} (guarded : Guarded step allowed state ops)
    (initial : holds state) : holds (run step state ops) := by
  induction ops generalizing state with
  | nil => exact initial
  | cons op ops ih => exact ih guarded.2 (preserved state op guarded.1 initial)

end Guards

/-- The answers to the operations, in order. -/
def trace (answer : State → Op → Answer) (next : Answer → State) :
    State → List Op → List Answer
  | _, [] => []
  | state, op :: ops => answer state op :: trace answer next (next (answer state op)) ops

@[simp] theorem trace_nil (answer : State → Op → Answer) (next : Answer → State)
    (state : State) : trace answer next state [] = [] := rfl

theorem trace_cons (answer : State → Op → Answer) (next : Answer → State) (state : State)
    (op : Op) (ops : List Op) :
    trace answer next state (op :: ops) =
      answer state op :: trace answer next (next (answer state op)) ops := rfl

section Traces

variable {answer : State → Op → Answer} {next : Answer → State}
  (ready : State → List Op → Prop)

/-- **What holds of the next answer whenever the state is ready for the
remaining operations holds of every answer of a run.** -/
theorem trace_forall {property : Answer → Prop}
    (step : ∀ state op ops, ready state (op :: ops) → ready (next (answer state op)) ops)
    (holds : ∀ state op ops, ready state (op :: ops) → property (answer state op))
    {state : State} {ops : List Op} (initial : ready state ops) :
    ∀ found ∈ trace answer next state ops, property found := by
  induction ops generalizing state with
  | nil => simp
  | cons op ops ih =>
    rw [trace_cons]
    intro found member
    rcases List.mem_cons.mp member with rfl | later
    · exact holds state op ops initial
    · exact ih (step state op ops initial) found later

/-- **A relation holds between any two answers of a run exactly when every
answer but the last meets a condition**, when an answer meets the condition
exactly if it is related to all later ones. -/
theorem trace_pairwise_iff {related : Answer → Answer → Prop} {condition : Answer → Prop}
    (step : ∀ state op ops, ready state (op :: ops) → ready (next (answer state op)) ops)
    (decided : ∀ state op other ops, ready state (op :: other :: ops) →
      ((∀ later ∈ trace answer next (next (answer state op)) (other :: ops),
        related (answer state op) later) ↔ condition (answer state op)))
    {state : State} {ops : List Op} (initial : ready state ops) :
    (trace answer next state ops).Pairwise related ↔
      ∀ found ∈ (trace answer next state ops).dropLast, condition found := by
  induction ops generalizing state with
  | nil => simp
  | cons op ops ih =>
    cases ops with
    | nil => simp [trace_cons]
    | cons other ops =>
      have rest := ih (step state op (other :: ops) initial)
      have first := decided state op other ops initial
      rw [trace_cons, List.pairwise_cons, first, rest, trace_cons, List.dropLast_cons_cons,
        List.forall_mem_cons]

/-- A count that operations only raise never goes down. -/
theorem count_le_run {count : State → ℕ}
    (step : ∀ state op ops, ready state (op :: ops) → ready (next (answer state op)) ops)
    (grows : ∀ state op ops, ready state (op :: ops) →
      count state ≤ count (next (answer state op)))
    {state : State} {ops : List Op} (initial : ready state ops) :
    count state ≤ count (run (fun state op => next (answer state op)) state ops) := by
  induction ops generalizing state with
  | nil => exact Nat.le_refl _
  | cons op ops ih =>
    exact Nat.le_trans (grows state op ops initial) (ih (step state op ops initial))

/-- **A count that some operations raise by one stays within a bound exactly
when no operation raises it at the bound.** -/
theorem trace_count_le_iff {count : State → ℕ} {raises full : Answer → Prop} {bound : ℕ}
    (step : ∀ state op ops, ready state (op :: ops) → ready (next (answer state op)) ops)
    (raised : ∀ state op ops, ready state (op :: ops) → raises (answer state op) →
      count (next (answer state op)) = count state + 1)
    (kept : ∀ state op ops, ready state (op :: ops) → ¬ raises (answer state op) →
      count (next (answer state op)) = count state)
    (filled : ∀ state op ops, ready state (op :: ops) →
      (full (answer state op) ↔ bound ≤ count state))
    {state : State} {ops : List Op} (initial : ready state ops) (within : count state ≤ bound) :
    count (run (fun state op => next (answer state op)) state ops) ≤ bound ↔
      ∀ found ∈ trace answer next state ops, full found → ¬ raises found := by
  have grows : ∀ state op ops, ready state (op :: ops) →
      count state ≤ count (next (answer state op)) := by
    intro state op ops fits
    by_cases raising : raises (answer state op)
    · exact (raised state op ops fits raising).symm ▸ Nat.le_succ _
    · exact (kept state op ops fits raising).symm ▸ Nat.le_refl _
  induction ops generalizing state with
  | nil => simpa using within
  | cons op ops ih =>
    have later := step state op ops initial
    rw [run_cons, trace_cons, List.forall_mem_cons, filled state op ops initial]
    by_cases raising : raises (answer state op)
    · have more := raised state op ops initial raising
      rcases Nat.lt_or_ge (count state) bound with room | filledUp
      · have rest := ih later (more.symm ▸ room)
        refine rest.trans ?_
        simp [Nat.not_le.mpr room]
      · -- past the bound the count never comes back
        have stays := count_le_run ready step grows later
        have beyond := Nat.lt_of_lt_of_le (Nat.lt_succ_of_le filledUp) (more ▸ stays)
        simp [filledUp, raising, Nat.not_le.mpr beyond]
    · have same := kept state op ops initial raising
      have rest := ih later (same.symm ▸ within)
      refine rest.trans ?_
      simp [raising]

end Traces

end Runs
