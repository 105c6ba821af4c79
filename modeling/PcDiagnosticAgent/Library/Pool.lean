import Mathlib.Data.List.Basic
import Mathlib.Order.Basic
import PcDiagnosticAgent.Library.Runs

/-!
# Processes that share a store

A pool is a store and the local states of the processes that work on it. A
process may join at any time, and the processes take their turns in any order: a
turn reads and writes the store and the local state of the process whose turn it
is.

What each process knows about the store (`Known`) is kept by the turns of the
others as long as the store only moves forward in a preorder. So an invariant of
the store and the knowledge of every process are proved turn by turn
(`Pool.Sound.run`), and the store of a later pool is ahead of that of an earlier
one. A process whose turns each leave it less to do has nothing left to do after
so many turns, whatever the others did in between (`Pool.left_run_le`), and what
its own turns keep holds of it throughout (`Pool.own_run`).
-/

set_option autoImplicit false

namespace Pools

universe u v w

variable {Store : Type u} {Local : Type v} {Act : Type w}

/-- A store and the processes that work on it. -/
structure Pool (Store : Type u) (Local : Type v) where
  store : Store
  locals : List Local

/-- A process joins, or one of them takes a turn. -/
inductive Move (Local : Type v) (Act : Type w) where
  | joins (fresh : Local)
  | takes (index : ℕ) (act : Act)
deriving DecidableEq

variable (turn : Act → Store → Local → Store × Local)

def Pool.step (pool : Pool Store Local) : Move Local Act → Pool Store Local
  | .joins fresh => { pool with locals := pool.locals ++ [fresh] }
  | .takes index act =>
    match pool.locals[index]? with
    | none => pool
    | some own =>
      let (store, next) := turn act pool.store own
      { store, locals := pool.locals.set index next }

/-! ## What processes know -/

section Knowledge

/-- The invariant of the store holds, and what each process knows is true. -/
structure Pool.Sound (invariant : Store → Prop) (Known : Store → Local → Prop)
    (pool : Pool Store Local) : Prop where
  store : invariant pool.store
  known : ∀ own ∈ pool.locals, Known pool.store own

variable [Preorder Store] {invariant : Store → Prop} {Known : Store → Local → Prop}
  {turn : Act → Store → Local → Store × Local}
  (kept : ∀ act store own, invariant store → Known store own →
    invariant (turn act store own).1 ∧ Known (turn act store own).1 (turn act store own).2 ∧
      store ≤ (turn act store own).1)
  (stable : ∀ before after own, before ≤ after → Known before own → Known after own)
include kept stable

/-- **A turn keeps the knowledge of every process and moves the store forward.** -/
theorem Pool.Sound.step {pool : Pool Store Local} (sound : pool.Sound invariant Known)
    {move : Move Local Act} (joining : ∀ fresh, move = .joins fresh →
      ∀ store, invariant store → Known store fresh) :
    (pool.step turn move).Sound invariant Known ∧ pool.store ≤ (pool.step turn move).store := by
  cases move with
  | joins fresh =>
    refine ⟨⟨sound.store, fun own member => ?_⟩, le_refl _⟩
    rcases List.mem_append.mp member with before | new
    · exact sound.known own before
    · rw [List.mem_singleton.mp new]
      exact joining fresh rfl _ sound.store
  | takes index act =>
    cases found : pool.locals[index]? with
    | none =>
      have same : pool.step turn (.takes index act) = pool := by simp [Pool.step, found]
      rw [same]
      exact ⟨sound, le_refl _⟩
    | some own =>
      have result : pool.step turn (.takes index act) =
          { store := (turn act pool.store own).1
            locals := pool.locals.set index (turn act pool.store own).2 } := by
        simp [Pool.step, found]
      obtain ⟨store, known, forward⟩ :=
        kept act pool.store own sound.store (sound.known own (List.mem_of_getElem? found))
      rw [result]
      refine ⟨⟨store, fun other member => ?_⟩, forward⟩
      rcases List.mem_or_eq_of_mem_set member with before | rfl
      · exact stable _ _ other forward (sound.known other before)
      · exact known

/-- **After every interleaving the invariant holds, what each process knows is
true, and the store has moved forward.** -/
theorem Pool.Sound.run {pool : Pool Store Local} (sound : pool.Sound invariant Known)
    {moves : List (Move Local Act)} (joining : ∀ fresh, .joins fresh ∈ moves →
      ∀ store, invariant store → Known store fresh) :
    (Runs.run (Pool.step turn) pool moves).Sound invariant Known ∧
      pool.store ≤ (Runs.run (Pool.step turn) pool moves).store := by
  induction moves generalizing pool with
  | nil => exact ⟨sound, le_refl _⟩
  | cons move moves ih =>
    have first : ∀ fresh, move = .joins fresh → ∀ store, invariant store → Known store fresh :=
      fun fresh same => joining fresh (same ▸ List.mem_cons_self)
    obtain ⟨next, forward⟩ := sound.step kept stable first
    obtain ⟨last, later⟩ := ih next fun fresh member =>
      joining fresh (List.mem_cons_of_mem _ member)
    exact ⟨last, le_trans forward later⟩

end Knowledge

/-! ## Processes that finish -/

section Progress

/-- What the process at a place has left to do; nothing when there is none. -/
def Pool.left (todo : Local → ℕ) (index : ℕ) (pool : Pool Store Local) : ℕ :=
  (pool.locals[index]?.map todo).getD 0

/-- The move is a turn of the process at a place, with an act that lets it work. -/
def Move.Works (working : Act → Prop) (index : ℕ) : Move Local Act → Prop
  | .joins _ => False
  | .takes turnOf act => turnOf = index ∧ working act

instance (working : Act → Prop) [DecidablePred working] (index : ℕ) (move : Move Local Act) :
    Decidable (move.Works working index) :=
  match move with
  | .joins _ => isFalse id
  | .takes turnOf act => inferInstanceAs (Decidable (turnOf = index ∧ working act))

variable {turn} {todo : Local → ℕ} {index : ℕ}

theorem Pool.length_locals_step (pool : Pool Store Local) (move : Move Local Act) :
    pool.locals.length ≤ (pool.step turn move).locals.length := by
  cases move with
  | joins fresh => simp [Pool.step]
  | takes index act =>
    cases found : pool.locals[index]? with
    | none => simp [Pool.step, found]
    | some own => simp [Pool.step, found]

theorem Pool.length_locals_run (pool : Pool Store Local) (moves : List (Move Local Act)) :
    pool.locals.length ≤ (Runs.run (Pool.step turn) pool moves).locals.length := by
  induction moves generalizing pool with
  | nil => exact Nat.le_refl _
  | cons move moves ih => exact Nat.le_trans (pool.length_locals_step move) (ih _)

theorem Pool.left_takes {pool : Pool Store Local} (inside : index < pool.locals.length)
    (act : Act) :
    (pool.step turn (.takes index act)).left todo index =
      todo (turn act pool.store pool.locals[index]).2 := by
  have found : pool.locals[index]? = some pool.locals[index] := List.getElem?_eq_getElem inside
  simp only [Pool.step, found, Pool.left, List.getElem?_set_self inside, Option.map_some,
    Option.getD_some]

/-- What is left to a process changes by its own turns only. -/
theorem Pool.left_step {pool : Pool Store Local} (inside : index < pool.locals.length)
    {move : Move Local Act} (other : ∀ act, move ≠ .takes index act) :
    (pool.step turn move).left todo index = pool.left todo index := by
  cases move with
  | joins fresh => simp only [Pool.left, Pool.step, List.getElem?_append_left inside]
  | takes turnOf act =>
    have different : turnOf ≠ index := fun same => other act (same ▸ rfl)
    cases found : pool.locals[turnOf]? with
    | none => simp [Pool.step, found, Pool.left]
    | some own => simp [Pool.step, found, Pool.left, List.getElem?_set_ne different]

/-- **A process whose turns leave it less to do is done after so many of them.** -/
theorem Pool.left_run_le (working : Act → Prop) [DecidablePred working]
    (kept : ∀ act store own, todo (turn act store own).2 ≤ todo own)
    (lowered : ∀ act store own, working act → todo (turn act store own).2 ≤ todo own - 1)
    {pool : Pool Store Local} (inside : index < pool.locals.length)
    (moves : List (Move Local Act)) :
    (Runs.run (Pool.step turn) pool moves).left todo index ≤
      pool.left todo index - moves.countP fun move => move.Works working index := by
  refine Runs.run_measure_le (Pool.step turn) (fun pool => index < pool.locals.length)
    (fun pool => pool.left todo index) (fun move => move.Works working index)
    (fun pool move inside => Nat.lt_of_lt_of_le inside (pool.length_locals_step move))
    (fun pool move inside => ?_) (fun pool move inside works => ?_) pool inside moves
  · by_cases own : ∃ act, move = .takes index act
    · obtain ⟨act, rfl⟩ := own
      rw [Pool.left_takes inside, Pool.left, List.getElem?_eq_getElem inside]
      exact kept act pool.store _
    · exact Nat.le_of_eq (Pool.left_step inside fun act same => own ⟨act, same⟩)
  · cases move with
    | joins fresh => cases works
    | takes turnOf act =>
      obtain ⟨rfl, isWorking⟩ := works
      rw [Pool.left_takes inside, Pool.left, List.getElem?_eq_getElem inside]
      exact lowered act pool.store _ isWorking

/-- **What a process keeps in every turn of its own, it keeps in every
interleaving.** -/
theorem Pool.own_run {allowed : Act → Prop} {property : Local → Prop}
    (kept : ∀ act store own, allowed act → property own → property (turn act store own).2)
    {pool : Pool Store Local} {own last : Local} (start : pool.locals[index]? = some own)
    (holds : property own) {moves : List (Move Local Act)}
    (all : ∀ act, .takes index act ∈ moves → allowed act)
    (found : (Runs.run (Pool.step turn) pool moves).locals[index]? = some last) :
    property last := by
  induction moves generalizing pool own with
  | nil => exact Option.some.inj (start.symm.trans found) ▸ holds
  | cons move moves ih =>
    have rest : ∀ act, .takes index act ∈ moves → allowed act :=
      fun act member => all act (List.mem_cons_of_mem _ member)
    have inside : index < pool.locals.length := (List.getElem?_eq_some_iff.mp start).1
    cases move with
    | joins fresh =>
      exact ih ((List.getElem?_append_left inside).trans start) holds rest found
    | takes turnOf act =>
      cases turned : pool.locals[turnOf]? with
      | none =>
        have same : pool.step turn (.takes turnOf act) = pool := by simp [Pool.step, turned]
        rw [Runs.run_cons, same] at found
        exact ih start holds rest found
      | some other =>
        have result : (pool.step turn (.takes turnOf act)).locals =
            pool.locals.set turnOf (turn act pool.store other).2 := by
          simp [Pool.step, turned]
        by_cases isOwn : turnOf = index
        · subst isOwn
          obtain rfl := Option.some.inj (start.symm.trans turned)
          have next := kept act pool.store own (all act List.mem_cons_self) holds
          exact ih (by rw [result, List.getElem?_set_self inside]) next rest found
        · exact ih (by rw [result, List.getElem?_set_ne isOwn, start]) holds rest found

end Progress

end Pools
