import Mathlib.Data.List.Forall2
import Mathlib.Data.Rat.Defs

/-!
# Python values

Values whose type nobody has checked: what a collector returns and what a
configuration file holds. A text is a sequence of code points, which may contain
surrogates; a float is a finite number, an infinity or no number.
-/

set_option autoImplicit false

namespace PcDiagnosticAgent

/-- The code points of a text. -/
abbrev PyStr := List ℕ

namespace PyStr

def ofString (text : String) : PyStr := text.toList.map Char.toNat

/-- UTF-8 has no encoding for surrogates. -/
def encodable (text : PyStr) : Bool := text.all fun code => code < 0xD800 || 0xDFFF < code

@[simp] theorem encodable_append (first second : PyStr) :
    (encodable (first ++ second)) = (encodable first && encodable second) := List.all_append

theorem encodable_iff {text : PyStr} :
    encodable text = true ↔ ∀ code ∈ text, code < 0xD800 ∨ 0xDFFF < code := by
  simp [encodable]

/-- A text without surrogates has an encoding. -/
@[simp] theorem encodable_ofString (text : String) : (ofString text).encodable = true := by
  rw [encodable_iff]
  intro code member
  obtain ⟨char, -, rfl⟩ := List.mem_map.mp member
  rcases char.valid with below | ⟨above, -⟩
  · exact .inl below
  · exact .inr above

theorem encodable_flatMap {Item : Type} (items : List Item) (piece : Item → PyStr) :
    encodable (items.flatMap piece) = true ↔ ∀ item ∈ items, (piece item).encodable = true := by
  simp only [encodable_iff, List.mem_flatMap, forall_exists_index, and_imp]
  exact ⟨fun every item member code inside => every code item member inside,
    fun every code item member inside => every item member code inside⟩

theorem encodable_intercalate {separator : PyStr} (plain : separator.encodable = true)
    (pieces : List PyStr) : encodable (separator.intercalate pieces) = true ↔
      ∀ piece ∈ pieces, piece.encodable = true := by
  induction pieces with
  | nil => simp [encodable]
  | cons piece pieces ih =>
    cases pieces with
    | nil => simp
    | cons next pieces =>
      rw [List.intercalate_cons_cons, encodable_append, encodable_append, plain, Bool.and_true,
        Bool.and_eq_true, ih]
      simp only [List.forall_mem_cons]

end PyStr

/-- A float. The two zeros are one value. -/
inductive PyFloat where
  | finite (value : ℚ)
  | infinite (negative : Bool)
  | nan
deriving DecidableEq, Repr

/-- A value. What is none of the built-in types named here is `other`; it cannot
be bound, called or compared with a number. -/
inductive PyValue where
  | none
  | bool (value : Bool)
  | int (value : ℤ)
  | float (value : PyFloat)
  | str (value : PyStr)
  | bytes (value : List UInt8)
  | list (items : List PyValue)
  | dict (items : List (PyValue × PyValue))
  | other
deriving Repr

/-- An exception, as far as the handlers tell them apart. -/
inductive PyError where
  | sqlite
  | os
  | yaml
  | other
deriving DecidableEq, Repr

theorem ok_bind {First Second : Type} (value : First) (next : First → Except PyError Second) :
    (Except.ok value >>= next) = next value := rfl

theorem bind_ok_iff {First Second : Type} {first : Except PyError First}
    {next : First → Except PyError Second} {result : Second} :
    (first >>= next) = .ok result ↔ ∃ value, first = .ok value ∧ next value = .ok result := by
  constructor
  · intro done
    cases first with
    | ok value => exact ⟨value, rfl, done⟩
    | error error => cases done
  · rintro ⟨value, rfl, done⟩
    exact done

/-- Nothing is raised. -/
def Succeeds {Result : Type} (answer : Except PyError Result) : Prop :=
  ∃ result, answer = .ok result

instance {Result : Type} (answer : Except PyError Result) : Decidable (Succeeds answer) :=
  match answer with
  | .ok result => .isTrue ⟨result, rfl⟩
  | .error _ => .isFalse fun succeeds => by
    obtain ⟨result, reached⟩ := succeeds
    cases reached

theorem Succeeds.bind {First Second : Type} {first : Except PyError First}
    {next : First → Except PyError Second} (succeeds : Succeeds first)
    (onward : ∀ value, first = .ok value → Succeeds (next value)) : Succeeds (first >>= next) := by
  obtain ⟨value, rfl⟩ := succeeds
  exact onward value rfl

/-- What comes first succeeds as well. -/
theorem Succeeds.first {First Second : Type} {first : Except PyError First}
    {next : First → Except PyError Second} (succeeds : Succeeds (first >>= next)) :
    Succeeds first := by
  obtain ⟨result, done⟩ := succeeds
  obtain ⟨value, reached, -⟩ := bind_ok_iff.mp done
  exact ⟨value, reached⟩

theorem Succeeds.next {First Second : Type} {first : Except PyError First}
    {next : First → Except PyError Second} (succeeds : Succeeds (first >>= next)) {value : First}
    (reached : first = .ok value) : Succeeds (next value) := by
  subst reached
  exact succeeds

/-- A sequence returns when both of its parts do. -/
theorem Succeeds.bind_iff {First Second : Type} {first : Except PyError First}
    {next : First → Except PyError Second} :
    Succeeds (first >>= next) ↔ ∃ value, first = .ok value ∧ Succeeds (next value) := by
  constructor
  · intro succeeds
    obtain ⟨value, reached⟩ := succeeds.first
    exact ⟨value, reached, succeeds.next reached⟩
  · rintro ⟨value, rfl, succeeds⟩
    exact succeeds

/-- A loop that raises nothing has the result of every step. -/
theorem mapM_ok_iff {First Second : Type} {step : First → Except PyError Second}
    {items : List First} {results : List Second} : items.mapM step = .ok results ↔
      List.Forall₂ (fun item result => step item = .ok result) items results := by
  induction items generalizing results with
  | nil =>
    rw [List.mapM_nil, List.forall₂_nil_left_iff]
    exact ⟨fun same => (Except.ok.inj same).symm, fun same => congrArg Except.ok same.symm⟩
  | cons item items ih =>
    rw [List.mapM_cons, bind_ok_iff, List.forall₂_cons_left_iff]
    constructor
    · rintro ⟨result, first, rest⟩
      obtain ⟨others, later, same⟩ := bind_ok_iff.mp rest
      exact ⟨result, others, first, ih.mp later, (Except.ok.inj same).symm⟩
    · rintro ⟨result, others, first, later, rfl⟩
      exact ⟨result, first, bind_ok_iff.mpr ⟨others, ih.mpr later, rfl⟩⟩

/-- What a loop gathers comes from its items. -/
theorem exists_of_mem_mapM {First Second : Type} {step : First → Except PyError Second}
    {items : List First} {results : List Second} (done : items.mapM step = .ok results)
    {result : Second} (member : result ∈ results) : ∃ item ∈ items, step item = .ok result := by
  have steps := mapM_ok_iff.mp done
  clear done
  induction steps with
  | nil => exact absurd member List.not_mem_nil
  | cons first _ ih =>
    rcases List.mem_cons.mp member with rfl | later
    · exact ⟨_, List.mem_cons_self, first⟩
    · obtain ⟨item, among, reached⟩ := ih later
      exact ⟨item, List.mem_cons_of_mem _ among, reached⟩

/-- A loop raises nothing when no step does. -/
theorem Succeeds.mapM_iff {First Second : Type} {step : First → Except PyError Second}
    {items : List First} :
    Succeeds (items.mapM step) ↔ ∀ item ∈ items, Succeeds (step item) := by
  induction items with
  | nil => exact iff_of_true ⟨[], rfl⟩ fun _ member => absurd member List.not_mem_nil
  | cons item items ih =>
    rw [List.mapM_cons, List.forall_mem_cons, ← ih]
    constructor
    · intro succeeds
      obtain ⟨result, reached⟩ := succeeds.first
      exact ⟨succeeds.first, (succeeds.next reached).first⟩
    · rintro ⟨first, rest⟩
      exact first.bind fun result _ => rest.bind fun results _ => ⟨result :: results, rfl⟩

namespace PyValue

def text (value : String) : PyValue := .str (PyStr.ofString value)

/-- The value under a text key, if the key is there. -/
def item? (items : List (PyValue × PyValue)) (key : String) : Option PyValue :=
  items.findSome? fun item =>
    match item.1 with
    | .str name => if name = PyStr.ofString key then some item.2 else Option.none
    | _ => Option.none

/-- `value.get(key, default)`; only a dictionary has this method. -/
def get (value : PyValue) (key : String) (default : PyValue) : Except PyError PyValue :=
  match value with
  | .dict items => .ok ((item? items key).getD default)
  | _ => .error .other

/-- A dictionary with text keys. -/
def ofItems (items : List (String × PyValue)) : PyValue :=
  .dict (items.map fun item => (text item.1, item.2))

end PyValue

end PcDiagnosticAgent
