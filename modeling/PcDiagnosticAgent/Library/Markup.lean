import Mathlib.Data.List.Forall2
import Mathlib.Data.Nat.Notation

/-!
# Markup

A page is a sequence of code points. Its reader stands in the text, in a tag or
in a quoted value of a tag, and sees the tags of the page one after the other,
each with everything between its brackets.

Two pieces of a page are alike when both are complete and have the same tags.
Pages that are put together from alike pieces are alike (`Alike.append`,
`Alike.flatMap`, `Alike.intercalate`), and so are any two escaped texts
(`Alike.escape`). A placeholder of a template is replaced by a text that is not
read again (`fill_placeholder`).
-/

set_option autoImplicit false

namespace Markup

universe u v

/-! ## The reader -/

/-- Where the reader stands, with what it has read of the tag. -/
inductive State where
  | text
  | tag (read : List ℕ)
  | quoted (quote : ℕ) (read : List ℕ)
deriving DecidableEq, Repr

/-- Read one code point; a tag that ends here is seen. -/
def step : State → ℕ → State × Option (List ℕ)
  | .text, code => if code = 60 then (.tag [], none) else (.text, none)
  | .tag read, code =>
    if code = 62 then (.text, some read)
    else if code = 34 ∨ code = 39 then (.quoted code (read ++ [code]), none)
    else (.tag (read ++ [code]), none)
  | .quoted quote read, code =>
    if code = quote then (.tag (read ++ [code]), none)
    else (.quoted quote (read ++ [code]), none)

def scan : State → List ℕ → State × List (List ℕ)
  | state, [] => (state, [])
  | state, code :: rest =>
    let next := step state code
    let later := scan next.1 rest
    (later.1, next.2.toList ++ later.2)

/-- The tags of a page with their attributes. -/
def tags (page : List ℕ) : List (List ℕ) := (scan .text page).2

/-- No tag is open at the end. -/
def Complete (page : List ℕ) : Prop := (scan .text page).1 = .text

instance (page : List ℕ) : Decidable (Complete page) := inferInstanceAs (Decidable (_ = _))

/-- Complete pieces with the same tags. -/
structure Alike (first second : List ℕ) : Prop where
  complete : Complete first
  otherComplete : Complete second
  tags_eq : tags first = tags second

theorem scan_append (state : State) (first second : List ℕ) :
    scan state (first ++ second) =
      ((scan (scan state first).1 second).1,
        (scan state first).2 ++ (scan (scan state first).1 second).2) := by
  induction first generalizing state with
  | nil => rfl
  | cons code first ih => simp only [List.cons_append, scan, ih, List.append_assoc]

theorem Complete.append {first second : List ℕ} (complete : Complete first)
    (more : Complete second) : Complete (first ++ second) := by
  rw [Complete, scan_append, complete]
  exact more

theorem tags_append {first : List ℕ} (complete : Complete first) (second : List ℕ) :
    tags (first ++ second) = tags first ++ tags second := by
  rw [tags, scan_append, complete]
  rfl

theorem Complete.flatMap {Item : Type u} {items : List Item} {piece : Item → List ℕ}
    (complete : ∀ item ∈ items, Complete (piece item)) : Complete (items.flatMap piece) := by
  induction items with
  | nil => rfl
  | cons item items ih =>
    obtain ⟨first, rest⟩ := List.forall_mem_cons.mp complete
    exact first.append (ih rest)

namespace Alike

variable {first second third fourth : List ℕ}

theorem refl (complete : Complete first) : Alike first first := ⟨complete, complete, rfl⟩

theorem append (alike : Alike first second) (more : Alike third fourth) :
    Alike (first ++ third) (second ++ fourth) where
  complete := alike.complete.append more.complete
  otherComplete := alike.otherComplete.append more.otherComplete
  tags_eq := by
    rw [tags_append alike.complete, tags_append alike.otherComplete, alike.tags_eq, more.tags_eq]

/-- Pieces that are alike one by one make alike pages. -/
theorem flatMap {Item : Type u} {Other : Type v} {related : Item → Other → Prop}
    {items : List Item} {others : List Other} {piece : Item → List ℕ} {other : Other → List ℕ}
    (pieces : ∀ item another, related item another → Alike (piece item) (other another))
    (same : List.Forall₂ related items others) :
    Alike (items.flatMap piece) (others.flatMap other) := by
  induction same with
  | nil => exact refl rfl
  | cons first _ rest =>
    rw [List.flatMap_cons, List.flatMap_cons]
    exact (pieces _ _ first).append rest

theorem intercalate {separator : List ℕ} (complete : Complete separator)
    {pieces others : List (List ℕ)} (same : List.Forall₂ Alike pieces others) :
    Alike (separator.intercalate pieces) (separator.intercalate others) := by
  induction same with
  | nil => exact refl rfl
  | cons first rest ih =>
    cases rest with
    | nil => simpa using first
    | cons =>
      rw [List.intercalate_cons_cons, List.intercalate_cons_cons]
      exact (first.append (refl complete)).append ih

end Alike

/-! ## Text -/

/-- A text opens no tag. -/
def Plain (text : List ℕ) : Prop := 60 ∉ text

theorem scan_plain {text : List ℕ} (plain : Plain text) : scan .text text = (.text, []) := by
  induction text with
  | nil => rfl
  | cons code text ih =>
    have other : code ≠ 60 := fun same => plain (same ▸ List.mem_cons_self)
    rw [scan, step, if_neg other, ih fun member => plain (List.mem_cons_of_mem _ member)]
    rfl

theorem Plain.complete {text : List ℕ} (plain : Plain text) : Complete text :=
  congrArg Prod.fst (scan_plain plain)

theorem Plain.alike {first second : List ℕ} (plain : Plain first) (other : Plain second) :
    Alike first second where
  complete := plain.complete
  otherComplete := other.complete
  tags_eq := (congrArg Prod.snd (scan_plain plain)).trans
    (congrArg Prod.snd (scan_plain other)).symm

/-- What stands for one code point: references for `&`, `<`, `>` and the two
quotes. -/
def escapeCode (code : ℕ) : List ℕ :=
  if code = 38 then [38, 97, 109, 112, 59]
  else if code = 60 then [38, 108, 116, 59]
  else if code = 62 then [38, 103, 116, 59]
  else if code = 34 then [38, 113, 117, 111, 116, 59]
  else if code = 39 then [38, 35, 120, 50, 55, 59]
  else [code]

def escape (text : List ℕ) : List ℕ := text.flatMap escapeCode

/-- Whatever a text contains, it opens no tag once it is escaped. -/
theorem plain_escape (text : List ℕ) : Plain (escape text) := by
  intro member
  obtain ⟨code, -, inside⟩ := List.mem_flatMap.mp member
  unfold escapeCode at inside
  split at inside
  · simp at inside
  split at inside
  · simp at inside
  split at inside
  · simp at inside
  split at inside
  · simp at inside
  split at inside
  · simp at inside
  · simp_all

theorem Alike.escape (first second : List ℕ) : Alike (escape first) (escape second) :=
  (plain_escape first).alike (plain_escape second)

/-- The references are made of ASCII characters, and only ASCII characters are
replaced by them. -/
theorem forall_mem_escape_iff {property : ℕ → Prop} (ascii : ∀ code < 128, property code)
    (text : List ℕ) :
    (∀ code ∈ Markup.escape text, property code) ↔ ∀ code ∈ text, property code := by
  have single : ∀ code, (∀ part ∈ escapeCode code, property part) ↔ property code := by
    intro code
    by_cases special : code < 128
    · refine iff_of_true (fun part member => ascii part ?_) (ascii code special)
      unfold escapeCode at member
      grind
    · have kept : escapeCode code = [code] := by
        unfold escapeCode
        grind
      simp [kept]
  simp only [Markup.escape, List.mem_flatMap, forall_exists_index, and_imp]
  constructor
  · intro every code member
    exact (single code).mp fun part inside => every part code member inside
  · intro every part code member inside
    exact (single code).mpr (every code member) part inside

/-! ## Templates -/

/-- Replace a placeholder wherever it occurs, from the left; so many code points
of the last occurrence are still to be skipped. -/
def fill (placeholder text : List ℕ) : ℕ → List ℕ → List ℕ
  | _, [] => []
  | skip + 1, _ :: rest => fill placeholder text skip rest
  | 0, code :: rest =>
    if placeholder.isPrefixOf (code :: rest) then
      text ++ fill placeholder text (placeholder.length - 1) rest
    else code :: fill placeholder text 0 rest

/-- Two code points never stand next to each other, and the first one does not
stand at the end. -/
def avoids (first second : ℕ) : List ℕ → Bool
  | [] => true
  | code :: rest =>
    (code != first || rest.head?.any (· != second)) && avoids first second rest

theorem avoids_of_notMem {first : ℕ} (second : ℕ) {text : List ℕ} (absent : first ∉ text) :
    avoids first second text = true := by
  induction text with
  | nil => rfl
  | cons code text ih =>
    have other : code ≠ first := fun same => absent (same ▸ List.mem_cons_self)
    rw [avoids, bne_iff_ne.mpr other, ih fun member => absent (List.mem_cons_of_mem _ member)]
    rfl

theorem avoids_append {first second : ℕ} {front back : List ℕ}
    (free : avoids first second front = true) (rest : avoids first second back = true) :
    avoids first second (front ++ back) = true := by
  induction front with
  | nil => exact rest
  | cons code front ih =>
    rw [avoids, Bool.and_eq_true] at free
    rw [List.cons_append, avoids, ih free.2, Bool.and_true]
    cases front with
    | nil =>
      have other : (code != first) = true := by simpa using free.1
      rw [other, Bool.true_or]
    | cons next front => exact free.1

theorem fill_skip (placeholder text skipped rest : List ℕ) :
    fill placeholder text skipped.length (skipped ++ rest) = fill placeholder text 0 rest := by
  induction skipped with
  | nil => rfl
  | cons code skipped ih => exact ih

/-- A placeholder is replaced, and the text in its place is not read again. -/
theorem fill_placeholder {first : ℕ} {more : List ℕ} (text rest : List ℕ) :
    fill (first :: more) text 0 (first :: more ++ rest) =
      text ++ fill (first :: more) text 0 rest := by
  have found : (first :: more).isPrefixOf (first :: (more ++ rest)) = true :=
    List.isPrefixOf_iff_prefix.mpr (List.prefix_append _ _)
  rw [List.cons_append, fill, if_pos found]
  exact congrArg (text ++ ·) (fill_skip _ text more rest)

/-- Where the first two code points of the placeholder do not occur, nothing is
replaced. -/
theorem fill_avoids {first second : ℕ} {more : List ℕ} (text : List ℕ) {front : List ℕ}
    (free : avoids first second front = true) (rest : List ℕ) :
    fill (first :: second :: more) text 0 (front ++ rest) =
      front ++ fill (first :: second :: more) text 0 rest := by
  induction front with
  | nil => rfl
  | cons code front ih =>
    rw [avoids, Bool.and_eq_true] at free
    have absent : (first :: second :: more).isPrefixOf (code :: (front ++ rest)) = false := by
      by_contra found
      obtain ⟨rfl, found⟩ : first = code ∧ (second :: more).isPrefixOf (front ++ rest) = true := by
        simpa [List.isPrefixOf_cons_cons] using found
      cases front with
      | nil => simp at free
      | cons next front =>
        obtain ⟨rfl, -⟩ : second = next ∧ more.isPrefixOf (front ++ rest) = true := by
          simpa [List.isPrefixOf_cons_cons] using found
        simp at free
    rw [List.cons_append, fill, absent, ih free.2]
    rfl

/-- The placeholder starts nowhere in the text. -/
def lacks (placeholder : List ℕ) : List ℕ → Bool
  | [] => true
  | code :: rest => !placeholder.isPrefixOf (code :: rest) && lacks placeholder rest

/-- A text in which the placeholder does not occur stays as it is. -/
theorem fill_lacks {placeholder : List ℕ} (text : List ℕ) {rest : List ℕ}
    (absent : lacks placeholder rest = true) : fill placeholder text 0 rest = rest := by
  induction rest with
  | nil => rfl
  | cons code rest ih =>
    rw [lacks, Bool.and_eq_true, Bool.not_eq_true'] at absent
    rw [fill, absent.1, ih absent.2]
    rfl

end Markup
