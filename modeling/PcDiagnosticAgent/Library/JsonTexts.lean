import Mathlib.Data.List.Chain
import Mathlib.Data.List.Basic

/-!
# Lists of texts as JSON

A text is a list of code points, of which some are surrogates: the two halves in
which JSON escapes write a code point from 65536 on. The writer puts a list of
texts into ASCII; every code that is not a printable ASCII character is escaped.
The reader undoes the escapes and joins a high surrogate with the low one that
is escaped after it.

So reading what was written gives each text back with its neighbouring halves
joined (`read_write`), and gives exactly the texts back when none of them holds a
high surrogate before a low one (`read_write_iff`).
-/

set_option autoImplicit false

namespace JsonTexts

/-- Code points. -/
abbrev Text := List ℕ

/-! ## Surrogates -/

def High (code : ℕ) : Prop := 0xd800 ≤ code ∧ code ≤ 0xdbff

def Low (code : ℕ) : Prop := 0xdc00 ≤ code ∧ code ≤ 0xdfff

instance (code : ℕ) : Decidable (High code) := inferInstanceAs (Decidable (_ ∧ _))

instance (code : ℕ) : Decidable (Low code) := inferInstanceAs (Decidable (_ ∧ _))

/-- The code point of two halves. -/
def combine (high low : ℕ) : ℕ := 0x10000 + (high - 0xd800) * 1024 + (low - 0xdc00)

def highHalf (code : ℕ) : ℕ := 0xd800 + (code - 0x10000) / 1024 % 1024

def lowHalf (code : ℕ) : ℕ := 0xdc00 + (code - 0x10000) % 1024

/-- Join every high surrogate with a low one right after it. -/
def joined : Text → Text
  | [] => []
  | [code] => [code]
  | first :: second :: rest =>
    if High first ∧ Low second then combine first second :: joined rest
    else first :: joined (second :: rest)

/-- No high surrogate stands before a low one. -/
def Separate (text : Text) : Prop := text.IsChain fun first second => ¬ (High first ∧ Low second)

/-! ## The writer -/

/-- A hexadecimal digit in lower case. -/
def hexDigit (value : ℕ) : ℕ := if value < 10 then 48 + value else 87 + value

/-- `\uXXXX`. -/
def unitEscape (value : ℕ) : Text :=
  [92, 117, hexDigit (value / 4096 % 16), hexDigit (value / 256 % 16), hexDigit (value / 16 % 16),
    hexDigit (value % 16)]

/-- The letter of a short escape. -/
def shortEscape (code : ℕ) : Option ℕ :=
  if code = 34 then some 34
  else if code = 92 then some 92
  else if code = 8 then some 98
  else if code = 12 then some 102
  else if code = 10 then some 110
  else if code = 13 then some 114
  else if code = 9 then some 116
  else none

def escapeCode (code : ℕ) : Text :=
  match shortEscape code with
  | some letter => [92, letter]
  | none =>
    if 32 ≤ code ∧ code ≤ 126 then [code]
    else if code < 0x10000 then unitEscape code
    else unitEscape (highHalf code) ++ unitEscape (lowHalf code)

def quote (text : Text) : Text := 34 :: text.flatMap escapeCode ++ [34]

/-- The items with a comma and a space between them. -/
def items (texts : List Text) : Text := List.intercalate [44, 32] (texts.map quote)

def write (texts : List Text) : Text := 91 :: (items texts ++ [93])

theorem hexDigit_ascii (value : ℕ) : hexDigit (value % 16) < 128 := by
  unfold hexDigit
  split <;> omega

theorem unitEscape_ascii (value : ℕ) : ∀ code ∈ unitEscape value, code < 128 := by
  simp only [unitEscape, List.forall_mem_cons]
  exact ⟨by decide, by decide, hexDigit_ascii _, hexDigit_ascii _, hexDigit_ascii _,
    hexDigit_ascii _, fun code member => absurd member List.not_mem_nil⟩

theorem escapeCode_ascii (given : ℕ) : ∀ code ∈ escapeCode given, code < 128 := by
  unfold escapeCode
  split
  · rename_i letter short
    have small : letter < 128 := by
      unfold shortEscape at short
      split_ifs at short <;> cases short <;> decide
    simp only [List.forall_mem_cons]
    exact ⟨by decide, small, fun code member => absurd member List.not_mem_nil⟩
  · split
    · rename_i plain
      intro code member
      have same := List.mem_singleton.mp member
      omega
    · split
      · exact unitEscape_ascii given
      · intro code member
        rcases List.mem_append.mp member with high | low
        · exact unitEscape_ascii _ code high
        · exact unitEscape_ascii _ code low

/-- The document is plain ASCII. -/
theorem write_ascii (texts : List Text) : ∀ code ∈ write texts, code < 128 := by
  have quoted : ∀ text, ∀ code ∈ quote text, code < 128 := by
    intro text code member
    simp only [quote, List.cons_append, List.mem_cons, List.mem_append, List.mem_flatMap,
      List.not_mem_nil, or_false] at member
    rcases member with rfl | ⟨given, -, escaped⟩ | rfl
    · decide
    · exact escapeCode_ascii given code escaped
    · decide
  have listed : ∀ code ∈ items texts, code < 128 := by
    intro code member
    rw [items] at member
    induction texts with
    | nil => exact absurd member List.not_mem_nil
    | cons first texts ih =>
      cases texts with
      | nil => exact quoted first code (by simpa using member)
      | cons next texts =>
        rw [List.map_cons, List.map_cons, List.intercalate_cons_cons, List.mem_append,
          List.mem_append] at member
        rcases member with (inFirst | separator) | later
        · exact quoted first code inFirst
        · simp only [List.mem_cons, List.not_mem_nil, or_false] at separator
          omega
        · exact ih later
  intro code member
  simp only [write, List.mem_cons, List.mem_append, List.not_mem_nil, or_false] at member
  rcases member with rfl | inside | rfl
  · decide
  · exact listed code inside
  · decide

/-! ## The reader -/

def hexValue (code : ℕ) : Option ℕ :=
  if 48 ≤ code ∧ code ≤ 57 then some (code - 48)
  else if 97 ≤ code ∧ code ≤ 102 then some (code - 87)
  else if 65 ≤ code ∧ code ≤ 70 then some (code - 55)
  else none

def unitValue (first second third fourth : ℕ) : Option ℕ := do
  let first ← hexValue first
  let second ← hexValue second
  let third ← hexValue third
  let fourth ← hexValue fourth
  return first * 4096 + second * 256 + third * 16 + fourth

/-- What the letter of an escape stands for. -/
def escaped (letter : ℕ) : Option ℕ :=
  if letter = 34 then some 34
  else if letter = 92 then some 92
  else if letter = 47 then some 47
  else if letter = 98 then some 8
  else if letter = 102 then some 12
  else if letter = 110 then some 10
  else if letter = 114 then some 13
  else if letter = 116 then some 9
  else none

/-- A piece of a quoted text: a code that stands for itself or has a short
escape, or the value of a `\uXXXX`. -/
inductive Piece where
  | code (value : ℕ)
  | unit (value : ℕ)
deriving DecidableEq, Repr

def Piece.value : Piece → ℕ
  | code value => value
  | unit value => value

/-- Put a piece before those that were read from the rest. -/
def push (piece : Piece) (answer : Option (List Piece × Text)) : Option (List Piece × Text) :=
  answer.map fun read => (piece :: read.1, read.2)

/-- The pieces up to the closing quote, and what follows it. -/
def scan : Text → Option (List Piece × Text)
  | [] => none
  | code :: rest =>
    if code = 34 then some ([], rest)
    else if code = 92 then
      match rest with
      | [] => none
      | letter :: rest =>
        if letter = 117 then
          match rest with
          | first :: second :: third :: fourth :: rest =>
            match unitValue first second third fourth with
            | none => none
            | some value => push (.unit value) (scan rest)
          | _ => none
        else
          match escaped letter with
          | none => none
          | some value => push (.code value) (scan rest)
    else if code < 32 then none
    else push (.code code) (scan rest)

/-- The text of pieces: two halves that are both escaped are joined. -/
def assemble : List Piece → Text
  | [] => []
  | .code value :: rest => value :: assemble rest
  | .unit value :: rest =>
    match rest with
    | .unit low :: after =>
      if High value ∧ Low low then combine value low :: assemble after
      else value :: assemble (.unit low :: after)
    | rest => value :: assemble rest

def skipSpace : Text → Text
  | [] => []
  | code :: rest =>
    if code = 32 ∨ code = 9 ∨ code = 10 ∨ code = 13 then skipSpace rest else code :: rest

/-- A quoted text and what follows it. -/
def readText : Text → Option (Text × Text)
  | [] => none
  | code :: rest =>
    if code = 34 then (scan rest).map fun read => (assemble read.1, read.2) else none

/-- The items up to the closing bracket, and what follows it. Every item is at
least two codes long, so a count of the codes is enough for them. -/
def readItems : ℕ → Text → Option (List Text × Text)
  | 0, _ => none
  | count + 1, input =>
    match readText input with
    | none => none
    | some (text, rest) =>
      match skipSpace rest with
      | [] => none
      | code :: rest =>
        if code = 93 then some ([text], rest)
        else if code = 44 then
          (readItems count (skipSpace rest)).map fun read => (text :: read.1, read.2)
        else none

/-- The list of texts that a document is; any other document is none. -/
def read (input : Text) : Option (List Text) :=
  match skipSpace input with
  | [] => none
  | code :: rest =>
    if code = 91 then
      match skipSpace rest with
      | [] => none
      | code :: after =>
        let items := if code = 93 then some ([], after) else readItems input.length (code :: after)
        items.bind fun read => if skipSpace read.2 = [] then some read.1 else none
    else none

/-! ## Halves -/

theorem combine_halves {code : ℕ} (astral : 0x10000 ≤ code) (valid : code < 0x110000) :
    High (highHalf code) ∧ Low (lowHalf code) ∧ combine (highHalf code) (lowHalf code) = code := by
  unfold High Low combine highHalf lowHalf
  omega

theorem not_low_of_high {code : ℕ} (high : High code) : ¬ Low code := by
  unfold High at high
  unfold Low
  omega

/-- **Joining changes a text exactly when two halves stand together in it.** -/
theorem joined_eq_self_iff {text : Text} : joined text = text ↔ Separate text := by
  have shorter : ∀ text : Text, (joined text).length ≤ text.length := by
    intro text
    fun_induction joined text with
    | case1 => exact Nat.le_refl _
    | case2 code => exact Nat.le_refl _
    | case3 first second rest both ih =>
      simp only [List.length_cons]
      omega
    | case4 first second rest apart ih =>
      simp only [List.length_cons] at ih ⊢
      omega
  fun_induction joined text with
  | case1 => exact iff_of_true rfl .nil
  | case2 code => exact iff_of_true rfl (.singleton _)
  | case3 first second rest both ih =>
    refine iff_of_false (fun same => ?_) fun separate => ?_
    · have lengths := congrArg List.length same
      have rest := shorter rest
      simp only [List.length_cons] at lengths
      omega
    · exact (List.isChain_cons_cons.mp separate).1 both
  | case4 first second rest apart ih =>
    rw [List.cons.injEq, Separate, List.isChain_cons_cons]
    exact ⟨fun same => ⟨apart, ih.mp same.2⟩, fun separate => ⟨rfl, ih.mpr separate.2⟩⟩

/-- Without high surrogates nothing can be joined. -/
theorem separate_of_forall {text : Text} (none : ∀ code ∈ text, ¬ High code) : Separate text := by
  refine List.isChain_iff_forall_rel_of_append_cons_cons.mpr ?_
  intro first second before after split both
  refine none first ?_ both.1
  rw [split]
  exact List.mem_append_right _ List.mem_cons_self

/-! ## Reading what was written -/

theorem hexValue_hexDigit {value : ℕ} (small : value < 16) :
    hexValue (hexDigit value) = some value := by
  have all : ∀ digit < 16, hexValue (hexDigit digit) = some digit := by decide
  exact all value small

theorem unitValue_unitEscape {value : ℕ} (unit : value < 0x10000) :
    unitValue (hexDigit (value / 4096 % 16)) (hexDigit (value / 256 % 16))
      (hexDigit (value / 16 % 16)) (hexDigit (value % 16)) = some value := by
  simp only [unitValue, hexValue_hexDigit (Nat.mod_lt _ (by decide : 0 < 16)), Option.bind_eq_bind,
    Option.bind_some, Option.pure_def, Option.some.injEq]
  omega

/-- The pieces a code is read as. -/
def pieces (code : ℕ) : List Piece :=
  if (shortEscape code).isSome ∨ (32 ≤ code ∧ code ≤ 126) then [.code code]
  else if code < 0x10000 then [.unit code]
  else [.unit (highHalf code), .unit (lowHalf code)]

theorem scan_quote (rest : Text) : scan (34 :: rest) = some ([], rest) := by
  rw [scan.eq_def]
  rfl

theorem scan_plain {code : ℕ} (quote : code ≠ 34) (backslash : code ≠ 92) (plain : 32 ≤ code)
    (rest : Text) : scan (code :: rest) = push (.code code) (scan rest) := by
  rw [scan.eq_def]
  simp only [if_neg quote, if_neg backslash, if_neg (not_lt.mpr plain)]

theorem scan_letter {letter value : ℕ} (notUnit : letter ≠ 117)
    (back : escaped letter = some value) (rest : Text) :
    scan (92 :: letter :: rest) = push (.code value) (scan rest) := by
  rw [scan.eq_def]
  simp only [if_neg (by decide : ¬ 92 = 34), if_true, if_neg notUnit, back]

theorem scan_unitEscape {value : ℕ} (unit : value < 0x10000) (rest : Text) :
    scan (unitEscape value ++ rest) = push (.unit value) (scan rest) := by
  simp only [unitEscape, List.cons_append, List.nil_append]
  rw [scan.eq_def]
  simp only [if_neg (by decide : ¬ 92 = 34), if_true, unitValue_unitEscape unit]

/-- A short escape is read back. -/
theorem escaped_shortEscape {code letter : ℕ} (short : shortEscape code = some letter) :
    escaped letter = some code ∧ letter ≠ 117 := by
  unfold shortEscape at short
  split_ifs at short with quote backslash backspace feed newline back tab <;>
    (obtain rfl := Option.some.inj short; subst code; exact ⟨rfl, by decide⟩)

theorem scan_escapeCode {code : ℕ} (valid : code < 0x110000) (rest : Text) :
    scan (escapeCode code ++ rest) =
      (scan rest).map fun read => (pieces code ++ read.1, read.2) := by
  cases short : shortEscape code with
  | some letter =>
    obtain ⟨back, notUnit⟩ := escaped_shortEscape short
    simp only [escapeCode, pieces, short, Option.isSome_some, true_or, if_true, List.cons_append,
      List.nil_append]
    exact scan_letter notUnit back rest
  | none =>
    simp only [escapeCode, pieces, short, Option.isSome_none, Bool.false_eq_true, false_or]
    by_cases printable : 32 ≤ code ∧ code ≤ 126
    · have quote : code ≠ 34 := by
        rintro rfl
        cases short
      have backslash : code ≠ 92 := by
        rintro rfl
        cases short
      simp only [if_pos printable]
      exact scan_plain quote backslash printable.1 rest
    · simp only [if_neg printable]
      by_cases unit : code < 0x10000
      · simp only [if_pos unit, List.cons_append, List.nil_append]
        exact scan_unitEscape unit rest
      · have high : highHalf code < 0x10000 := by
          unfold highHalf
          omega
        have low : lowHalf code < 0x10000 := by
          unfold lowHalf
          omega
        simp only [if_neg unit, List.append_assoc]
        rw [scan_unitEscape high, scan_unitEscape low, push, push, Option.map_map]
        rfl

theorem scan_quoted {text : Text} (valid : ∀ code ∈ text, code < 0x110000) (rest : Text) :
    scan (text.flatMap escapeCode ++ 34 :: rest) = some (text.flatMap pieces, rest) := by
  induction text with
  | nil => exact scan_quote rest
  | cons code text ih =>
    have later := ih fun other member => valid other (List.mem_cons_of_mem _ member)
    rw [List.flatMap_cons, List.append_assoc, scan_escapeCode (valid code List.mem_cons_self),
      later]
    rfl

/-! ## Assembling -/

theorem assemble_code (value : ℕ) (rest : List Piece) :
    assemble (.code value :: rest) = value :: assemble rest := rfl

theorem assemble_pair {high low : ℕ} (isHigh : High high) (isLow : Low low) (rest : List Piece) :
    assemble (.unit high :: .unit low :: rest) = combine high low :: assemble rest := by
  rw [assemble]
  exact if_pos ⟨isHigh, isLow⟩

theorem assemble_unit {value : ℕ} {rest : List Piece}
    (apart : ∀ low, rest.head? = some (.unit low) → ¬ (High value ∧ Low low)) :
    assemble (.unit value :: rest) = value :: assemble rest := by
  cases rest with
  | nil => rfl
  | cons next rest =>
    cases next with
    | code other => rfl
    | unit low =>
      rw [assemble]
      exact if_neg (apart low rfl)

/-- A text that begins with the low half of an escape begins with that code. -/
theorem head_pieces {text : Text} (valid : ∀ code ∈ text, code < 0x110000) {low : ℕ}
    (first : (text.flatMap pieces).head? = some (.unit low)) (isLow : Low low) :
    text.head? = some low := by
  cases text with
  | nil => cases first
  | cons code text =>
    rw [List.flatMap_cons, pieces] at first
    split_ifs at first with plain unit
    · cases first
    · exact congrArg (fun piece => some (Piece.value piece)) (Option.some.inj first)
    · have half : highHalf code = low := Piece.unit.inj (Option.some.inj first)
      have isHigh := (combine_halves (not_lt.mp unit) (valid code List.mem_cons_self)).1
      exact absurd isLow (not_low_of_high (half ▸ isHigh))

/-- **Assembling the pieces of a text joins its halves.** -/
theorem assemble_pieces {text : Text} (valid : ∀ code ∈ text, code < 0x110000) :
    assemble (text.flatMap pieces) = joined text := by
  have surrogate : ∀ {code : ℕ}, High code ∨ Low code → pieces code = [.unit code] := by
    intro code half
    have range : 0xd800 ≤ code ∧ code ≤ 0xdfff := by
      unfold High Low at half
      omega
    have plain : ¬ ((shortEscape code).isSome ∨ (32 ≤ code ∧ code ≤ 126)) := by
      have large : shortEscape code = none := by
        unfold shortEscape
        split_ifs <;> first | omega | rfl
      rw [large]
      simp only [Option.isSome_none, Bool.false_eq_true, false_or]
      omega
    rw [pieces, if_neg plain, if_pos (by omega)]
  fun_induction joined text with
  | case1 => rfl
  | case2 code =>
    have first := valid code List.mem_cons_self
    simp only [List.flatMap_cons, List.flatMap_nil, List.append_nil, pieces]
    split_ifs with plain unit
    · rfl
    · rfl
    · obtain ⟨high, low, same⟩ := combine_halves (not_lt.mp unit) first
      rw [assemble_pair high low, same]
      rfl
  | case3 first second rest both ih =>
    rw [List.flatMap_cons, List.flatMap_cons, surrogate (.inl both.1), surrogate (.inr both.2)]
    refine (assemble_pair both.1 both.2 _).trans (congrArg _ (ih fun code member => ?_))
    exact valid code (List.mem_cons_of_mem _ (List.mem_cons_of_mem _ member))
  | case4 first second rest apart ih =>
    have validRest : ∀ code ∈ second :: rest, code < 0x110000 :=
      fun code member => valid code (List.mem_cons_of_mem _ member)
    have later := ih validRest
    rw [List.flatMap_cons, pieces]
    split_ifs with plain unit
    · exact (assemble_code first _).trans (congrArg _ later)
    · refine (assemble_unit fun low isFirst both => ?_).trans (congrArg _ later)
      have next := head_pieces validRest isFirst both.2
      exact apart ⟨both.1, (Option.some.inj next) ▸ both.2⟩
    · obtain ⟨high, low, same⟩ := combine_halves (not_lt.mp unit) (valid first List.mem_cons_self)
      refine (assemble_pair high low _).trans ?_
      rw [same]
      exact congrArg _ later

/-! ## Lists -/

theorem readText_quote {text : Text} (valid : ∀ code ∈ text, code < 0x110000) (rest : Text) :
    readText (quote text ++ rest) = some (joined text, rest) := by
  have scanned := scan_quoted valid rest
  simp only [quote, readText, List.cons_append, List.append_assoc, List.nil_append, if_true,
    scanned, Option.map_some, assemble_pieces valid]

theorem items_singleton (text : Text) : items [text] = quote text := by
  simp [items]

theorem items_cons (text next : Text) (texts : List Text) :
    items (text :: next :: texts) = quote text ++ 44 :: 32 :: items (next :: texts) := by
  simp [items]

/-- There are at least as many codes as items. -/
theorem length_le_items (texts : List Text) : texts.length ≤ (items texts).length := by
  induction texts with
  | nil => exact Nat.zero_le _
  | cons text texts ih =>
    cases texts with
    | nil =>
      rw [items_singleton]
      simp [quote]
    | cons next texts =>
      rw [items_cons]
      simp only [List.length_cons, List.length_append] at ih ⊢
      omega

/-- Every item starts with a quote. -/
theorem items_head (text : Text) (texts : List Text) :
    ∃ more, items (text :: texts) = 34 :: more := by
  cases texts with
  | nil => exact ⟨_, items_singleton text⟩
  | cons next texts => exact ⟨_, items_cons text next texts⟩

theorem skipSpace_items (text : Text) (texts : List Text) (rest : Text) :
    skipSpace (items (text :: texts) ++ rest) = items (text :: texts) ++ rest := by
  obtain ⟨more, starts⟩ := items_head text texts
  rw [starts]
  rfl

theorem readItems_last {input rest : Text} {text : Text}
    (found : readText input = some (text, 93 :: rest)) (count : ℕ) :
    readItems (count + 1) input = some ([text], rest) := by
  rw [readItems, found]
  rfl

theorem readItems_next {input rest : Text} {text : Text}
    (found : readText input = some (text, 44 :: rest)) (count : ℕ) :
    readItems (count + 1) input =
      (readItems count (skipSpace rest)).map fun read => (text :: read.1, read.2) := by
  rw [readItems, found]
  rfl

theorem readItems_items {text : Text} {texts : List Text}
    (valid : ∀ item ∈ text :: texts, ∀ code ∈ item, code < 0x110000) {count : ℕ}
    (enough : texts.length < count) (rest : Text) :
    readItems count (items (text :: texts) ++ 93 :: rest) =
      some ((text :: texts).map joined, rest) := by
  obtain ⟨count, rfl⟩ := Nat.exists_eq_succ_of_ne_zero (Nat.ne_of_gt (Nat.zero_lt_of_lt enough))
  have first := valid text List.mem_cons_self
  induction texts generalizing text count with
  | nil =>
    rw [items_singleton]
    exact readItems_last (readText_quote first (93 :: rest)) count
  | cons next texts ih =>
    obtain ⟨fewer, rfl⟩ := Nat.exists_eq_succ_of_ne_zero
      (Nat.ne_of_gt (Nat.zero_lt_of_lt (Nat.lt_of_succ_lt_succ enough)))
    have validNext : ∀ item ∈ next :: texts, ∀ code ∈ item, code < 0x110000 :=
      fun item member => valid item (List.mem_cons_of_mem _ member)
    have later := ih validNext fewer (Nat.lt_of_succ_lt_succ enough)
      (validNext next List.mem_cons_self)
    have spaced : skipSpace (32 :: (items (next :: texts) ++ 93 :: rest)) =
        items (next :: texts) ++ 93 :: rest := skipSpace_items next texts _
    rw [items_cons, List.append_assoc, List.cons_append, List.cons_append]
    rw [readItems_next (readText_quote first _), spaced, later]
    rfl

/-- **Reading what was written gives every text with its halves joined.** -/
theorem read_write {texts : List Text} (valid : ∀ text ∈ texts, ∀ code ∈ text, code < 0x110000) :
    read (write texts) = some (texts.map joined) := by
  cases texts with
  | nil => rfl
  | cons text texts =>
    have enough : texts.length < (write (text :: texts)).length := by
      have codes := length_le_items (text :: texts)
      simp only [write, List.length_cons, List.length_append] at codes ⊢
      omega
    have all := readItems_items valid enough []
    obtain ⟨more, starts⟩ := items_head text texts
    have written : write (text :: texts) = 91 :: 34 :: (more ++ [93]) := by
      rw [write, starts]
      rfl
    have opened : ∀ input : Text, read (91 :: 34 :: input) =
        (readItems (91 :: 34 :: input).length (34 :: input)).bind fun read =>
          if skipSpace read.2 = [] then some read.1 else none := fun _ => rfl
    rw [starts, written] at all
    rw [written, opened]
    exact congrArg (fun answer => answer.bind fun read : List Text × Text =>
      if skipSpace read.2 = [] then some read.1 else none) all

/-- **Exactly the lists of texts without a high surrogate before a low one are
read back as they were.** -/
theorem read_write_iff {texts : List Text}
    (valid : ∀ text ∈ texts, ∀ code ∈ text, code < 0x110000) :
    read (write texts) = some texts ↔ ∀ text ∈ texts, Separate text := by
  rw [read_write valid, Option.some.injEq]
  constructor
  · intro same text member
    have each := List.map_inj_left.mp (same.trans (List.map_id texts).symm) text member
    exact joined_eq_self_iff.mp each
  · intro separate
    refine (List.map_congr_left fun text member => ?_).trans (List.map_id texts)
    exact joined_eq_self_iff.mpr (separate text member)

/-- Two halves that were written side by side come back as one code. -/
example : read (write [[0xd83d, 0xde00], [34, 0x1f600]]) = some [[0x1f600], [34, 0x1f600]] := by
  decide

end JsonTexts
