import Mathlib.Algebra.Order.Field.Rat
import Mathlib.Algebra.Order.Group.Abs
import Mathlib.Algebra.Order.Ring.Abs
import Mathlib.Data.Rat.Floor

/-!
# Texts

Python texts are sequences of code points. The classifier lowercases, strips
and searches them; the diagnosis formats numbers with a fixed number of
decimals.

A finite Python float is an exact rational number, so numbers are rationals
here and formatting rounds the exact value, ties to even.
-/

set_option autoImplicit false

namespace PcDiagnosticAgent

/-- Epoch seconds. -/
abbrev Epoch := ℚ

namespace Text

/-- `str.isspace` for one character. -/
def isSpace (c : Char) : Bool :=
  let code := c.toNat
  (9 ≤ code && code ≤ 13) || (28 ≤ code && code ≤ 32) || code == 0x85 || code == 0xA0 ||
    code == 0x1680 || (0x2000 ≤ code && code ≤ 0x200A) || code == 0x2028 || code == 0x2029 ||
    code == 0x202F || code == 0x205F || code == 0x3000

/-- `str.strip`. -/
def strip (text : List Char) : List Char :=
  ((text.dropWhile isSpace).reverse.dropWhile isSpace).reverse

/-- The lower case of one character, as far as an ASCII search can see it.

Besides the capital ASCII letters only two characters have a lower case that
contains an ASCII character: the Kelvin sign and the dotted capital I. -/
def lowerChar (c : Char) : List Char :=
  if 'A' ≤ c ∧ c ≤ 'Z' then [Char.ofNat (c.toNat + 32)]
  else if c = Char.ofNat 0x212A then ['k']
  else if c = Char.ofNat 0x130 then ['i', Char.ofNat 0x307]
  else [c]

/-- `str.lower`, for texts that are searched for ASCII texts. -/
def lower (text : List Char) : List Char := text.flatMap lowerChar

/-- `needle in text`. -/
def contains (needle text : List Char) : Bool :=
  text.tails.any fun rest => needle.isPrefixOf rest

/-- The integer nearest to a nonnegative number, ties to the even one. -/
def roundHalfEven (value : ℚ) : ℕ :=
  let floor := value.floor.toNat
  let rest := value - floor
  if rest < 1 / 2 then floor
  else if 1 / 2 < rest then floor + 1
  else if floor % 2 = 0 then floor
  else floor + 1

/-- A number with a fixed number of decimals, as in the format `.1f`. -/
def formatFixed (digits : ℕ) (value : ℚ) : String :=
  let scaled := roundHalfEven (|value| * 10 ^ digits)
  let sign := if value < 0 then "-" else ""
  let whole := toString (scaled / 10 ^ digits)
  let decimals := toString (scaled % 10 ^ digits)
  let padding := String.ofList (List.replicate (digits - decimals.length) '0')
  if digits = 0 then sign ++ whole else sign ++ whole ++ "." ++ padding ++ decimals

example : formatFixed 1 (365 / 4) = "91.2" := by decide +kernel

/-- Texts that end in different characters differ. -/
theorem ne_of_getLast?_ne {first second : String}
    (different : first.toList.getLast? ≠ second.toList.getLast?) : first ≠ second := by
  rintro rfl
  exact different rfl

/-- Texts that start with different characters differ. -/
theorem ne_of_head?_ne {first second : String}
    (different : first.toList.head? ≠ second.toList.head?) : first ≠ second := by
  rintro rfl
  exact different rfl

end Text

end PcDiagnosticAgent
