import PcDiagnosticAgent.PyValue
import PcDiagnosticAgent.Text
import Mathlib.Data.Int.Log

/-!
# Numbers

Comparison and arithmetic of Python numbers. Comparisons are exact, also between
integers and floats. Arithmetic on floats rounds the exact result to 53 bits,
ties to even, and to an infinity when it is too large. An operation of a float
with an integer converts the integer first, which fails for a long one.
-/

set_option autoImplicit false

namespace PcDiagnosticAgent

namespace PyFloat

/-! ## Comparison -/

/-- `first <= second`; no number compares with nothing. -/
def le : PyFloat → PyFloat → Bool
  | .nan, _ => false
  | _, .nan => false
  | .infinite true, _ => true
  | .infinite false, second => second = .infinite false
  | .finite _, .infinite negative => !negative
  | .finite first, .finite second => first ≤ second

/-- `first < second`. -/
def lt (first second : PyFloat) : Bool := first.le second && !second.le first

/-! ## Arithmetic -/

/-- The last of 53 bits of a number of this size. -/
def lastBit (value : ℚ) : ℚ := 2 ^ max (Int.log 2 |value| - 52) (-1074)

/-- The float next to a number. -/
def round (value : ℚ) : PyFloat :=
  let magnitude := Text.roundHalfEven (|value| / lastBit value) * lastBit value
  if 2 ^ 1024 ≤ magnitude then .infinite (value < 0)
  else .finite (if value < 0 then -magnitude else magnitude)

/-- `float` of an integer; a long one overflows. -/
def ofInt (value : ℤ) : Except PyError PyFloat :=
  match round value with
  | .finite rounded => .ok (.finite rounded)
  | _ => .error .other

def neg : PyFloat → PyFloat
  | .finite value => .finite (-value)
  | .infinite negative => .infinite !negative
  | .nan => .nan

def add : PyFloat → PyFloat → PyFloat
  | .nan, _ => .nan
  | _, .nan => .nan
  | .infinite first, .infinite second => if first = second then .infinite first else .nan
  | .infinite negative, .finite _ => .infinite negative
  | .finite _, .infinite negative => .infinite negative
  | .finite first, .finite second => round (first + second)

def sub (first second : PyFloat) : PyFloat := first.add second.neg

/-- An infinity times a finite number. -/
def scale (negative : Bool) (factor : ℚ) : PyFloat :=
  if factor = 0 then .nan else .infinite (negative != decide (factor < 0))

def mul : PyFloat → PyFloat → PyFloat
  | .nan, _ => .nan
  | _, .nan => .nan
  | .infinite first, .infinite second => .infinite (first != second)
  | .infinite negative, .finite factor => scale negative factor
  | .finite factor, .infinite negative => scale negative factor
  | .finite first, .finite second => round (first * second)

-- ten is half of what the last bit of 2 ^ 57 is worth, or less
example : (finite (2 ^ 57)).add (finite 10) = finite (2 ^ 57) := by decide +kernel

/-! ## Order -/

theorem le_total {first second : PyFloat} (firstNumber : first ≠ .nan)
    (secondNumber : second ≠ .nan) : first.le second = true ∨ second.le first = true := by
  cases first with
  | nan => exact absurd rfl firstNumber
  | infinite negative =>
    cases second with
    | nan => exact absurd rfl secondNumber
    | infinite other => cases negative <;> cases other <;> simp [le]
    | finite value => cases negative <;> simp [le]
  | finite first =>
    cases second with
    | nan => exact absurd rfl secondNumber
    | infinite negative => cases negative <;> simp [le]
    | finite second => simpa [le] using LinearOrder.le_total first second

/-- Only numbers compare. -/
theorem ne_nan_of_le {first second : PyFloat} (order : first.le second = true) :
    first ≠ .nan ∧ second ≠ .nan := by
  cases first with
  | nan => cases order
  | infinite negative => cases second <;> cases negative <;> simp_all [le]
  | finite first => cases second <;> simp_all [le]

/-- A number that is not at most another one is above it. -/
theorem lt_of_not_le {first second : PyFloat} (firstNumber : first ≠ .nan)
    (secondNumber : second ≠ .nan) (above : first.le second = false) :
    second.lt first = true := by
  have order := (le_total firstNumber secondNumber).resolve_left (by simp [above])
  simp [lt, order, above]

/-- A number that is not below another one is at least as large. -/
theorem le_of_not_lt {first second : PyFloat} (firstNumber : first ≠ .nan)
    (secondNumber : second ≠ .nan) (above : first.lt second = false) :
    second.le first = true := by
  by_cases order : second.le first = true
  · exact order
  · have below := lt_of_not_le secondNumber firstNumber (by simpa using order)
    rw [above] at below
    cases below

theorem lt_iff {first second : PyFloat} :
    first.lt second = true ↔ first.le second = true ∧ second.le first = false := by
  simp [lt]

end PyFloat

/-! ## Values that are numbers -/

namespace PyValue

/-- The number of a value for which `isinstance(value, int)`. -/
def integer? : PyValue → Option ℤ
  | .bool value => some (if value then 1 else 0)
  | .int value => some value
  | _ => Option.none

/-- The number of a value for which `isinstance(value, (int, float))`. -/
def number? : PyValue → Option PyFloat
  | .bool value => some (.finite (if value then 1 else 0))
  | .int value => some (.finite value)
  | .float value => some value
  | _ => Option.none

/-- The float that stands for a value in arithmetic with a float. -/
def operand : PyValue → Except PyError PyFloat
  | .bool value => .ok (.finite (if value then 1 else 0))
  | .int value => PyFloat.ofInt value
  | .float value => .ok value
  | _ => .error .other

/-- `value * factor` for a number and an integer. -/
def times (value : PyValue) (factor : ℤ) : Except PyError PyFloat :=
  match value.integer? with
  | some value => .ok (.finite (value * factor))
  | Option.none =>
    match value with
    | .float value => .ok (value.mul (.finite factor))
    | _ => .error .other

end PyValue

end PcDiagnosticAgent
