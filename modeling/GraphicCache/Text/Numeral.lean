/-
Decimal numerals: a sign, where one is allowed, and one or more ASCII digits, with any number of
zeros in front. A numeral whose value is outside the range asked for is no numeral of that range.
-/
import GraphicCache.Amount

namespace GraphicCache.Text

/-! ## Digits -/

/-- Whether a character is one of the ten ASCII digits. -/
def isDigit (c : Char) : Bool := '0' ≤ c && c ≤ '9'

/-- The value of digits read after a number `n`. -/
def digitsFrom (n : Nat) : List Char → Nat
  | [] => n
  | c :: rest => digitsFrom (10 * n + (c.toNat - '0'.toNat)) rest

/-- The value of a digit string; there has to be at least one digit, and nothing else. -/
def readDigits (cs : List Char) : Option Nat :=
  if cs ≠ [] ∧ cs.all isDigit then some (digitsFrom 0 cs) else none

/-! ## Signs -/

/-- A numeral without a minus sign. -/
def readNatural : List Char → Option Nat
  | '+' :: rest => readDigits rest
  | cs => readDigits cs

/-- A numeral with any sign or none. -/
def readInteger : List Char → Option Int
  | '-' :: rest => (readDigits rest).map fun n => -(n : Int)
  | cs => (readNatural cs).map fun n => (n : Int)

/-! ## Ranges -/

/-- A numeral of the unsigned 64-bit range. -/
def readUnsigned64 (cs : List Char) : Option Nat :=
  (readNatural cs).filter fun n => n < UInt64.size

/-- A numeral of the signed 64-bit range. -/
def readSigned64 (cs : List Char) : Option Int :=
  (readInteger cs).filter Amount.fits

example : readSigned64 "-0".toList = some 0 := by decide +kernel
example : readUnsigned64 "-0".toList = none := by decide +kernel
example : readUnsigned64 "+007".toList = some 7 := by decide +kernel
example : readSigned64 "9223372036854775808".toList = none := by decide +kernel

end GraphicCache.Text
