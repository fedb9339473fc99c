/-
Rounding to the 53 significant bits of a double, ties to the even neighbour, in exact arithmetic on
natural numbers, and the bit pattern of a quotient of two such numbers. Only magnitudes far from
the ends of the exponent range occur, so neither subnormal numbers nor infinities do.
-/

namespace GraphicCache.Binary64

/-! ## Rounding -/

/-- The whole number nearest to `n / d`; half way between two, the even one. -/
def roundDiv (n d : Nat) : Nat :=
  let q := n / d
  let r := n % d
  if 2 * r < d then q
  else if d < 2 * r then q + 1
  else if q % 2 = 0 then q else q + 1

/-- How many low bits of `n` a double cannot hold. -/
def excessBits (n : Nat) : Nat := n.log2 + 1 - 53

/-- The double nearest to a natural number. It is a natural number too. -/
def nearest (n : Nat) : Nat :=
  roundDiv n (1 <<< excessBits n) <<< excessBits n

/-! ## Quotients -/

/-- The exponent of the leading bit of `a / b`, for positive numbers. -/
def leadingExponent (a b : Nat) : Int :=
  let e : Int := (a.log2 : Int) - (b.log2 : Int)
  if b <<< e.toNat ≤ a <<< (-e).toNat then e else e - 1

/-- The bits of the double nearest to the positive number `a / b`: the biased exponent above the
52 low bits of the significand, where a significand that rounds up to `2 ^ 53` carries into the
exponent. -/
def quotientBits (a b : Nat) : Nat :=
  let e := leadingExponent a b
  let m := roundDiv (a <<< (52 - e).toNat) (b <<< (e - 52).toNat)
  ((e + 1023).toNat <<< 52) + (m - (1 <<< 52))

/-- The bits of `n / d` for whole numbers that are first made doubles; `d` is positive. -/
def ratioBits (n : Int) (d : Nat) : Nat :=
  if n = 0 then 0
  else (if n < 0 then 1 <<< 63 else 0) + quotientBits (nearest n.natAbs) (nearest d)

/-! ## Bit patterns as text -/

/-- The sixteen hexadecimal digits of a bit pattern. -/
def hex (bits : Nat) : String :=
  let digits := Nat.toDigits 16 bits
  String.ofList (List.replicate (16 - digits.length) '0' ++ digits)

example : hex (ratioBits 250 1000) = "3fd0000000000000" := by decide +kernel
example : hex (ratioBits 1 3) = "3fd5555555555555" := by decide +kernel
example : nearest 9007199254740993 = 9007199254740992 := by decide +kernel
example : nearest 9007199254740995 = 9007199254740996 := by decide +kernel

end GraphicCache.Binary64
