/-
Amounts of bytes: whole numbers of the signed 64-bit range. A sum or a difference that leaves the
range is refused and names the operation, so no amount ever wraps around.
-/

namespace GraphicCache

/-- The operation whose exact result does not fit its 64-bit range. -/
inductive Overflow where
  | add
  | sub
  | mul
  deriving DecidableEq, Repr

/-- The wording under which an overflow is reported. -/
def Overflow.message : Overflow → String
  | .add => "attempt to add with overflow"
  | .sub => "attempt to subtract with overflow"
  | .mul => "attempt to multiply with overflow"

namespace Amount

/-! ## The range -/

def least : Int := -9223372036854775808

def greatest : Int := 9223372036854775807

/-- Whether a whole number is an amount. -/
def fits (n : Int) : Bool := least ≤ n && n ≤ greatest

theorem fits_iff {n : Int} : fits n = true ↔ least ≤ n ∧ n ≤ greatest := by
  simp [fits]

/-! ## Sums and differences -/

/-- The sum of two amounts, if it is one. -/
def add (a b : Int) : Except Overflow Int :=
  if fits (a + b) then .ok (a + b) else .error .add

/-- The difference of two amounts, if it is one. -/
def sub (a b : Int) : Except Overflow Int :=
  if fits (a - b) then .ok (a - b) else .error .sub

/-- Adds the amounts to `total` from left to right; every partial sum has to be an amount. -/
def sumFrom (total : Int) : List Int → Except Overflow Int
  | [] => .ok total
  | a :: rest => do
    let next ← add total a
    sumFrom next rest

/-- The sum of a list of amounts. -/
def sum (amounts : List Int) : Except Overflow Int := sumFrom 0 amounts

theorem add_eq_ok {a b c : Int} : add a b = .ok c ↔ fits (a + b) = true ∧ a + b = c := by
  unfold add; split <;> simp_all

theorem sub_eq_ok {a b c : Int} : sub a b = .ok c ↔ fits (a - b) = true ∧ a - b = c := by
  unfold sub; split <;> simp_all

end Amount

/-! ## Counts -/

/-- The product of two unsigned 64-bit counts, if it is one. -/
def mulCount (a b : Nat) : Except Overflow Nat :=
  if a * b < UInt64.size then .ok (a * b) else .error .mul

end GraphicCache
