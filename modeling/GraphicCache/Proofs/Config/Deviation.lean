/-
How far targets are from seven tenths of their limits. The double of 0.7 is smaller than 0.7, so a
product that should be a whole number lies a little below it before it is rounded; whether rounding
brings it back depends on the unit of the doubles there, which is told by the next power of two.
-/
import GraphicCache.Proofs.Config.Target
import Mathlib.Tactic.IntervalCases

namespace GraphicCache.Config

open Binary64

variable {n : ℕ}

/-! ## Where doubles and whole numbers differ -/

/-- Seven tenths of the limit are whole, and lie in the last eighth below a power of two. -/
def FallsShort (n : ℕ) : Prop :=
  n % 10 = 0 ∧ 7 * 2 ^ ((7 * n / 10).log2 + 1) < 8 * (7 * n / 10)

/-- Seven tenths of the limit end in .9 or .8, where doubles are half a byte or a byte apart and the
double of 0.7 does not take much from the product. -/
def Exceeds (n : ℕ) : Prop :=
  7 * n % 10 = 9 ∧ (2 ^ 51 ≤ 7 * n / 10 ∧ n < 3 * 2 ^ 50 ∨ 2 ^ 52 ≤ 7 * n / 10) ∨
    7 * n % 10 = 8 ∧ 2 ^ 52 ≤ 7 * n / 10 ∧ n < 3 * 2 ^ 51

instance decidableFallsShort (n : ℕ) : Decidable (FallsShort n) :=
  inferInstanceAs (Decidable (_ ∧ _))

instance decidableExceeds (n : ℕ) : Decidable (Exceeds n) :=
  inferInstanceAs (Decidable (_ ∨ _))

/-- What the target has over the whole part of seven tenths of the limit. -/
def surplus (n : ℕ) : ℤ := if FallsShort n then -1 else if Exceeds n then 1 else 0

/-! ## The product before rounding -/

theorem product_eq (n : ℕ) : 10 * (n * sevenTenths) + 4 * n = 7 * n * 2 ^ 53 := by
  calc 10 * (n * sevenTenths) + 4 * n = n * (10 * sevenTenths + 4) := by ring
    _ = 7 * n * 2 ^ 53 := by rw [sevenTenths_eq]; ring

theorem targetOf_of_le (short : n ≤ 2 ^ 53) :
    targetOf n = nearest (n * sevenTenths) / 2 ^ 53 := by
  have kept : nearest n = n := by
    have := nearest_le (n := n) short 0 (by omega)
    have := le_nearest (n := n) short 0 (by omega)
    omega
  rw [targetOf_eq, kept]

/-- The exponent of the unit is read off the size of a number. -/
theorem excessBits_le {m k : ℕ} (high : m < 2 ^ (k + 53)) : excessBits m ≤ k := by
  by_contra less
  have low := excess_le (n := m) (by omega)
  have := Nat.pow_le_pow_right (n := 2) (by decide) (show k + 53 ≤ excessBits m + 52 by omega)
  omega

theorem le_excessBits {m k : ℕ} (low : 2 ^ (k + 52) ≤ m) : k ≤ excessBits m := by
  by_contra less
  have high := lt_excess m
  have := Nat.pow_le_pow_right (n := 2) (by decide) (show excessBits m + 53 ≤ k + 52 by omega)
  omega

theorem excessBits_eq {m k : ℕ} (low : 2 ^ (k + 52) ≤ m) (high : m < 2 ^ (k + 53)) :
    excessBits m = k :=
  le_antisymm (excessBits_le high) (le_excessBits low)

/-- A number that lies less than half a unit below `p` times `2 ^ 53`, and more than half a unit
below the next multiple, is rounded to a double between the two. -/
theorem nearest_div_eq {m p : ℕ} (fine : excessBits m ≤ 53)
    (low : 2 * (p * 2 ^ 53) < 2 * m + 2 ^ excessBits m)
    (high : 2 * m + 2 ^ excessBits m < 2 * ((p + 1) * 2 ^ 53)) : nearest m / 2 ^ 53 = p := by
  have close := dist_nearest_le m
  -- both the double and the multiple are multiples of the unit
  obtain ⟨h, whole⟩ : ∃ h, 2 ^ 53 = h * 2 ^ excessBits m :=
    ⟨2 ^ (53 - excessBits m), by rw [← pow_add, Nat.sub_add_cancel fine]⟩
  have reached : p * 2 ^ 53 ≤ nearest m := by
    have less : p * 2 ^ 53 < nearest m + 2 ^ excessBits m := by omega
    rw [nearest_eq] at less ⊢
    rw [whole, ← mul_assoc] at less ⊢
    rw [← Nat.succ_mul] at less
    exact Nat.mul_le_mul_right _ (Nat.le_of_lt_succ (Nat.lt_of_mul_lt_mul_right less))
  rw [Nat.div_eq_iff (by decide)]
  omega

/-- The unit of the product: one byte, half a byte, a quarter, or less. -/
theorem unit_cases {m : ℕ} (small : m < 2 ^ 106) :
    excessBits m ≤ 53 ∧
      (2 ^ 105 ≤ m ∧ 2 ^ excessBits m = 2 ^ 53 ∨
        2 ^ 104 ≤ m ∧ m < 2 ^ 105 ∧ 2 ^ excessBits m = 2 ^ 52 ∨
        2 ^ 103 ≤ m ∧ m < 2 ^ 104 ∧ 2 ^ excessBits m = 2 ^ 51 ∨
        m < 2 ^ 103 ∧ 2 ^ excessBits m ≤ 2 ^ 50 ∧ 2 ^ excessBits m * 2 ^ 52 ≤ m + 2 ^ 52) := by
  by_cases byte : 2 ^ 105 ≤ m
  · rw [excessBits_eq (k := 53) byte small]
    exact ⟨le_rfl, .inl ⟨byte, rfl⟩⟩
  by_cases half : 2 ^ 104 ≤ m
  · rw [excessBits_eq (k := 52) half (by omega)]
    exact ⟨by decide, .inr (.inl ⟨half, by omega, rfl⟩)⟩
  by_cases quarter : 2 ^ 103 ≤ m
  · rw [excessBits_eq (k := 51) quarter (by omega)]
    exact ⟨by decide, .inr (.inr (.inl ⟨quarter, by omega, rfl⟩))⟩
  by_cases excess : excessBits m = 0
  · rw [excess]
    omega
  · have low := excess_le excess
    have less : excessBits m ≤ 50 := excessBits_le (by omega)
    have unit : 2 ^ excessBits m ≤ 2 ^ 50 := Nat.pow_le_pow_right (by decide) less
    rw [pow_add] at low
    omega

/-- If seven tenths of the limit are no whole number, only limits beyond `2 ^ 51` come out high. -/
theorem targetOf_of_fraction (short : n ≤ 2 ^ 53) (fraction : 7 * n % 10 ≠ 0) :
    (Exceeds n → targetOf n = 7 * n / 10 + 1) ∧ (¬ Exceeds n → targetOf n = 7 * n / 10) := by
  rcases eq_or_ne n (3 * 2 ^ 51) with rfl | tied
  · decide +kernel
  have scale := product_eq n
  obtain ⟨fine, units⟩ := unit_cases (m := n * sevenTenths) (by omega)
  have rounded (p : ℕ) := nearest_div_eq (p := p) fine
  rw [targetOf_of_le short]
  unfold Exceeds
  generalize n * sevenTenths = m at *
  generalize 2 ^ excessBits m = unit at *
  obtain ⟨q, hq⟩ : ∃ q, q = 7 * n / 10 := ⟨_, rfl⟩
  obtain ⟨r, hr⟩ : ∃ r, r = 7 * n % 10 := ⟨_, rfl⟩
  have split : 7 * n = 10 * q + r := by omega
  have digit : r < 10 := by omega
  rw [← hq, ← hr] at *
  clear hq hr
  constructor
  · intro exceeds
    apply rounded
    · rcases exceeds with ⟨rfl, h⟩ | ⟨rfl, h⟩ <;> rcases units with u | u | u | u <;> omega
    · rcases exceeds with ⟨rfl, h⟩ | ⟨rfl, h⟩ <;> rcases units with u | u | u | u <;> omega
  · intro reaches
    apply rounded
    · rcases units with u | u | u | u <;> interval_cases r <;> omega
    · rcases units with u | u | u | u <;> interval_cases r <;> omega

/-- The product for a limit of `10 * j`, where half a unit is missing to a whole number. -/
theorem nearest_div_of_tie {m j : ℕ} (pos : 0 < j) (unit : 2 ^ excessBits m = 8 * j)
    (scale : m + 4 * j = 7 * j * 2 ^ 53) : nearest m / 2 ^ 53 = 7 * j := by
  have quotient : m / (8 * j) = 7 * 2 ^ 50 - 1 ∧ m % (8 * j) = 4 * j := by
    rw [Nat.div_mod_unique (by omega)]
    omega
  rw [nearest_eq, unit]
  -- the quotient is odd, so the tie goes up
  rcases roundDiv_cases m (8 * j) with ⟨-, -, even⟩ | ⟨up, -, -⟩
  · omega
  · rw [up, quotient.1]
    omega

/-- If they are a whole number, the double of 0.7 may be too small for the product to reach it. -/
theorem targetOf_of_whole (short : n ≤ 2 ^ 53) (whole : n % 10 = 0) :
    (FallsShort n → targetOf n + 1 = 7 * n / 10) ∧ (¬ FallsShort n → targetOf n = 7 * n / 10) := by
  obtain ⟨j, rfl⟩ : ∃ j, n = 10 * j := ⟨n / 10, by omega⟩
  rcases j.eq_zero_or_pos with rfl | pos
  · decide
  have scale : 10 * j * sevenTenths + 4 * j = 7 * j * 2 ^ 53 := by
    have := product_eq (10 * j)
    omega
  have below := Nat.log2_self_le (n := 7 * j) (by omega)
  have above := Nat.lt_log2_self (n := 7 * j)
  have noPower : 2 ^ (7 * j).log2 ≠ 7 * j := fun power =>
    absurd ((Nat.Coprime.pow_right _ (by decide)).eq_one_of_dvd (Dvd.intro _ power.symm))
      (by decide : 7 ≠ 1)
  rw [targetOf_of_le short]
  unfold FallsShort
  rw [show 7 * (10 * j) / 10 = 7 * j by omega]
  generalize 10 * j * sevenTenths = m at *
  generalize (7 * j).log2 = l at *
  rw [pow_succ] at above ⊢
  have bits : excessBits m = l + 1 := by
    apply excessBits_eq
    · rw [add_assoc, pow_add]
      omega
    · rw [add_assoc, pow_add]
      omega
  have unit : 2 ^ excessBits m = 2 ^ l * 2 := by rw [bits, pow_succ]
  have fine : excessBits m ≤ 53 := (unit_cases (by omega)).1
  constructor
  · intro falls
    have : nearest m / 2 ^ 53 = 7 * j - 1 := nearest_div_eq fine (by omega) (by omega)
    omega
  · intro reaches
    rcases eq_or_ne (2 ^ l) (4 * j) with tie | distinct
    · exact nearest_div_of_tie pos (by omega) scale
    · exact nearest_div_eq fine (by omega) (by omega)

/-- Up to `2 ^ 53` the surplus is all that doubles add. -/
theorem targetOf_eq_add_surplus (short : n ≤ 2 ^ 53) :
    (targetOf n : ℤ) = (7 * n / 10 : ℕ) + surplus n := by
  unfold surplus
  by_cases whole : n % 10 = 0
  · obtain ⟨falls, reaches⟩ := targetOf_of_whole short whole
    have reached : ¬ Exceeds n := by
      unfold Exceeds
      omega
    split_ifs with h
    · have := falls h
      omega
    · rw [reaches h, add_zero]
  · obtain ⟨exceeds, reaches⟩ := targetOf_of_fraction short (by omega)
    rw [if_neg fun h : FallsShort n => whole h.1]
    split_ifs with h
    · rw [exceeds h]
      rfl
    · rw [reaches h, add_zero]

/-! ## Above `2 ^ 53` -/

/-- The distance of a number of up to `k + 53` bits from its double. -/
theorem dist_nearest_le_of_lt {m k : ℕ} (high : m < 2 ^ (k + 53)) :
    2 * m ≤ 2 * nearest m + 2 ^ k ∧ 2 * nearest m ≤ 2 * m + 2 ^ k := by
  have close := dist_nearest_le m
  have unit := Nat.pow_le_pow_right (n := 2) (by decide) (excessBits_le high)
  omega

/-- Three roundings move the target of an amount by up to 1280 bytes. -/
theorem targetOf_near (fits : n < 2 ^ 63) :
    7 * n ≤ 10 * targetOf n + 12800 ∧ 10 * targetOf n ≤ 7 * n + 12800 := by
  rcases le_or_gt n (2 ^ 53) with short | long
  · have := targetOf_eq_add_surplus short
    unfold surplus at this
    split_ifs at this <;> omega
  · have converted := dist_nearest_le_of_lt (m := n) (k := 10) (by omega)
    have least := le_nearest (n := n) (m := 2 ^ 53) le_rfl 0 (by omega)
    rw [targetOf_eq]
    have scale := product_eq (nearest n)
    have multiplied := dist_nearest_le_of_lt (m := nearest n * sevenTenths) (k := 63) (by omega)
    -- doubles of this size are whole numbers
    have whole : 2 ^ 53 ∣ nearest (nearest n * sevenTenths) := by
      rw [nearest_eq]
      exact Dvd.dvd.mul_left (pow_dvd_pow 2 (le_excessBits (by omega))) _
    omega

/-! ## Targets -/

/-- The target of a limit is what doubles make of it. Up to `2 ^ 53` it is the whole part of seven
tenths of the limit with the surplus, and above within 1280 bytes of them. -/
theorem target_follows_seven_tenths {c : Config} (nonneg : 0 ≤ c.memoryLimit)
    (fits : c.memoryLimit ≤ Amount.greatest) :
    (∀ target, (∃ converted factor product,
        Computes c.memoryLimit converted factor product target) ↔ target = c.target) ∧
      (c.memoryLimit ≤ 2 ^ 53 →
        c.target = 7 * c.memoryLimit / 10 + surplus c.memoryLimit.natAbs) ∧
      |10 * c.target - 7 * c.memoryLimit| ≤ 12800 := by
  refine ⟨computes_iff (Amount.fits_iff.2 ⟨by unfold Amount.least; omega, fits⟩), ?_, ?_⟩
  · intro short
    rw [target_of_nonneg nonneg, targetOf_eq_add_surplus (by omega)]
    omega
  · unfold Amount.greatest at fits
    have near := targetOf_near (n := c.memoryLimit.natAbs) (by omega)
    rw [target_of_nonneg nonneg, abs_le]
    omega

/-- Seven tenths of 90 bytes are 63, but the target is 62. -/
theorem target_of_ninety_falls_short :
    let c := { builtIn with memoryLimit := 90 }
    (0 ≤ c.memoryLimit ∧ c.memoryLimit ≤ Amount.greatest ∧ c.memoryLimit ≤ 2 ^ 53) ∧
      surplus c.memoryLimit.natAbs = -1 ∧ c.target = 62 ∧
      ∃ converted factor product, Computes c.memoryLimit converted factor product 62 := by
  obtain ⟨computed, follows, -⟩ := target_follows_seven_tenths
    (c := { builtIn with memoryLimit := 90 }) (by decide) (by decide)
  have short : surplus 90 = -1 := by decide
  have less := follows (by decide)
  exact ⟨by decide, short, less.trans (by decide), (computed 62).2 (less.trans (by decide)).symm⟩

theorem target_is_not_seven_tenths :
    ¬ ∀ c : Config, 0 ≤ c.memoryLimit → c.memoryLimit ≤ Amount.greatest →
      c.target = 7 * c.memoryLimit / 10 := by
  intro claim
  have reached := claim { builtIn with memoryLimit := 90 } (by decide) (by decide)
  exact absurd reached (by decide +kernel)

end GraphicCache.Config
