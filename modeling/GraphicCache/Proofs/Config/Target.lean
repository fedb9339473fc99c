/-
The usage that a sweep aims at, seven tenths of the limit as doubles compute it.
-/
import GraphicCache.Amount
import GraphicCache.Config
import GraphicCache.Proofs.Binary64
import Mathlib.Data.Rat.Floor

namespace GraphicCache

open Binary64

/-! ## From doubles to amounts -/

namespace Amount

/-- The whole number next to a fraction on the way to zero. -/
def truncate (x : ℚ) : ℤ := if 0 ≤ x then ⌊x⌋ else ⌈x⌉

/-- The amount closest to a whole number. -/
def saturate (n : ℤ) : ℤ := max least (min greatest n)

theorem truncate_neg {x : ℚ} (nonneg : 0 ≤ x) : truncate (-x) = -truncate x := by
  unfold truncate
  rw [if_pos nonneg]
  split
  · next nonpos =>
    obtain rfl : x = 0 := le_antisymm (by linarith) nonneg
    simp
  · exact Int.ceil_neg

theorem truncate_div (n d : ℕ) : truncate (n / d) = (n / d : ℕ) := by
  unfold truncate
  rw [if_pos (by positivity)]
  exact Rat.floor_natCast_div_natCast n d

theorem saturate_of_fits {n : ℤ} (h : fits n = true) : saturate n = n := by
  obtain ⟨low, high⟩ := fits_iff.1 h
  rw [saturate, min_eq_right high, max_eq_right low]

end Amount

namespace Config

/-! ## Seven tenths as a double -/

/-- The double of 0.7 is a little too small. -/
theorem sevenTenths_eq : 10 * sevenTenths + 4 = 7 * 2 ^ 53 := by decide

theorem rounds_sevenTenths : Rounds (7 / 10) (sevenTenths / 2 ^ 53) := by
  have rounded : Rounds ((7 * 2 ^ 53 : ℕ) / (10 : ℕ)) (roundDiv (7 * 2 ^ 53) 10) :=
    rounds_roundDiv (by decide) (by decide)
  have scaled := rounded.scale (-53)
  rw [show roundDiv (7 * 2 ^ 53) 10 = sevenTenths by decide] at scaled
  convert scaled using 1 <;> norm_num [div_eq_mul_inv]

/-! ## The target as it is computed -/

/-- How doubles compute a target: the limit and 0.7 are made doubles, and their product is made a
double, cut to a whole number and kept within the amounts. -/
structure Computes (limit : ℤ) (converted factor product : ℚ) (target : ℤ) : Prop where
  conversion : Rounds limit converted
  constant : Rounds (7 / 10) factor
  multiplication : Rounds (converted * factor) product
  cut : target = Amount.saturate (Amount.truncate product)

/-- Doubles compute one product and one target. -/
theorem Computes.unique {limit target target' : ℤ} {converted factor product : ℚ}
    {converted' factor' product' : ℚ} (h : Computes limit converted factor product target)
    (h' : Computes limit converted' factor' product' target') :
    product' = product ∧ target' = target := by
  have multiplication := h'.multiplication
  rw [h.conversion.unique h'.conversion, h.constant.unique h'.constant] at multiplication
  have same : product' = product := h.multiplication.unique multiplication
  exact ⟨same, by rw [h'.cut, h.cut, same]⟩

theorem targetOf_eq (n : ℕ) : targetOf n = nearest (nearest n * sevenTenths) / 2 ^ 53 := by
  rw [targetOf, Nat.shiftRight_eq_div_pow]

/-- The product of doubles is computed in units of `2 ^ -53`. -/
theorem rounds_product (n : ℕ) :
    Rounds (nearest n * (sevenTenths / 2 ^ 53)) (nearest (nearest n * sevenTenths) / 2 ^ 53) := by
  have scaled := (rounds_nearest (nearest n * sevenTenths)).scale (-53)
  have unit : (2 : ℚ) ^ (-53 : ℤ) = 1 / 2 ^ 53 := by norm_num
  rw [unit, mul_one_div, mul_one_div, Nat.cast_mul, mul_div_assoc] at scaled
  exact scaled

theorem truncate_product (n : ℕ) :
    Amount.truncate (nearest (nearest n * sevenTenths) / 2 ^ 53) = targetOf n := by
  rw [targetOf_eq, ← Amount.truncate_div]
  push_cast
  rfl

theorem targetOf_mono {a b : ℕ} (le : a ≤ b) : targetOf a ≤ targetOf b := by
  rw [targetOf_eq, targetOf_eq]
  exact Nat.div_le_div_right (nearest_mono (Nat.mul_le_mul_right _ (nearest_mono le)))

/-- Neither rounding makes up for the three tenths. -/
theorem targetOf_lt {n : ℕ} (pos : 0 < n) : targetOf n < n := by
  have converted := (relative_dist_nearest_le n).2
  have product := (relative_dist_nearest_le (nearest n * sevenTenths)).2
  rw [targetOf_eq, Nat.div_lt_iff_lt_mul (by decide)]
  unfold sevenTenths at *
  omega

theorem targetOf_le (n : ℕ) : targetOf n ≤ n := by
  rcases Nat.eq_zero_or_pos n with rfl | pos
  · decide
  · exact (targetOf_lt pos).le

/-! ## Targets of all limits -/

/-- Seen from zero, a limit has the same target in both directions. -/
theorem target_of_nonneg {c : Config} (nonneg : 0 ≤ c.memoryLimit) :
    c.target = targetOf c.memoryLimit.natAbs := by
  unfold target
  rcases nonneg.lt_or_eq with pos | zero
  · rw [Int.sign_eq_one_of_pos pos, one_mul]
  · rw [← zero]
    decide

theorem target_of_nonpos {c : Config} (nonpos : c.memoryLimit ≤ 0) :
    c.target = -targetOf c.memoryLimit.natAbs := by
  unfold target
  rcases nonpos.lt_or_eq with neg | zero
  · rw [Int.sign_eq_neg_one_of_neg neg, neg_one_mul]
  · rw [zero]
    decide

theorem target_mono {c d : Config} (le : c.memoryLimit ≤ d.memoryLimit) : c.target ≤ d.target := by
  rcases le_total 0 c.memoryLimit with nonneg | nonpos
  · rw [target_of_nonneg nonneg, target_of_nonneg (nonneg.trans le)]
    exact_mod_cast targetOf_mono (by omega)
  · rw [target_of_nonpos nonpos]
    rcases le_total 0 d.memoryLimit with nonneg' | nonpos'
    · rw [target_of_nonneg nonneg']
      omega
    · rw [target_of_nonpos nonpos']
      have less : targetOf d.memoryLimit.natAbs ≤ targetOf c.memoryLimit.natAbs :=
        targetOf_mono (by omega)
      omega

/-- A target lies between zero and its limit. -/
theorem target_between (c : Config) :
    (0 ≤ c.memoryLimit → 0 ≤ c.target ∧ c.target ≤ c.memoryLimit) ∧
      (c.memoryLimit ≤ 0 → c.memoryLimit ≤ c.target ∧ c.target ≤ 0) := by
  have le := targetOf_le c.memoryLimit.natAbs
  constructor
  · intro nonneg
    rw [target_of_nonneg nonneg]
    omega
  · intro nonpos
    rw [target_of_nonpos nonpos]
    omega

theorem target_lt {c : Config} (pos : 0 < c.memoryLimit) : c.target < c.memoryLimit := by
  rw [target_of_nonneg pos.le]
  have less := targetOf_lt (n := c.memoryLimit.natAbs) (by omega)
  omega

theorem fits_target {c : Config} (h : Amount.fits c.memoryLimit = true) :
    Amount.fits c.target = true := by
  obtain ⟨above, below⟩ := c.target_between
  rw [Amount.fits_iff, Amount.least, Amount.greatest] at *
  omega

/-- The target of every limit is what doubles compute. -/
theorem computes_target {c : Config} (h : Amount.fits c.memoryLimit = true) :
    ∃ converted factor product, Computes c.memoryLimit converted factor product c.target ∧
      Amount.truncate product = c.target := by
  have kept := (Amount.saturate_of_fits (fits_target h)).symm
  have conversion := rounds_nearest c.memoryLimit.natAbs
  have multiplication := rounds_product c.memoryLimit.natAbs
  have cut := truncate_product c.memoryLimit.natAbs
  rcases le_total 0 c.memoryLimit with nonneg | nonpos
  · have limit : (c.memoryLimit : ℚ) = c.memoryLimit.natAbs := by
      rw [← Int.cast_natCast, Int.natAbs_of_nonneg nonneg]
    have cut := cut.trans (target_of_nonneg nonneg).symm
    refine ⟨_, _, _, ⟨limit ▸ conversion, rounds_sevenTenths, multiplication, ?_⟩, cut⟩
    rw [cut, ← kept]
  · have limit : (c.memoryLimit : ℚ) = -c.memoryLimit.natAbs := by
      rw [← Int.cast_natCast, Int.ofNat_natAbs_of_nonpos nonpos, Int.cast_neg, neg_neg]
    have cut := (Amount.truncate_neg (by positivity)).trans
      ((congrArg Neg.neg cut).trans (target_of_nonpos nonpos).symm)
    refine ⟨_, _, _, ⟨limit ▸ conversion.neg, rounds_sevenTenths, ?_, ?_⟩, cut⟩
    · rw [neg_mul]
      exact multiplication.neg
    · rw [cut, ← kept]

theorem computes_iff {c : Config} (h : Amount.fits c.memoryLimit = true) (target : ℤ) :
    (∃ converted factor product, Computes c.memoryLimit converted factor product target) ↔
      target = c.target := by
  obtain ⟨_, _, _, computed, -⟩ := computes_target h
  constructor
  · rintro ⟨_, _, _, other⟩
    exact (computed.unique other).2
  · rintro rfl
    exact ⟨_, _, _, computed⟩

/-- The product is never beyond the amounts. -/
theorem Computes.truncate_eq {c : Config} {converted factor product : ℚ} {target : ℤ}
    (computed : Computes c.memoryLimit converted factor product target)
    (h : Amount.fits c.memoryLimit = true) :
    Amount.truncate product = target ∧ Amount.fits target = true := by
  obtain ⟨_, _, _, own, cut⟩ := computes_target h
  obtain ⟨rfl, rfl⟩ := own.unique computed
  exact ⟨cut, fits_target h⟩

end Config

end GraphicCache
