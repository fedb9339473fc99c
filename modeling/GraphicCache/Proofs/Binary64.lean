/-
Rounding to doubles, told without an algorithm. A double is a whole number of at most 53 bits times
a power of two; a number is rounded to a double that no other is closer to, and if another is just
as close, to the one with the even significand. There is one such double for each number, and the
arithmetic on whole numbers finds it. What is shown further, that rounding keeps the order and moves
a number by little, follows from being closest and not from the way in which it is computed.
-/
import GraphicCache.Binary64
import Mathlib.Algebra.Order.Field.Power
import Mathlib.Algebra.Order.Ring.Abs
import Mathlib.Data.Rat.Cast.Order
import Mathlib.Tactic.FieldSimp
import Mathlib.Tactic.Linarith
import Mathlib.Tactic.Positivity
import Mathlib.Tactic.Ring

namespace GraphicCache.Binary64

/-! ## Doubles -/

/-- The number is a double, the ends of the exponent range apart. -/
def IsDouble (x : ℚ) : Prop := ∃ m e : ℤ, m.natAbs < 2 ^ 53 ∧ x = m * 2 ^ e

/-- The number is a double, and of its 53 bits the last is zero. -/
def HasEvenSignificand (x : ℚ) : Prop :=
  ∃ m e : ℤ, 2 ^ 52 ≤ m.natAbs ∧ m.natAbs < 2 ^ 53 ∧ m % 2 = 0 ∧ x = m * 2 ^ e

/-- The number `x` is rounded to `y`. -/
structure Rounds (x y : ℚ) : Prop where
  double : IsDouble y
  closest : ∀ z, IsDouble z → |x - y| ≤ |x - z|
  /-- A tie goes to the even significand. -/
  even : ∀ z, IsDouble z → z ≠ y → |x - z| = |x - y| → HasEvenSignificand y

theorem two_zpow_pos (e : ℤ) : (0 : ℚ) < 2 ^ e := zpow_pos (by norm_num) e

theorem two_zpow_add (i j : ℤ) : (2 : ℚ) ^ (i + j) = 2 ^ i * 2 ^ j := zpow_add₀ (by norm_num) i j

/-- A significand may also be rounded up to `2 ^ 53`. -/
theorem isDouble_of_le {m : ℤ} (e : ℤ) (h : m.natAbs ≤ 2 ^ 53) : IsDouble (m * 2 ^ e) := by
  rcases h.lt_or_eq with less | full
  · exact ⟨m, e, less, rfl⟩
  · -- half of it is one bit shorter, with the next exponent
    obtain ⟨k, rfl⟩ : ∃ k, m = 2 * k := ⟨m / 2, by omega⟩
    refine ⟨k, e + 1, by omega, ?_⟩
    rw [two_zpow_add]
    push_cast
    ring

theorem isDouble_intCast {m : ℤ} (h : m.natAbs ≤ 2 ^ 53) : IsDouble m := by
  simpa using isDouble_of_le 0 h

theorem IsDouble.scale {x : ℚ} (h : IsDouble x) (i : ℤ) : IsDouble (x * 2 ^ i) := by
  obtain ⟨m, e, hm, rfl⟩ := h
  exact ⟨m, e + i, hm, by rw [two_zpow_add, mul_assoc]⟩

theorem IsDouble.neg {x : ℚ} (h : IsDouble x) : IsDouble (-x) := by
  obtain ⟨m, e, hm, rfl⟩ := h
  exact ⟨-m, e, by rwa [Int.natAbs_neg], by push_cast; ring⟩

theorem HasEvenSignificand.scale {x : ℚ} (h : HasEvenSignificand x) (i : ℤ) :
    HasEvenSignificand (x * 2 ^ i) := by
  obtain ⟨m, e, low, high, even, rfl⟩ := h
  exact ⟨m, e + i, low, high, even, by rw [two_zpow_add, mul_assoc]⟩

theorem HasEvenSignificand.neg {x : ℚ} (h : HasEvenSignificand x) : HasEvenSignificand (-x) := by
  obtain ⟨m, e, low, high, even, rfl⟩ := h
  exact ⟨-m, e, by rwa [Int.natAbs_neg], by rwa [Int.natAbs_neg], by omega, by push_cast; ring⟩

/-! ## What a number is rounded to -/

theorem IsDouble.rounds {x : ℚ} (h : IsDouble x) : Rounds x x where
  double := h
  closest z _ := by simp
  even z _ other tie := by
    rw [sub_self, abs_zero, abs_eq_zero, sub_eq_zero] at tie
    exact absurd tie.symm other

/-- Half way between two doubles with even significands lies a multiple of the smaller unit, so the
double next to one of them is closer to that than they are. -/
theorem closer_between {m e m' e' : ℤ} (hm : m.natAbs < 2 ^ 53) (even : m % 2 = 0)
    (even' : m' % 2 = 0) (le : e ≤ e') (other : (m' * 2 ^ e' : ℚ) ≠ m * 2 ^ e) {x : ℚ}
    (middle : x = ((m * 2 ^ e : ℚ) + m' * 2 ^ e') / 2) :
    ∃ z, IsDouble z ∧ |x - z| < |x - m * 2 ^ e| := by
  obtain ⟨i, rfl⟩ : ∃ i : ℕ, e' = e + i := ⟨(e' - e).toNat, by omega⟩
  obtain ⟨k, rfl⟩ : ∃ k, m = 2 * k := ⟨m / 2, by omega⟩
  obtain ⟨k', rfl⟩ : ∃ k', m' = 2 * k' := ⟨m' / 2, by omega⟩
  -- in units of `2 ^ e` the middle is `j` away from the first double
  obtain ⟨j, hj⟩ : ∃ j, j = k' * 2 ^ i - k := ⟨_, rfl⟩
  have pos := two_zpow_pos e
  have far : x - (2 * k : ℤ) * 2 ^ e = j * 2 ^ e := by
    rw [middle, hj, two_zpow_add, zpow_natCast]
    push_cast
    ring
  have distinct : j ≠ 0 := by
    intro none
    rw [none, Int.cast_zero, zero_mul, sub_eq_zero] at far
    apply other
    linarith
  refine ⟨((2 * k + j.sign : ℤ) : ℚ) * 2 ^ e, isDouble_of_le e ?_, ?_⟩
  · rcases Int.sign_trichotomy j with h | h | h <;> rw [h] <;> omega
  · have near : x - ((2 * k + j.sign : ℤ) : ℚ) * 2 ^ e = (j - j.sign : ℤ) * 2 ^ e := by
      push_cast at far ⊢
      linarith
    have fewer : |j - j.sign| < |j| := by
      rcases distinct.lt_or_gt with below | above
      · rw [Int.sign_eq_neg_one_of_neg below, abs_of_neg below, abs_of_nonpos (by omega)]
        omega
      · rw [Int.sign_eq_one_of_pos above, abs_of_pos above, abs_of_nonneg (by omega)]
        omega
    rw [near, far, abs_mul, abs_mul, abs_of_pos pos, ← Int.cast_abs, ← Int.cast_abs]
    exact mul_lt_mul_of_pos_right (Int.cast_lt.2 fewer) pos

namespace Rounds

variable {x x' y y' z : ℚ}

/-- A number is rounded to one double. -/
theorem unique (h : Rounds x y) (h' : Rounds x y') : y' = y := by
  by_contra other
  have tie : |x - y'| = |x - y| := le_antisymm (h'.closest y h.double) (h.closest y' h'.double)
  obtain ⟨m, e, -, short, even, hy⟩ := h.even y' h'.double other tie
  obtain ⟨m', e', -, short', even', hy'⟩ := h'.even y h.double (Ne.symm other) tie.symm
  -- two doubles that are equally close have the number half way between them
  have middle : x = (y + y') / 2 := by
    rcases abs_eq_abs.1 tie with same | opposite
    · exact absurd (by linarith) other
    · linarith
  rcases le_total e e' with le | le
  · obtain ⟨z, double, closer⟩ := closer_between (x := x) short even even' le
      (by rwa [← hy, ← hy']) (by rw [← hy, ← hy', middle])
    exact (h.closest z double).not_gt (hy ▸ closer)
  · obtain ⟨z, double, closer⟩ := closer_between (x := x) short' even' even le
      (by rw [← hy, ← hy']; exact Ne.symm other) (by rw [← hy, ← hy', middle, add_comm])
    exact (h'.closest z double).not_gt (hy' ▸ closer)

/-- Doubles are not passed by: rounding stays on the side of each of them. -/
theorem le_double (h : Rounds x y) (double : IsDouble z) (le : x ≤ z) : y ≤ z := by
  by_contra above
  have close := h.closest z double
  rw [abs_sub_comm x y, abs_sub_comm x z, abs_of_nonneg (by linarith),
    abs_of_nonneg (by linarith)] at close
  linarith

theorem double_le (h : Rounds x y) (double : IsDouble z) (le : z ≤ x) : z ≤ y := by
  by_contra below
  have close := h.closest z double
  rw [abs_of_nonneg (by linarith), abs_of_nonneg (by linarith)] at close
  linarith

/-- The closer of two numbers is on the same side of their middle. -/
theorem middle_le (less : z < y) (closer : |x - y| ≤ |x - z|) : y + z ≤ 2 * x := by
  have squares := sq_le_sq.2 closer
  nlinarith

theorem le_middle (less : z < y) (closer : |x - z| ≤ |x - y|) : 2 * x ≤ y + z := by
  have squares := sq_le_sq.2 closer
  nlinarith

/-- Rounding keeps the order. -/
theorem mono (h : Rounds x y) (h' : Rounds x' y') (le : x ≤ x') : y ≤ y' := by
  rcases le.lt_or_eq with less | rfl
  · by_contra swapped
    have above := middle_le (not_le.1 swapped) (h.closest y' h'.double)
    have below := le_middle (not_le.1 swapped) (h'.closest y h.double)
    linarith
  · exact (h.unique h').ge

theorem dist_neg (x z : ℚ) : |-x - z| = |x - -z| := by
  rw [← abs_neg, neg_sub', neg_neg]

theorem neg (h : Rounds x y) : Rounds (-x) (-y) where
  double := h.double.neg
  closest z double := by
    rw [dist_neg, dist_neg, neg_neg]
    exact h.closest (-z) double.neg
  even z double other tie := by
    rw [dist_neg, dist_neg, neg_neg] at tie
    exact (h.even (-z) double.neg (fun same => other (by rw [← same, neg_neg])) tie).neg

theorem dist_scale (x z : ℚ) (i : ℤ) : |x * 2 ^ i - z * 2 ^ i| = |x - z| * 2 ^ i := by
  rw [← sub_mul, abs_mul, abs_of_pos (two_zpow_pos i)]

/-- Every double is another one times a given power of two. -/
theorem exists_scale (double : IsDouble z) (i : ℤ) : ∃ z', IsDouble z' ∧ z = z' * 2 ^ i := by
  refine ⟨z * 2 ^ (-i), double.scale (-i), ?_⟩
  rw [mul_assoc, ← two_zpow_add, neg_add_cancel, zpow_zero, mul_one]

theorem scale (h : Rounds x y) (i : ℤ) : Rounds (x * 2 ^ i) (y * 2 ^ i) where
  double := h.double.scale i
  closest _ hz := by
    obtain ⟨z, double, rfl⟩ := exists_scale hz i
    rw [dist_scale, dist_scale]
    exact mul_le_mul_of_nonneg_right (h.closest z double) (two_zpow_pos i).le
  even _ hz other tie := by
    obtain ⟨z, double, rfl⟩ := exists_scale hz i
    rw [dist_scale, dist_scale] at tie
    exact (h.even z double (fun same => other (by rw [same]))
      (mul_right_cancel₀ (two_zpow_pos i).ne' tie)).scale i

end Rounds

/-! ## Rounding to a whole number -/

theorem roundDiv_cases (n d : ℕ) :
    (roundDiv n d = n / d ∧ 2 * (n % d) ≤ d ∧ (2 * (n % d) = d → n / d % 2 = 0)) ∨
      (roundDiv n d = n / d + 1 ∧ d ≤ 2 * (n % d) ∧ (2 * (n % d) = d → (n / d + 1) % 2 = 0)) := by
  unfold roundDiv
  dsimp only
  split_ifs <;> omega

/-- A quotient is at most one half away from the whole number that it is rounded to, and if it lies
half way between two of them, this one is even. -/
theorem roundDiv_spec (n : ℕ) {d : ℕ} (pos : 0 < d) :
    |(n / d : ℚ) - roundDiv n d| ≤ 1 / 2 ∧
      (|(n / d : ℚ) - roundDiv n d| = 1 / 2 → roundDiv n d % 2 = 0) := by
  have hd : (0 : ℚ) < d := by exact_mod_cast pos
  have split : (n / d : ℚ) = (n / d : ℕ) + (n % d : ℕ) / d := by
    have whole : (n : ℚ) = d * (n / d : ℕ) + (n % d : ℕ) := by
      exact_mod_cast (Nat.div_add_mod n d).symm
    rw [whole]
    field_simp
  have rest : ((n % d : ℕ) : ℚ) < d := by exact_mod_cast Nat.mod_lt n pos
  rcases roundDiv_cases n d with ⟨down, close, even⟩ | ⟨up, close, even⟩
  · have close : ((n % d : ℕ) / d : ℚ) ≤ 1 / 2 := by
      rw [div_le_div_iff₀ hd two_pos]
      have : (2 * (n % d : ℕ) : ℚ) ≤ d := by exact_mod_cast close
      linarith
    have away : (n / d : ℚ) - roundDiv n d = (n % d : ℕ) / d := by rw [down, split]; ring
    rw [away, abs_of_nonneg (by positivity)]
    refine ⟨close, fun half => ?_⟩
    rw [div_eq_div_iff hd.ne' two_ne_zero, one_mul, mul_comm] at half
    exact down ▸ even (by exact_mod_cast half)
  · have close : (1 / 2 : ℚ) ≤ (n % d : ℕ) / d := by
      rw [div_le_div_iff₀ two_pos hd]
      have : (d : ℚ) ≤ 2 * (n % d : ℕ) := by exact_mod_cast close
      linarith
    have below : ((n % d : ℕ) / d : ℚ) < 1 := (div_lt_one hd).2 rest
    have away : (n / d : ℚ) - roundDiv n d = -(1 - (n % d : ℕ) / d) := by
      rw [up, split]
      push_cast
      ring
    rw [away, abs_neg, abs_of_nonneg (by linarith)]
    refine ⟨by linarith, fun half => ?_⟩
    have half : ((n % d : ℕ) / d : ℚ) = 1 / 2 := by linarith
    rw [div_eq_div_iff hd.ne' two_ne_zero, one_mul, mul_comm] at half
    exact up ▸ even (by exact_mod_cast half)

/-- Any other whole number is at least one half away. -/
theorem half_le_of_ne {x : ℚ} {y k : ℤ} (close : |x - y| ≤ 1 / 2) (other : k ≠ y) :
    1 / 2 ≤ |x - k| := by
  have apart : (1 : ℚ) ≤ |(y : ℚ) - k| := by
    exact_mod_cast Int.one_le_abs (sub_ne_zero.2 other.symm)
  have through := abs_sub_le (y : ℚ) x k
  rw [abs_sub_comm (y : ℚ) x] at through
  linarith

/-- The doubles above `2 ^ 52 - 1 / 2` are whole numbers. -/
theorem IsDouble.whole_or_small {z : ℚ} (h : IsDouble z) :
    (∃ k : ℤ, z = k) ∨ z ≤ 2 ^ 52 - 1 / 2 := by
  obtain ⟨m, e, hm, rfl⟩ := h
  rcases le_or_gt 0 e with whole | fraction
  · obtain ⟨i, rfl⟩ := Int.eq_ofNat_of_zero_le whole
    exact .inl ⟨m * 2 ^ i, by push_cast; rw [zpow_natCast]⟩
  · have unit : (2 : ℚ) ^ e ≤ 2 ^ (-1 : ℤ) := zpow_le_zpow_right₀ (by norm_num) (by omega)
    have most : (m : ℚ) ≤ 2 ^ 53 - 1 := by exact_mod_cast (show m ≤ 2 ^ 53 - 1 by omega)
    have product : (m : ℚ) * 2 ^ e ≤ (2 ^ 53 - 1) * 2 ^ (-1 : ℤ) :=
      mul_le_mul most unit (two_zpow_pos e).le (by norm_num)
    exact .inr (product.trans (by norm_num))

/-- A quotient of 53 bits before the point is rounded to a whole number. -/
theorem rounds_roundDiv {n d : ℕ} (low : 2 ^ 52 * d ≤ n) (high : n < 2 ^ 53 * d) :
    Rounds (n / d) (roundDiv n d) := by
  have pos : 0 < d := by omega
  have above := (Nat.le_div_iff_mul_le pos).2 low
  have below := (Nat.div_lt_iff_lt_mul pos).2 high
  have bounds : 2 ^ 52 ≤ roundDiv n d ∧ roundDiv n d ≤ 2 ^ 53 := by
    rcases roundDiv_cases n d with ⟨is, -⟩ | ⟨is, -⟩ <;> omega
  obtain ⟨close, even⟩ := roundDiv_spec n pos
  have large : (2 ^ 52 : ℚ) ≤ n / d := by
    rw [le_div_iff₀ (by exact_mod_cast pos)]
    exact_mod_cast low
  have far {z : ℚ} (double : IsDouble z) (other : z ≠ roundDiv n d) :
      1 / 2 ≤ |(n / d : ℚ) - z| := by
    rcases double.whole_or_small with ⟨k, rfl⟩ | small
    · exact half_le_of_ne (y := roundDiv n d) (by exact_mod_cast close) (by exact_mod_cast other)
    · rw [abs_of_nonneg (by linarith)]
      linarith
  refine ⟨?_, fun z double => ?_, fun z double other tie => ?_⟩
  · exact_mod_cast isDouble_intCast (m := roundDiv n d) (by omega)
  · by_cases same : z = roundDiv n d
    · rw [same]
    · exact close.trans (far double same)
  · have even := even (le_antisymm close (tie ▸ far double other))
    rcases bounds.2.lt_or_eq with less | full
    · exact ⟨roundDiv n d, 0, by omega, by omega, by omega, by simp⟩
    · exact ⟨2 ^ 52, 1, by decide, by decide, by decide, by rw [full]; norm_num⟩

/-! ## Rounding a whole number -/

theorem lt_excess (n : ℕ) : n < 2 ^ (excessBits n + 53) := by
  refine (Nat.lt_log2_self (n := n)).trans_le (Nat.pow_le_pow_right (by decide) ?_)
  unfold excessBits
  omega

theorem excess_le {n : ℕ} (excess : excessBits n ≠ 0) : 2 ^ (excessBits n + 52) ≤ n := by
  have pos : n ≠ 0 := by
    rintro rfl
    exact excess (by decide)
  have least := Nat.log2_self_le pos
  rwa [show n.log2 = excessBits n + 52 by unfold excessBits at *; omega] at least

theorem nearest_eq (n : ℕ) : nearest n = roundDiv n (2 ^ excessBits n) * 2 ^ excessBits n := by
  unfold nearest
  rw [Nat.shiftLeft_eq, Nat.shiftLeft_eq, one_mul]

/-- Up to 53 bits are kept as they are. -/
theorem nearest_of_excess_eq_zero {n : ℕ} (none : excessBits n = 0) : nearest n = n := by
  rw [nearest_eq, none, pow_zero, mul_one]
  rcases roundDiv_cases n 1 with ⟨is, -⟩ | ⟨-, close, -⟩
  · rw [is, Nat.div_one]
  · omega

theorem rounds_nearest (n : ℕ) : Rounds n (nearest n) := by
  by_cases excess : excessBits n = 0
  · rw [nearest_of_excess_eq_zero excess]
    have short := lt_excess n
    rw [excess] at short
    exact_mod_cast (isDouble_intCast (m := n) (by omega)).rounds
  · have low : 2 ^ 52 * 2 ^ excessBits n ≤ n := by
      rw [← pow_add, add_comm]
      exact excess_le excess
    have high : n < 2 ^ 53 * 2 ^ excessBits n := by
      rw [← pow_add, add_comm]
      exact lt_excess n
    have scaled := (rounds_roundDiv low high).scale (excessBits n)
    rw [zpow_natCast, Nat.cast_pow, Nat.cast_two, div_mul_cancel₀ _ (by positivity)] at scaled
    rw [nearest_eq]
    exact_mod_cast scaled

theorem nearest_mono {a b : ℕ} (le : a ≤ b) : nearest a ≤ nearest b := by
  exact_mod_cast (rounds_nearest a).mono (rounds_nearest b) (by exact_mod_cast le)

/-- Whole numbers of up to 53 bits are not passed by, and neither are their products with powers of
two. -/
theorem nearest_le {n m : ℕ} (short : m ≤ 2 ^ 53) (i : ℕ) (le : n ≤ m * 2 ^ i) :
    nearest n ≤ m * 2 ^ i := by
  have double : IsDouble (m * 2 ^ i) := by
    exact_mod_cast isDouble_of_le (m := m) i (by omega)
  exact_mod_cast (rounds_nearest n).le_double double (by exact_mod_cast le)

theorem le_nearest {n m : ℕ} (short : m ≤ 2 ^ 53) (i : ℕ) (le : m * 2 ^ i ≤ n) :
    m * 2 ^ i ≤ nearest n := by
  have double : IsDouble (m * 2 ^ i) := by
    exact_mod_cast isDouble_of_le (m := m) i (by omega)
  exact_mod_cast (rounds_nearest n).double_le double (by exact_mod_cast le)

/-- Rounding a whole number moves it by at most half of the unit of its double. -/
theorem dist_nearest_le (n : ℕ) :
    2 * n ≤ 2 * nearest n + 2 ^ excessBits n ∧ 2 * nearest n ≤ 2 * n + 2 ^ excessBits n := by
  have split := Nat.div_add_mod n (2 ^ excessBits n)
  rw [nearest_eq]
  rw [mul_comm] at split
  rcases roundDiv_cases n (2 ^ excessBits n) with ⟨is, close, -⟩ | ⟨is, close, -⟩
  · rw [is]
    omega
  · have rest := Nat.mod_lt n (Nat.two_pow_pos (excessBits n))
    rw [is, Nat.succ_mul (n / _)]
    omega

/-- It moves it by at most one part of `2 ^ 53`. -/
theorem relative_dist_nearest_le (n : ℕ) :
    2 ^ 53 * n ≤ 2 ^ 53 * nearest n + n ∧ 2 ^ 53 * nearest n ≤ 2 ^ 53 * n + n := by
  by_cases excess : excessBits n = 0
  · rw [nearest_of_excess_eq_zero excess]
    omega
  · have close := dist_nearest_le n
    have unit := excess_le excess
    rw [pow_add] at unit
    omega

end GraphicCache.Binary64
