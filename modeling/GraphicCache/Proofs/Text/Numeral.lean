/-
Numerals, told by the positional value of their digits. Reading from left to right finds this value,
and the text of every number is read as this number, also with zeros, a sign or white space around
it.
-/
import GraphicCache.Proofs.Text.Blank
import GraphicCache.Text.Numeral
import Mathlib.Data.Nat.Digits.Defs
import Mathlib.Tactic.IntervalCases

namespace GraphicCache.Text

variable {cs : List Char} {n : ℕ}

/-! ## Digits -/

/-- The text writes the number in decimal digits; zeros may stand in front. -/
def Spells (cs : List Char) (n : ℕ) : Prop :=
  ∃ ds : List ℕ, ds ≠ [] ∧ (∀ d ∈ ds, d < 10) ∧ cs = ds.map Nat.digitChar ∧
    n = Nat.ofDigits 10 ds.reverse

theorem isBlank_digitChar {d : ℕ} (h : d < 10) : isBlank d.digitChar = false := by
  decide +revert

theorem isDigit_digitChar {d : ℕ} (h : d < 10) : isDigit d.digitChar = true := by
  decide +revert

theorem toNat_digitChar {d : ℕ} (h : d < 10) : d.digitChar.toNat - '0'.toNat = d := by
  decide +revert

/-- There are no other digits. -/
theorem exists_digitChar {c : Char} (h : isDigit c = true) : ∃ d < 10, c = Nat.digitChar d := by
  have bounds : 48 ≤ c.toNat ∧ c.toNat ≤ 57 := by
    simpa [isDigit, Char.le_def, UInt32.le_iff_toNat_le] using h
  obtain ⟨low, high⟩ := bounds
  rw [← Char.ofNat_toNat c]
  generalize c.toNat = k at *
  refine ⟨k - 48, by omega, ?_⟩
  interval_cases k <;> rfl

theorem digitsFrom_cons (n : ℕ) (c : Char) (rest : List Char) :
    digitsFrom n (c :: rest) = digitsFrom (10 * n + (c.toNat - '0'.toNat)) rest := by
  -- Lean finds no equations for `digitsFrom`, as it reduces the subtraction in it
  delta digitsFrom
  rfl

theorem digitsFrom_eq (n : ℕ) (cs : List Char) : digitsFrom n cs = Nat.ofDigitChars 10 cs n := by
  induction cs generalizing n with
  | nil => exact Nat.ofDigitChars_nil.symm
  | cons c rest ih => rw [digitsFrom_cons, ih, Nat.ofDigitChars_cons]

/-- Digits that follow a number take its place and push it to the left. -/
theorem digitsFrom_map {ds : List ℕ} (small : ∀ d ∈ ds, d < 10) (n : ℕ) :
    digitsFrom n (ds.map Nat.digitChar) = Nat.ofDigits 10 ds.reverse + 10 ^ ds.length * n := by
  induction ds generalizing n with
  | nil =>
    show n = Nat.ofDigits 10 [] + 10 ^ 0 * n
    rw [Nat.ofDigits_nil, Nat.zero_add, pow_zero, Nat.one_mul]
  | cons d ds ih =>
    rw [List.forall_mem_cons] at small
    rw [List.map_cons, digitsFrom_cons, toNat_digitChar small.1, ih small.2, List.reverse_cons,
      Nat.ofDigits_append, List.length_reverse, Nat.ofDigits_singleton, List.length_cons, pow_succ]
    ring

theorem exists_map_digitChar (h : ∀ c ∈ cs, isDigit c = true) :
    ∃ ds : List ℕ, (∀ d ∈ ds, d < 10) ∧ cs = ds.map Nat.digitChar := by
  induction cs with
  | nil => exact ⟨[], by simp, rfl⟩
  | cons c cs ih =>
    rw [List.forall_mem_cons] at h
    obtain ⟨d, small, rfl⟩ := exists_digitChar h.1
    obtain ⟨ds, smalls, rfl⟩ := ih h.2
    exact ⟨d :: ds, List.forall_mem_cons.2 ⟨small, smalls⟩, rfl⟩

theorem Spells.digits (h : Spells cs n) : cs ≠ [] ∧ ∀ c ∈ cs, isDigit c = true := by
  obtain ⟨ds, some, small, rfl, -⟩ := h
  refine ⟨fun none => some (List.map_eq_nil_iff.1 none), fun c hc => ?_⟩
  obtain ⟨d, hd, rfl⟩ := List.mem_map.1 hc
  exact isDigit_digitChar (small d hd)

theorem Spells.value (h : Spells cs n) : digitsFrom 0 cs = n := by
  obtain ⟨ds, -, small, rfl, rfl⟩ := h
  rw [digitsFrom_map small, Nat.mul_zero, Nat.add_zero]

theorem spells_digitsFrom (some : cs ≠ []) (digits : ∀ c ∈ cs, isDigit c = true) :
    Spells cs (digitsFrom 0 cs) := by
  obtain ⟨ds, small, rfl⟩ := exists_map_digitChar digits
  refine ⟨ds, fun none => some (by rw [none, List.map_nil]), small, rfl, ?_⟩
  rw [digitsFrom_map small, Nat.mul_zero, Nat.add_zero]

theorem readDigits_eq_some : readDigits cs = some n ↔ Spells cs n := by
  unfold readDigits
  rw [Option.ite_none_right_eq_some, List.all_eq_true, Option.some_inj]
  constructor
  · rintro ⟨⟨some, digits⟩, rfl⟩
    exact spells_digitsFrom some digits
  · exact fun h => ⟨h.digits, h.value⟩

/-- Zeros in front change nothing. -/
theorem Spells.zeros (h : Spells cs n) (k : ℕ) : Spells (List.replicate k '0' ++ cs) n := by
  obtain ⟨ds, some, small, rfl, rfl⟩ := h
  refine ⟨List.replicate k 0 ++ ds, by simp [some], fun d hd => ?_, by simp, ?_⟩
  · rcases List.mem_append.1 hd with zero | digit
    · rw [List.eq_of_mem_replicate zero]
      decide
    · exact small d digit
  · rw [List.reverse_append, List.reverse_replicate, Nat.ofDigits_append_replicate_zero]

/-- The text of a number spells it. -/
theorem spells_toString (n : ℕ) : Spells (toString n).toList n := by
  have value : digitsFrom 0 (Nat.toDigits 10 n) = n := by
    rw [digitsFrom_eq, Nat.ofDigitChars_toDigits (by decide) (by decide)]
  have digits : ∀ c ∈ Nat.toDigits 10 n, isDigit c = true := fun c hc =>
    Nat.isDigit_of_mem_toDigits (by decide) (by decide) hc
  have spelled := spells_digitsFrom Nat.toDigits_ne_nil digits
  rwa [value, ← Nat.toList_repr, ← Nat.toString_eq_repr] at spelled

/-! ## Signs -/

/-- What may stand in front of digits. -/
inductive Sign where
  | none
  | plus
  | minus
  deriving DecidableEq

def Sign.text : Sign → List Char
  | .none => []
  | .plus => ['+']
  | .minus => ['-']

def Sign.apply (n : ℕ) : Sign → ℤ
  | .minus => -n
  | _ => n

theorem readNatural_eq_some : readNatural cs = some n ↔
    ∃ sign digits, sign ≠ Sign.minus ∧ Spells digits n ∧ cs = sign.text ++ digits := by
  unfold readNatural
  split
  · next rest =>
    rw [readDigits_eq_some]
    constructor
    · exact fun h => ⟨.plus, rest, by decide, h, rfl⟩
    · rintro ⟨sign, digits, unsigned, h, split⟩
      cases sign with
      | none =>
        obtain rfl : '+' :: rest = digits := split
        exact absurd (h.digits.2 '+' (by simp)) (by decide)
      | plus =>
        obtain rfl : rest = digits := List.cons.inj split |>.2
        exact h
      | minus => exact absurd rfl unsigned
  · next other =>
    rw [readDigits_eq_some]
    constructor
    · exact fun h => ⟨.none, cs, by decide, h, rfl⟩
    · rintro ⟨sign, digits, unsigned, h, rfl⟩
      cases sign with
      | none => exact h
      | plus => exact absurd rfl (other digits)
      | minus => exact absurd rfl unsigned

theorem map_eq_some {x : Option ℕ} {f : ℤ → ℤ} {k : ℤ} :
    Option.map f (do let a ← x; pure (a : ℤ)) = some k ↔ ∃ n, x = some n ∧ f n = k := by
  cases x <;> simp

theorem readInteger_eq_some {k : ℤ} : readInteger cs = some k ↔
    ∃ sign digits n, Spells digits n ∧ cs = Sign.text sign ++ digits ∧ k = sign.apply n := by
  unfold readInteger
  split
  · next rest =>
    rw [map_eq_some]
    constructor
    · rintro ⟨n, h, rfl⟩
      exact ⟨.minus, rest, n, readDigits_eq_some.1 h, rfl, rfl⟩
    · rintro ⟨sign, digits, n, h, split, rfl⟩
      cases sign with
      | none =>
        obtain rfl : '-' :: rest = digits := split
        exact absurd (h.digits.2 '-' (by simp)) (by decide)
      | plus => cases split
      | minus =>
        obtain rfl : rest = digits := List.cons.inj split |>.2
        exact ⟨n, readDigits_eq_some.2 h, rfl⟩
  · next other =>
    simp only [map_eq_some, readNatural_eq_some]
    constructor
    · rintro ⟨n, ⟨sign, digits, unsigned, h, rfl⟩, rfl⟩
      refine ⟨sign, digits, n, h, rfl, ?_⟩
      cases sign with
      | none | plus => rfl
      | minus => exact absurd rfl unsigned
    · rintro ⟨sign, digits, n, h, rfl, rfl⟩
      have unsigned : sign ≠ .minus := by
        rintro rfl
        exact other digits rfl
      refine ⟨n, ⟨sign, digits, unsigned, h, rfl⟩, ?_⟩
      cases sign with
      | none | plus => rfl
      | minus => exact absurd rfl unsigned

/-! ## White space -/

/-- Between white space the text has a sign, or none, and the digits of a number. -/
def Denotes (cs : List Char) (sign : Sign) (n : ℕ) : Prop :=
  ∃ before digits after, Blank before ∧ Blank after ∧ Spells digits n ∧
    cs = before ++ (sign.text ++ digits) ++ after

theorem Spells.bare (h : Spells cs n) (sign : Sign) : Bare (sign.text ++ cs) := by
  obtain ⟨ds, -, small, rfl, -⟩ := h
  refine bare_of_forall fun c hc => ?_
  rcases List.mem_append.1 hc with front | digit
  · cases sign <;> simp_all [Sign.text] <;> decide
  · obtain ⟨d, hd, rfl⟩ := List.mem_map.1 digit
    exact isBlank_digitChar (small d hd)

theorem denotes_iff {sign : Sign} :
    Denotes cs sign n ↔ ∃ digits, Spells digits n ∧ trim cs = sign.text ++ digits := by
  constructor
  · rintro ⟨before, digits, after, blank, blank', h, rfl⟩
    exact ⟨digits, h, trim_append blank blank' (h.bare sign)⟩
  · rintro ⟨digits, h, trimmed⟩
    obtain ⟨-, before, after, blank, blank', split⟩ := trim_eq_iff.1 trimmed
    exact ⟨before, digits, after, blank, blank', h, split⟩

theorem Denotes.readInteger {sign : Sign} (h : Denotes cs sign n) :
    readInteger (trim cs) = some (sign.apply n) := by
  obtain ⟨digits, spelled, trimmed⟩ := denotes_iff.1 h
  exact readInteger_eq_some.2 ⟨sign, digits, n, spelled, trimmed, rfl⟩

/-- A text denotes one number at most. -/
theorem Denotes.unique {sign sign' : Sign} {m : ℕ} (h : Denotes cs sign n)
    (h' : Denotes cs sign' m) : m = n := by
  have same := Option.some.inj (h.readInteger.symm.trans h'.readInteger)
  cases sign <;> cases sign' <;> simp only [Sign.apply] at same <;> omega

end GraphicCache.Text
