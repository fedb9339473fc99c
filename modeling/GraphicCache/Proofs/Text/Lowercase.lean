/-
Lower case and ASCII. A character of ASCII lowers within ASCII, and of all others only the Kelvin
sign does. So a text lowers to a word of ASCII that has no k exactly if it is this word, each letter
in either case.
-/
import GraphicCache.Text.Lowercase
import Mathlib

namespace GraphicCache.Text

variable {c : Char} {cs word : List Char}

/-! ## Letters of ASCII -/

/-- All characters are in ASCII. -/
def Ascii (cs : List Char) : Prop := ∀ c ∈ cs, c.toNat < 128

theorem forall_ascii {P : Char → Prop} (h : ∀ n < 128, P (Char.ofNat n)) (ascii : c.toNat < 128) :
    P c := by
  rw [← Char.ofNat_toNat c]
  exact h c.toNat ascii

theorem isUpper_iff : c.isUpper = true ↔ 0x41 ≤ c.toNat ∧ c.toNat ≤ 0x5a := by
  simp [Char.isUpper, UInt32.le_iff_toNat_le]

theorem toLower_of_not_ascii (h : 128 ≤ c.toNat) : c.toLower = c := by
  refine Char.toLower_eq_of_not_isUpper fun upper => ?_
  obtain ⟨-, last⟩ := isUpper_iff.1 upper
  omega

theorem toLower_ascii_iff : c.toLower.toNat < 128 ↔ c.toNat < 128 := by
  constructor
  · intro h
    by_contra outside
    rw [toLower_of_not_ascii (by omega)] at h
    exact outside h
  · exact forall_ascii (P := fun c => c.toLower.toNat < 128) (by decide +kernel)

/-! ## Runs of letters -/

/-- The letters of ASCII in upper case. -/
def capitals : CaseRun := ⟨0x41, 0x5a, 1, 32⟩

/-- The Kelvin sign, which lowers to a k. -/
def kelvin : CaseRun := ⟨0x212a, 0x212a, 1, -8383⟩

/-- The run leads from characters beyond ASCII to characters beyond ASCII. -/
structure CaseRun.Beyond (r : CaseRun) : Prop where
  source : 128 ≤ r.first
  above : 128 ≤ r.first + r.shift
  /-- The surrogates are no characters. -/
  apart : r.last + r.shift < 0xd800 ∨ 0xdfff < r.first + r.shift
  below : r.last + r.shift < 0x110000

instance (r : CaseRun) : Decidable r.Beyond :=
  decidable_of_iff
    (128 ≤ r.first ∧ 128 ≤ r.first + r.shift ∧
      (r.last + r.shift < 0xd800 ∨ 0xdfff < r.first + r.shift) ∧ r.last + r.shift < 0x110000)
    ⟨fun ⟨source, above, apart, below⟩ => ⟨source, above, apart, below⟩,
      fun ⟨source, above, apart, below⟩ => ⟨source, above, apart, below⟩⟩

/-- Two runs lead into ASCII, and all others have nothing to do with it. -/
theorem cases_of_mem : ∀ r ∈ caseRuns, r = capitals ∨ r = kelvin ∨ r.Beyond := by
  decide +kernel

theorem CaseRun.covers_iff {r : CaseRun} {n : ℕ} : r.covers n = true ↔
    (r.first ≤ n ∧ n ≤ r.last) ∧ (n - r.first) % r.step = 0 := by
  simp only [CaseRun.covers, Bool.and_eq_true, decide_eq_true_eq, beq_iff_eq]

theorem CaseRun.bounds {r : CaseRun} {n : ℕ} (covered : r.covers n = true) :
    r.first ≤ n ∧ n ≤ r.last :=
  (CaseRun.covers_iff.1 covered).1

theorem covers_capitals : capitals.covers c.toNat = true ↔ c.isUpper = true := by
  rw [CaseRun.covers_iff, isUpper_iff]
  exact and_iff_left (Nat.mod_one _)

theorem covers_kelvin : kelvin.covers c.toNat = true ↔ c = '\u212a' := by
  constructor
  · intro covered
    obtain ⟨first, last⟩ := CaseRun.bounds covered
    rw [← Char.ofNat_toNat c, Nat.le_antisymm last first]
    rfl
  · rintro rfl
    rfl

theorem CaseRun.Beyond.not_ascii {r : CaseRun} (h : r.Beyond) (covered : r.covers c.toNat = true) :
    128 ≤ (Char.ofNat (c.toNat + r.shift).toNat).toNat := by
  obtain ⟨-, above, apart, below⟩ := h
  obtain ⟨first, last⟩ := CaseRun.bounds covered
  have valid : (c.toNat + r.shift).toNat.isValidChar := by
    unfold Nat.isValidChar
    omega
  rw [Char.toNat_ofNat, if_pos valid]
  omega

/-! ## Characters by themselves -/

theorem find?_of_isUpper (h : c.isUpper = true) :
    caseRuns.find? (·.covers c.toNat) = some capitals := by
  unfold caseRuns
  exact List.find?_cons_of_pos (covers_capitals.2 h)

theorem find?_of_ascii (h : c.toNat < 128) (lower : c.isUpper = false) :
    caseRuns.find? (·.covers c.toNat) = none := by
  refine List.find?_eq_none.2 fun r hr covered => ?_
  rcases cases_of_mem r hr with rfl | rfl | beyond
  · rw [covers_capitals.1 covered] at lower
    cases lower
  · rw [covers_kelvin.1 covered] at h
    exact absurd h (by decide)
  · have := beyond.source
    have := (CaseRun.bounds covered).1
    omega

theorem lowerChar_of_ascii (h : c.toNat < 128) : lowerChar c = [c.toLower] := by
  rw [lowerChar, if_neg (by omega)]
  cases upper : c.isUpper with
  | true =>
    rw [find?_of_isUpper upper, Char.toLower_eq_of_isUpper upper]
    rfl
  | false => rw [find?_of_ascii h upper, Char.toLower_eq_of_not_isUpper (by simp [upper])]

/-- The lower case of a character beyond ASCII is not within ASCII, but for the Kelvin sign. -/
theorem lowerChar_of_not_ascii (h : 128 ≤ c.toNat) :
    c = '\u212a' ∨ ∃ d ∈ lowerChar c, 128 ≤ d.toNat := by
  unfold lowerChar
  split
  · exact .inr ⟨Char.ofNat 0x307, by simp, by decide⟩
  · split
    · next r found =>
      have covered := List.find?_some found
      rcases cases_of_mem r (List.mem_of_find?_eq_some found) with rfl | rfl | beyond
      · obtain ⟨-, last⟩ := isUpper_iff.1 (covers_capitals.1 covered)
        omega
      · exact .inl (covers_kelvin.1 covered)
      · exact .inr ⟨_, List.mem_singleton_self _, beyond.not_ascii covered⟩
    · exact .inr ⟨c, List.mem_singleton_self c, h⟩

/-! ## Characters in their place -/

theorem lowerBetween_of_ne (h : c ≠ 'Σ') (before after : List Char) :
    lowerBetween before c after = lowerChar c := by
  simp [lowerBetween, h]

theorem lowerBetween_of_ascii (h : c.toNat < 128) (before after : List Char) :
    lowerBetween before c after = [c.toLower] := by
  rw [lowerBetween_of_ne, lowerChar_of_ascii h]
  rintro rfl
  exact absurd h (by decide)

/-- Whatever a sigma takes for its form, it is not in ASCII. -/
theorem lowerBetween_of_not_ascii (h : 128 ≤ c.toNat) (before after : List Char) :
    c = '\u212a' ∨ ∃ d ∈ lowerBetween before c after, 128 ≤ d.toNat := by
  unfold lowerBetween
  split
  · exact .inr ⟨'ς', List.mem_singleton_self _, by decide⟩
  · exact lowerChar_of_not_ascii h

/-! ## Texts -/

theorem lowerAfter_of_ascii (h : Ascii cs) (before : List Char) :
    lowerAfter before cs = cs.map Char.toLower := by
  induction cs generalizing before with
  | nil => rfl
  | cons c rest ih =>
    obtain ⟨first, others⟩ := List.forall_mem_cons.1 h
    rw [lowerAfter, lowerBetween_of_ascii first, ih others, List.map_cons, List.singleton_append]

/-- What a character lowers to where it stands is a part of the lower case of the text. -/
theorem exists_lowerBetween_subset (h : c ∈ cs) (before : List Char) :
    ∃ front back, lowerBetween front c back ⊆ lowerAfter before cs := by
  -- on the rest of the text, while the text before it grows
  induction cs generalizing before with
  | nil => cases h
  | cons first rest ih =>
    rcases List.mem_cons.1 h with rfl | later
    · exact ⟨before, rest, List.subset_append_left _ _⟩
    · obtain ⟨front, back, part⟩ := ih later (first :: before)
      exact ⟨front, back, List.subset_append_of_subset_right _ part⟩

/-- A text whose lower case is in ASCII is in ASCII itself, if no k comes from the Kelvin sign. -/
theorem ascii_of_lower (h : Ascii (lower cs)) (plain : 'k' ∉ lower cs) : Ascii cs := by
  intro c hc
  obtain ⟨front, back, part⟩ := exists_lowerBetween_subset hc []
  by_contra outside
  rcases lowerBetween_of_not_ascii (not_lt.1 outside) front back with rfl | ⟨d, hd, beyond⟩
  · exact plain (part (by rw [lowerBetween_of_ne (by decide)]; decide +kernel))
  · exact absurd (h d (part hd)) (not_lt.2 beyond)

/-- What lowers to a word of ASCII without a k is the word itself, each letter in either case. -/
theorem lower_eq_iff (ascii : Ascii word) (plain : 'k' ∉ word) :
    lower cs = word ↔ cs.map Char.toLower = word := by
  constructor
  · rintro rfl
    exact (lowerAfter_of_ascii (ascii_of_lower ascii plain) []).symm
  · rintro rfl
    refine lowerAfter_of_ascii (fun c hc => toLower_ascii_iff.1 ?_) []
    exact ascii _ (List.mem_map_of_mem hc)

/-- A k is the exception. -/
example : lower "o\u212a".toList = "ok".toList := by decide +kernel

end GraphicCache.Text
