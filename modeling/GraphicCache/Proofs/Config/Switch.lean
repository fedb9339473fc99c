/-
Switches. A text switches something on or off exactly if it is one of eight words between white
space, each letter in either case. The words are looked for after lower-casing over all of Unicode,
but no letter beyond ASCII lowers to one of theirs.
-/
import GraphicCache.Config.Environment
import GraphicCache.Proofs.Text.Blank
import GraphicCache.Proofs.Text.Lowercase

namespace GraphicCache.Config

open Text

variable {cs body : List Char} {word other raw : String} {words : List String}

/-! ## Words -/

/-- The text is the word, each letter in either case, between white space. -/
def IsWord (cs : List Char) (word : String) : Prop :=
  ∃ before body after, Blank before ∧ Blank after ∧ body.map Char.toLower = word.toList ∧
    cs = before ++ body ++ after

/-- Trimming leaves the word as it is, and only letters of ASCII lower to it. -/
structure Plain (word : String) : Prop where
  ascii : Ascii word.toList
  noK : 'k' ∉ word.toList
  solid : ∀ c ∈ word.toList, isBlank c = false

theorem isBlank_toLower (c : Char) : isBlank c.toLower = isBlank c := by
  by_cases ascii : c.toNat < 128
  · exact forall_ascii (P := fun c => isBlank c.toLower = isBlank c) (by decide +kernel) ascii
  · rw [toLower_of_not_ascii (not_lt.1 ascii)]

theorem Plain.bare (plain : Plain word) (spelled : body.map Char.toLower = word.toList) :
    Bare body := by
  refine bare_of_forall fun c hc => ?_
  rw [← isBlank_toLower]
  exact plain.solid _ (spelled ▸ List.mem_map_of_mem hc)

theorem Plain.isWord_iff (plain : Plain word) :
    IsWord cs word ↔ lower (trim cs) = word.toList := by
  rw [lower_eq_iff plain.ascii plain.noK]
  constructor
  · rintro ⟨before, body, after, blank, blank', spelled, rfl⟩
    rwa [trim_append blank blank' (plain.bare spelled)]
  · intro spelled
    obtain ⟨-, before, after, blank, blank', split⟩ := trim_eq_iff.1 (Eq.refl (trim cs))
    exact ⟨before, trim cs, after, blank, blank', spelled, split⟩

/-- A text is one word at most. -/
theorem Plain.unique (plain : Plain word) (plain' : Plain other) (h : IsWord cs word)
    (h' : IsWord cs other) : word = other :=
  String.toList_injective ((plain.isWord_iff.1 h).symm.trans (plain'.isWord_iff.1 h'))

theorem plain_of_mem (h : word ∈ wordsForOn ++ wordsForOff) : Plain word := by
  -- as a Boolean: a quantifier over characters would be decided by going through all of Unicode
  have all : ∀ word ∈ wordsForOn ++ wordsForOff,
      (word.toList.all fun c => c.toNat < 128 && c != 'k' && !isBlank c) = true := by
    decide +kernel
  simp only [List.all_eq_true, Bool.and_eq_true, decide_eq_true_eq, bne_iff_ne,
    Bool.not_eq_true'] at all
  exact ⟨fun c hc => (all word h c hc).1.1, fun hk => (all word h 'k' hk).1.2 rfl,
    fun c hc => (all word h c hc).2⟩

/-! ## Switches -/

theorem any_iff (known : words ⊆ wordsForOn ++ wordsForOff) :
    words.any (·.toList == lower (trim cs)) = true ↔ ∃ word ∈ words, IsWord cs word := by
  rw [List.any_eq_true]
  refine exists_congr fun word => and_congr_right fun hw => ?_
  rw [(plain_of_mem (known hw)).isWord_iff, beq_iff_eq, eq_comm]

theorem any_on_iff : wordsForOn.any (·.toList == lower (trim cs)) = true ↔
    ∃ word ∈ wordsForOn, IsWord cs word :=
  any_iff (List.subset_append_left _ _)

theorem any_off_iff : wordsForOff.any (·.toList == lower (trim cs)) = true ↔
    ∃ word ∈ wordsForOff, IsWord cs word :=
  any_iff (List.subset_append_right _ _)

theorem not_off_of_on (on : ∃ word ∈ wordsForOn, IsWord cs word) :
    ¬ ∃ word ∈ wordsForOff, IsWord cs word := by
  rintro ⟨word, hw, isWord⟩
  obtain ⟨other, hw', isWord'⟩ := on
  have same : word = other :=
    (plain_of_mem (List.mem_append_right _ hw)).unique (plain_of_mem (List.mem_append_left _ hw'))
      isWord isWord'
  have apart : ∀ word ∈ wordsForOff, word ∉ wordsForOn := by decide
  exact apart word hw (same ▸ hw')

theorem readSwitch_eq_true : readSwitch raw = some true ↔
    ∃ word ∈ wordsForOn, IsWord raw.toList word := by
  rw [← any_on_iff]
  unfold readSwitch
  dsimp only
  split
  · next on => simp [on]
  · next off => split <;> simp [off]

theorem readSwitch_eq_false : readSwitch raw = some false ↔
    ∃ word ∈ wordsForOff, IsWord raw.toList word := by
  unfold readSwitch
  dsimp only
  split
  · next on => simp [not_off_of_on (any_on_iff.1 on)]
  · rw [← any_off_iff]
    split
    · next off => simp [off]
    · next neither => simp [neither]

theorem readSwitch_eq_none : readSwitch raw = none ↔
    ∀ word ∈ wordsForOn ++ wordsForOff, ¬ IsWord raw.toList word := by
  constructor
  · intro refused word hw isWord
    rcases List.mem_append.1 hw with on | off
    · exact Option.some_ne_none _ ((readSwitch_eq_true.2 ⟨word, on, isWord⟩).symm.trans refused)
    · exact Option.some_ne_none _ ((readSwitch_eq_false.2 ⟨word, off, isWord⟩).symm.trans refused)
  · intro nowhere
    refine Option.eq_none_iff_forall_ne_some.2 (Bool.forall_bool.2 ⟨?_, ?_⟩)
    · intro accepted
      obtain ⟨word, off, isWord⟩ := readSwitch_eq_false.1 accepted
      exact nowhere word (List.mem_append_right _ off) isWord
    · intro accepted
      obtain ⟨word, on, isWord⟩ := readSwitch_eq_true.1 accepted
      exact nowhere word (List.mem_append_left _ on) isWord

/-- Beyond ASCII there is nothing that a switch could be made of. -/
theorem readSwitch_of_not_ascii {c : Char} (hc : c ∈ trim raw.toList) (outside : 128 ≤ c.toNat) :
    readSwitch raw = none := by
  refine readSwitch_eq_none.2 fun word hw isWord => ?_
  have plain := plain_of_mem hw
  have lowered := plain.isWord_iff.1 isWord
  have ascii : Ascii (trim raw.toList) :=
    ascii_of_lower (lowered ▸ plain.ascii) (lowered ▸ plain.noK)
  exact absurd (ascii c hc) (not_lt.2 outside)

/-- A text is accepted exactly if it is, between white space and in letters of either case, one of
the four words that switch on or one of the four that switch off, and then it says what the word
does. Lower case is taken over all of Unicode, but a text with any character beyond ASCII between
the white space at its ends is refused. -/
theorem switches_are_plain_words (raw : String) :
    (readSwitch raw = some true ↔
      ∃ word ∈ ["true", "1", "yes", "on"], IsWord raw.toList word) ∧
    (readSwitch raw = some false ↔
      ∃ word ∈ ["false", "0", "no", "off"], IsWord raw.toList word) ∧
    (readSwitch raw = none ↔
      ∀ word ∈ ["true", "1", "yes", "on", "false", "0", "no", "off"], ¬ IsWord raw.toList word) ∧
    ∀ before body after, Blank before → Blank after → Bare body →
      raw.toList = before ++ body ++ after → (∃ c ∈ body, 128 ≤ c.toNat) →
        readSwitch raw = none := by
  refine ⟨readSwitch_eq_true, readSwitch_eq_false, readSwitch_eq_none, ?_⟩
  rintro before body after blank blank' bare split ⟨c, hc, outside⟩
  have trimmed : trim raw.toList = body := by
    rw [split, trim_append blank blank' bare]
  exact readSwitch_of_not_ascii (trimmed ▸ hc) outside

/-- Wide spaces may stand around a word, but a long s, which is an s in upper case, may not stand in
it. -/
theorem long_s_is_refused :
    readSwitch "\u3000YeS\u00a0" = some true ∧ readSwitch "\u3000YE\u017f\u00a0" = none := by
  obtain ⟨on, -⟩ := switches_are_plain_words "\u3000YeS\u00a0"
  obtain ⟨-, -, -, refused⟩ := switches_are_plain_words "\u3000YE\u017f\u00a0"
  have front : Blank ['\u3000'] := List.forall_mem_singleton.2 (by decide)
  have back : Blank ['\u00a0'] := List.forall_mem_singleton.2 (by decide)
  have bare : Bare ['Y', 'E', '\u017f'] := ⟨by rintro _ ⟨⟩; decide, by rintro _ ⟨⟩; decide⟩
  constructor
  · exact on.2 ⟨"yes", by decide, _, ['Y', 'e', 'S'], _, front, back, by decide, by decide⟩
  · exact refused _ _ _ front back bare (by decide) ⟨'\u017f', by decide, by decide⟩

end GraphicCache.Config
