/-
Trimming, told by its result: what is left of a text once white space was taken from both ends, and
no more can be taken.
-/
import GraphicCache.Text.Blank
import Mathlib.Data.List.TakeWhile

namespace GraphicCache.Text

/-- There is nothing but white space. -/
def Blank (cs : List Char) : Prop := ∀ c ∈ cs, isBlank c = true

/-- White space stands neither at the beginning nor at the end. -/
structure Bare (cs : List Char) : Prop where
  first : ∀ c ∈ cs.head?, isBlank c = false
  last : ∀ c ∈ cs.getLast?, isBlank c = false

variable {cs body before after : List Char}

theorem bare_of_forall (h : ∀ c ∈ cs, isBlank c = false) : Bare cs where
  first c hc := h c (List.mem_of_mem_head? hc)
  last c hc := h c (List.mem_of_getLast? hc)

theorem Bare.reverse (h : Bare cs) : Bare cs.reverse where
  first c hc := h.last c (by rwa [List.head?_reverse] at hc)
  last c hc := h.first c (by rwa [List.getLast?_reverse] at hc)

theorem dropWhile_of_first (h : ∀ c ∈ cs.head?, isBlank c = false) : cs.dropWhile isBlank = cs := by
  cases cs with
  | nil => rfl
  | cons c rest => rw [List.dropWhile_cons_of_neg (by simp [h c rfl])]

theorem first_dropWhile (cs : List Char) :
    ∀ c ∈ (cs.dropWhile isBlank).head?, isBlank c = false := by
  intro c hc
  have h := List.head?_dropWhile_not isBlank cs
  rw [hc] at h
  simpa using h

/-- A text that has been trimmed at its beginning is what stood behind white space. -/
theorem exists_dropWhile (cs : List Char) :
    ∃ before, Blank before ∧ cs = before ++ cs.dropWhile isBlank :=
  ⟨cs.takeWhile isBlank, fun _ hc => List.mem_takeWhile_imp hc,
    List.takeWhile_append_dropWhile.symm⟩

theorem trim_append (blank : Blank before) (blank' : Blank after) (bare : Bare body) :
    trim (before ++ body ++ after) = body := by
  unfold trim
  rw [List.append_assoc, List.dropWhile_append_of_pos blank]
  cases body with
  | nil =>
    have none : after.dropWhile isBlank = [] := List.dropWhile_eq_nil_iff.2 blank'
    rw [List.nil_append, none]
    rfl
  | cons c rest =>
    have begun : ∀ x ∈ (c :: rest ++ after).head?, isBlank x = false := bare.first
    rw [dropWhile_of_first begun, List.reverse_append,
      List.dropWhile_append_of_pos fun c hc => blank' c (List.mem_reverse.1 hc),
      dropWhile_of_first bare.reverse.first, List.reverse_reverse]

theorem dropWhile_eq_trim_append (cs : List Char) :
    ∃ after, Blank after ∧ cs.dropWhile isBlank = trim cs ++ after := by
  obtain ⟨after, blank, split⟩ := exists_dropWhile (cs.dropWhile isBlank).reverse
  refine ⟨after.reverse, fun c hc => blank c (List.mem_reverse.1 hc), ?_⟩
  rw [trim, ← List.reverse_append, ← split, List.reverse_reverse]

theorem bare_trim (cs : List Char) : Bare (trim cs) where
  first c hc := by
    obtain ⟨after, -, split⟩ := dropWhile_eq_trim_append cs
    apply first_dropWhile cs
    rw [split, List.head?_append, Option.mem_def.1 hc]
    rfl
  last c hc := by
    rw [trim, List.getLast?_reverse] at hc
    exact first_dropWhile _ c hc

/-- What trimming leaves is the one bare text between white space. -/
theorem trim_eq_iff : trim cs = body ↔
    Bare body ∧ ∃ before after, Blank before ∧ Blank after ∧ cs = before ++ body ++ after := by
  constructor
  · rintro rfl
    obtain ⟨before, blank, split⟩ := exists_dropWhile cs
    obtain ⟨after, blank', split'⟩ := dropWhile_eq_trim_append cs
    refine ⟨bare_trim cs, before, after, blank, blank', ?_⟩
    rw [List.append_assoc, ← split', ← split]
  · rintro ⟨bare, before, after, blank, blank', rfl⟩
    exact trim_append blank blank' bare

end GraphicCache.Text
