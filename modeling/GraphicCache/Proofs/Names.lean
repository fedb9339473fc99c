/-
Lists of values under keys, of which no two are the same: an entry can be told apart from the others
by its key. Names are such lists as long as values are only put under names and taken away again.
-/
import GraphicCache.World
import Mathlib.Data.List.Nodup
import Mathlib.Data.List.Perm.Basic

namespace GraphicCache

/-- An entry, together with those that have other keys, is everything. -/
theorem perm_entry_others {κ α : Type} [DecidableEq κ] {l : List (κ × α)} {k : κ} {v : α}
    (distinct : (l.map Prod.fst).Nodup) (h : (k, v) ∈ l) :
    l.Perm ((k, v) :: l.filter fun e => e.1 != k) := by
  induction l with
  | nil => cases h
  | cons e rest ih =>
    rw [List.map_cons] at distinct
    obtain ⟨first, others⟩ := List.nodup_cons.1 distinct
    rcases List.mem_cons.1 h with rfl | later
    · have kept : rest.filter (fun e => e.1 != k) = rest := by
        refine List.filter_eq_self.2 fun e he => ?_
        have other : e.1 ≠ k := by
          rintro rfl
          exact first (List.mem_map.2 ⟨e, he, rfl⟩)
        simpa using other
      simp [kept]
    · have other : e.1 ≠ k := fun same => first (same ▸ List.mem_map_of_mem later)
      rw [List.filter_cons_of_pos (by simpa using other)]
      exact ((ih others later).cons e).trans (.swap _ _ _)

namespace Names

variable {α : Type} {names : Names α} {name : String} {value : α}

theorem mem_of_get? (h : names.get? name = some value) : (name, value) ∈ names := by
  obtain ⟨l₁, l₂, split, -⟩ := List.lookup_eq_some_iff.1 h
  rw [split]
  simp

theorem mem_put {e : String × α} (h : e ∈ names.put name value) : e = (name, value) ∨ e ∈ names :=
  (List.mem_cons.1 h).imp_right fun old => (List.mem_filter.1 old).1

theorem mem_erase {e : String × α} : e ∈ names.erase name ↔ e ∈ names ∧ e.1 ≠ name := by
  simp [erase]

/-! ## Distinct names -/

theorem value_unique (distinct : (names.map Prod.fst).Nodup) {value' : α}
    (h : (name, value) ∈ names) (h' : (name, value') ∈ names) : value = value' :=
  (Prod.mk.inj (List.inj_on_of_nodup_map distinct h h' rfl)).2

theorem distinct_erase (distinct : (names.map Prod.fst).Nodup) (name : String) :
    ((names.erase name).map Prod.fst).Nodup :=
  distinct.sublist (List.filter_sublist.map _)

theorem distinct_put (distinct : (names.map Prod.fst).Nodup) (name : String) (value : α) :
    ((names.put name value).map Prod.fst).Nodup := by
  refine List.nodup_cons.2 ⟨fun again => ?_, distinct_erase distinct name⟩
  obtain ⟨e, he, same⟩ := List.mem_map.1 again
  have other := (List.mem_filter.1 he).2
  simp [same] at other

/-- Under a name that is not in use there is nothing to take away. -/
theorem erase_of_unused (h : names.get? name = none) : names.erase name = names := by
  refine List.filter_eq_self.2 fun e he => ?_
  have other : e.1 ≠ name := by
    rintro rfl
    simpa using List.lookup_eq_none_iff.1 h e he
  simpa using other

/-- What is taken away under a name, together with what is left, is everything. -/
theorem perm_erase (distinct : (names.map Prod.fst).Nodup) (h : names.get? name = some value) :
    List.Perm names ((name, value) :: names.erase name) :=
  perm_entry_others distinct (mem_of_get? h)

end Names

end GraphicCache
