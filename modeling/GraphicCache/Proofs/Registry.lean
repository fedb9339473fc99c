/-
The registry as a finite map: an id is found exactly if an entry has it, and no id has two entries.
Entering a new id adds one entry to the others, and forgetting an id takes its entry away.
-/
import GraphicCache.Proofs.Names

namespace GraphicCache.Registry

variable {r : Registry} {id id' : Nat} {o o' : ObjectRef}

theorem nodup_ids (r : Registry) : (r.entries.map Prod.fst).Nodup :=
  List.pairwise_map.2 (r.ordered.imp Nat.ne_of_lt)

/-- No id has two entries. -/
theorem unique (r : Registry) (h : (id, o) ∈ r.entries) (h' : (id, o') ∈ r.entries) : o = o' :=
  (Prod.mk.inj (List.inj_on_of_nodup_map r.nodup_ids h h' rfl)).2

theorem find?_eq_some : r.find? id = some o ↔ (id, o) ∈ r.entries := by
  constructor
  · intro h
    obtain ⟨l₁, l₂, split, -⟩ := List.lookup_eq_some_iff.1 h
    simp [split]
  · intro h
    cases found : r.find? id with
    | none =>
      have absent := List.lookup_eq_none_iff.1 found (id, o) h
      simp at absent
    | some o' =>
      obtain ⟨l₁, l₂, split, -⟩ := List.lookup_eq_some_iff.1 found
      have other : (id, o') ∈ r.entries := by simp [split]
      rw [r.unique h other]

theorem find?_eq_none : r.find? id = none ↔ ∀ o, (id, o) ∉ r.entries := by
  rw [Option.eq_none_iff_forall_ne_some]
  simp only [ne_eq, find?_eq_some]

theorem contains_iff : r.contains id = true ↔ ∃ o, (id, o) ∈ r.entries := by
  unfold contains
  rw [Option.isSome_iff_exists]
  simp only [find?_eq_some]

/-! ## Entering and forgetting -/

theorem place_perm {entries : List (Nat × ObjectRef)} (h : ∀ o, (id, o) ∉ entries) :
    (place id o entries).Perm ((id, o) :: entries) := by
  induction entries with
  | nil => exact .refl _
  | cons e rest ih =>
    have fresh : id ≠ e.1 := fun same => h e.2 (by simp [same])
    rw [place, if_neg fresh]
    split
    · exact .refl _
    · have h' : ∀ o, (id, o) ∉ rest := fun o ho => h o (List.mem_cons_of_mem e ho)
      exact ((ih h').cons e).trans (.swap _ _ _)

/-- A new id adds its entry to the others. -/
theorem insert_perm (h : r.find? id = none) :
    (r.insert id o).entries.Perm ((id, o) :: r.entries) :=
  place_perm (find?_eq_none.1 h)

theorem mem_insert (h : r.find? id = none) {e : Nat × ObjectRef} :
    e ∈ (r.insert id o).entries ↔ e = (id, o) ∨ e ∈ r.entries := by
  rw [(insert_perm h).mem_iff, List.mem_cons]

theorem place_self (entries : List (Nat × ObjectRef)) : (id, o) ∈ place id o entries := by
  induction entries with
  | nil => exact List.mem_singleton.2 rfl
  | cons e rest ih =>
    unfold place
    split
    · exact List.mem_cons_self
    · split
      · exact List.mem_cons_self
      · exact List.mem_cons_of_mem e ih

/-- Entering an id leaves other ids alone. -/
theorem find?_insert_ne (h : r.find? id = none) (other : id' ≠ id) (absent : r.find? id' = none) :
    (r.insert id o).find? id' = none := by
  refine find?_eq_none.2 fun o' entry => ?_
  rcases (mem_insert h).1 entry with new | old
  · exact other (Prod.mk.inj new).1
  · exact find?_eq_none.1 absent o' old

theorem mem_erase {e : Nat × ObjectRef} :
    e ∈ (r.erase id).entries ↔ e ∈ r.entries ∧ e.1 ≠ id := by
  simp [erase]

/-- What is left without an id, together with its entry, is what there was. -/
theorem erase_perm (h : (id, o) ∈ r.entries) :
    r.entries.Perm ((id, o) :: (r.erase id).entries) :=
  perm_entry_others r.nodup_ids h

end GraphicCache.Registry
