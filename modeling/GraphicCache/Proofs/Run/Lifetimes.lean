/-
Handles and the entries of registries, in the books. A handle comes to a program with a booking, and
from then on it is under a name, or temporary, or still to be given its first name. What is
registered are the objects of the handles that are alive in this sense: a handle that goes takes its
entry with it if it was the last one for it, whichever of them goes first. Every operation on handles
keeps this up, and what else programs do has no part in it.
-/
import GraphicCache.Proofs.Run.Books

namespace GraphicCache.Run

open Effect Accounting

/-! ## Handles and entries -/

/-- The handle that keeps what is booked. -/
def handleOf (m id : Nat) : ObjectRef → Handle
  | .graphic g => .graphic g
  | .scripted _ => .registration m id

namespace Skeleton

variable {s : Skeleton} {m id : Nat} {o : ObjectRef} {h x : Handle}

/-- Where the entry of a handle is: its manager and its id. -/
def place (s : Skeleton) : Handle → Nat × Nat
  | .graphic g => (s.manager g, s.id g)
  | .registration m id => (m, id)

/-- What the handle keeps is registered. -/
def Entered (s : Skeleton) (h : Handle) : Prop :=
  ∃ m id o, (id, o) ∈ (s.registry m).entries ∧ handleOf m id o = h

/-- All entries are at the places of their handles. -/
def Placed (s : Skeleton) : Prop :=
  ∀ m id o, (id, o) ∈ (s.registry m).entries → s.place (handleOf m id o) = (m, id)

/-- The entry of a handle, and no other, is forgotten at its place. -/
theorem entered_forget (placed : s.Placed) (entered : s.Entered h) :
    (s.forget (s.place h).1 (s.place h).2).Entered x ↔ s.Entered x ∧ x ≠ h := by
  constructor
  · rintro ⟨m, id, o, entry, rfl⟩
    obtain ⟨entry, other⟩ := (mem_forget s _).1 entry
    refine ⟨⟨m, id, o, entry, rfl⟩, fun same => other ?_⟩
    have there := placed m id o entry
    rw [same] at there
    rw [there]
    exact ⟨rfl, rfl⟩
  · rintro ⟨⟨m, id, o, entry, rfl⟩, other⟩
    refine ⟨m, id, o, (mem_forget s _).2 ⟨entry, fun same => other ?_⟩, rfl⟩
    obtain ⟨k, i, o', entry', rfl⟩ := entered
    obtain ⟨rfl, rfl⟩ : m = k ∧ id = i := by
      rw [placed k i o' entry'] at same
      exact same
    rw [(s.registry m).unique entry entry']

/-- When a handle is gone its entry goes, unless it is of a graphic with another handle. -/
theorem entered_release (placed : s.Placed) (entered : s.Entered h) :
    (s.release h).Entered x ↔
      s.Entered x ∧ (x = h → ∃ g, h = .graphic g ∧ s.isHeld g = true) := by
  have forgotten := entered_forget (x := x) placed entered
  cases h with
  | graphic g =>
    show (if s.isHeld g = true then s else _).Entered x ↔ _
    by_cases held : s.isHeld g = true
    · rw [if_pos held]
      exact (and_iff_left fun _ => ⟨g, rfl, held⟩).symm
    · rw [if_neg held]
      refine forgotten.trans (and_congr_right fun _ => ⟨fun other same => absurd same other, ?_⟩)
      intro kept same
      obtain ⟨k, graphic, held'⟩ := kept same
      cases graphic
      exact held held'
  | registration m id =>
    refine forgotten.trans (and_congr_right fun _ => ⟨fun other same => absurd same other, ?_⟩)
    intro kept same
    obtain ⟨k, graphic, -⟩ := kept same
    cases graphic

theorem entered_enter (absent : (s.registry m).find? id = none) :
    (s.enter m id o).Entered x ↔ x = handleOf m id o ∨ s.Entered x := by
  have mem {k : Nat} {e : Nat × ObjectRef} : e ∈ ((s.enter m id o).registry k).entries ↔
      (k = m ∧ e = (id, o)) ∨ e ∈ (s.registry k).entries := by
    unfold enter
    dsimp only
    rw [Function.update_apply]
    split
    · next same =>
      subst same
      rw [Registry.mem_insert absent]
      exact or_congr_left (and_iff_right rfl).symm
    · next other => exact (or_iff_right fun both => other both.1).symm
  constructor
  · rintro ⟨k, i, o', entry, rfl⟩
    rcases mem.1 entry with ⟨rfl, new⟩ | old
    · cases new
      exact .inl rfl
    · exact .inr ⟨k, i, o', old, rfl⟩
  · rintro (rfl | ⟨k, i, o', entry, rfl⟩)
    · exact ⟨m, id, o, mem.2 (.inl ⟨rfl, rfl⟩), rfl⟩
    · exact ⟨k, i, o', mem.2 (.inr entry), rfl⟩

/-- Letting go of a handle has to do with registries alone. -/
theorem release_eq (s : Skeleton) (h : Handle) :
    ∃ registry, s.release h = { s with registry := registry } := by
  rcases s.release_cases h with same | ⟨m, id, same⟩
  · exact ⟨s.registry, same⟩
  · exact ⟨_, same⟩

end Skeleton

/-- What owns its id is at the place of its handle. -/
theorem place_of_owned {w : World} {m id : Nat} {o : ObjectRef} (owned : Owned w m id o) :
    (skeleton w).place (handleOf m id o) = (m, id) := by
  cases o with
  | graphic g =>
    obtain ⟨-, rfl, rfl⟩ : (skeleton w).Known g m id := owned
    rfl
  | scripted o => rfl

theorem Rooted.placed {w : World} (h : Rooted w) : (skeleton w).Placed :=
  fun _ _ _ entry => place_of_owned (h.entries entry)

/-! ## Handles that are alive -/

/-- The handle is under a name, or temporary, or it was given to the program and did not get its
first name yet. -/
def Alive (given named : List Handle) (handles : Names Handle) (held : List Nat) (h : Handle) :
    Prop :=
  (∃ name, (name, h) ∈ handles) ∨ (∃ g ∈ held, h = .graphic g) ∨ h ∈ given ∧ h ∉ named

/-- What the handle is of was made. -/
def Skeleton.Made (s : Skeleton) : Handle → Prop
  | .graphic g => g < s.graphics
  | .registration m id => id < s.nextId m

/-- What is registered are the objects of the handles that are alive. A handle has a name only after
it was given to the program; names are different, and a registration has one at most. -/
structure Lifetimes (given named : List Handle) (s : Skeleton) : Prop where
  entered : ∀ h, s.Entered h ↔ Alive given named s.handles s.held h
  distinct : (s.handles.map Prod.fst).Nodup
  single : ∀ {name name' m id}, (name, .registration m id) ∈ s.handles →
    (name', .registration m id) ∈ s.handles → name = name'
  names : ∀ {name h}, (name, h) ∈ s.handles → h ∈ named
  temporaries : ∀ {g}, g ∈ s.held → Handle.graphic g ∈ named
  order : named ⊆ given
  made : ∀ h ∈ given, s.Made h

/-- After its first name a handle is alive as long as it is a handle of a graphic that has one. -/
theorem alive_iff_of_named {given named : List Handle} {handles : Names Handle} {held : List Nat}
    {h : Handle} (s : Skeleton) (taken : h ∈ named)
    (unnamed : ∀ m id, h = .registration m id → ∀ name, (name, h) ∉ handles) :
    Alive given named handles held h ↔
      ∃ g, h = .graphic g ∧ (s.regrip handles held).isHeld g = true := by
  constructor
  · rintro (⟨name, listed⟩ | ⟨g, temporary, rfl⟩ | ⟨-, fresh⟩)
    · cases h with
      | graphic g => exact ⟨g, rfl, Skeleton.isHeld_iff.2 (.inr ⟨name, listed⟩)⟩
      | registration m id => exact absurd listed (unnamed m id rfl name)
    · exact ⟨g, rfl, Skeleton.isHeld_iff.2 (.inl temporary)⟩
    · exact absurd taken fresh
  · rintro ⟨g, rfl, held⟩
    rcases Skeleton.isHeld_iff.1 held with temporary | named
    · exact .inr (.inl ⟨g, temporary, rfl⟩)
    · exact .inl named

/-! ## Operations -/

namespace Lifetimes

variable {given named : List Handle} {s : Skeleton} {handles : Names Handle} {held : List Nat}
  {name : String} {h : Handle} {g : Nat}

/-- A graphic with a handle is alive. -/
theorem alive_of_isHeld (held : s.isHeld g = true) :
    Alive given named s.handles s.held (.graphic g) := by
  rcases Skeleton.isHeld_iff.1 held with temporary | named
  · exact .inr (.inl ⟨g, temporary, rfl⟩)
  · exact .inl named

/-- A handle goes, and its entry with it if it was the last one for it. -/
theorem goes (l : Lifetimes given named s) (placed : s.Placed) {named' : List Handle}
    (entered : s.Entered h) (distinct : (handles.map Prod.fst).Nodup)
    (single : ∀ {name name' m id}, (name, .registration m id) ∈ handles →
      (name', .registration m id) ∈ handles → name = name')
    (names : ∀ {name h}, (name, h) ∈ handles → h ∈ named')
    (temporaries : ∀ {g}, g ∈ held → Handle.graphic g ∈ named') (order : named' ⊆ given)
    (others : ∀ x, x ≠ h → (Alive given named s.handles s.held x ↔ Alive given named' handles held x))
    (taken : h ∈ named') (gone : ∀ m id, h = .registration m id → ∀ name, (name, h) ∉ handles) :
    Lifetimes given named' ((s.regrip handles held).release h) := by
  obtain ⟨registry, same⟩ := (s.regrip handles held).release_eq h
  have alive (x : Handle) : ((s.regrip handles held).release h).Entered x ↔
      Alive given named' handles held x := by
    rw [Skeleton.entered_release (s := s.regrip handles held) placed entered]
    have before : (s.regrip handles held).Entered x ↔ Alive given named s.handles s.held x :=
      l.entered x
    by_cases this : x = h
    · subst this
      rw [alive_iff_of_named s taken gone]
      exact ⟨fun both => both.2 rfl, fun kept => ⟨entered, fun _ => kept⟩⟩
    · rw [before, others x this]
      exact and_iff_left fun same => absurd same this
  rw [same] at alive ⊢
  exact ⟨alive, distinct, single, names, temporaries, order, l.made⟩

/-- A temporary handle is taken of a graphic that has a handle. -/
theorem hold (l : Lifetimes given named s) (isHeld : s.isHeld g = true) :
    Lifetimes given named (s.regrip s.handles (g :: s.held)) where
  entered x := by
    refine (l.entered x).trans ⟨?_, ?_⟩
    · rintro (named | ⟨k, listed, same⟩ | fresh)
      · exact .inl named
      · exact .inr (.inl ⟨k, List.mem_cons_of_mem g listed, same⟩)
      · exact .inr (.inr fresh)
    · rintro (named | ⟨k, listed, rfl⟩ | fresh)
      · exact .inl named
      · rcases List.mem_cons.1 listed with rfl | old
        · exact alive_of_isHeld isHeld
        · exact .inr (.inl ⟨k, old, rfl⟩)
      · exact .inr (.inr fresh)
  distinct := l.distinct
  single := l.single
  names := l.names
  temporaries {k} listed := by
    rcases List.mem_cons.1 listed with rfl | listed
    · rcases Skeleton.isHeld_iff.1 isHeld with temporary | ⟨name, named⟩
      · exact l.temporaries temporary
      · exact l.names named
    · exact l.temporaries listed
  order := l.order
  made := l.made

/-- A temporary handle ends. -/
theorem letGo (l : Lifetimes given named s) (placed : s.Placed) (listed : g ∈ s.held) :
    Lifetimes given named (s.letGo g) := by
  have alive : Alive given named s.handles s.held (.graphic g) := .inr (.inl ⟨g, listed, rfl⟩)
  refine l.goes placed ((l.entered _).2 alive) l.distinct l.single l.names
    (fun {k} kept => l.temporaries (List.mem_of_mem_erase kept)) l.order (fun x other => ?_)
    (l.temporaries listed) nofun
  refine or_congr_right (or_congr_left (exists_congr fun k => and_congr_left ?_))
  rintro rfl
  exact (List.mem_erase_of_ne fun same => other (congrArg Handle.graphic same)).symm

/-- The handle under a name goes. -/
theorem drop (l : Lifetimes given named s) (placed : s.Placed) (name : String) :
    Lifetimes given named (s.drop name) := by
  unfold Skeleton.drop
  cases found : s.handles.get? name with
  | none => exact l
  | some old =>
    have listed := Names.mem_of_get? found
    have fewer {e : String × Handle} (he : e ∈ s.handles.erase name) : e ∈ s.handles :=
      (Names.mem_erase.1 he).1
    refine l.goes placed ((l.entered _).2 (.inl ⟨name, listed⟩)) (Names.distinct_erase l.distinct name)
      (fun one other => l.single (fewer one) (fewer other)) (fun one => l.names (fewer one))
      l.temporaries l.order (fun x other => ?_) (l.names listed) ?_
    · refine or_congr_left (exists_congr fun name' => ?_)
      rw [Names.mem_erase]
      refine (and_iff_left_of_imp fun named same => other ?_).symm
      exact Names.value_unique l.distinct (same ▸ named) listed
    · rintro m id rfl name' again
      obtain ⟨listed', other⟩ := Names.mem_erase.1 again
      exact other (l.single listed' listed)

/-- A handle that is alive gets a name, and stays alive with all others but the one that had the
name. -/
theorem alive_put {x : Handle} (alive : Alive given named s.handles held h)
    (kept : (name, x) ∉ s.handles) : Alive given named s.handles held x ↔
      Alive given (named ++ [h]) (s.handles.put name h) held x := by
  constructor
  · rintro (⟨name', listed⟩ | temporary | ⟨got, fresh⟩)
    · have other : name' ≠ name := by
        rintro rfl
        exact kept listed
      exact .inl ⟨name', List.mem_cons_of_mem _ (Names.mem_erase.2 ⟨listed, other⟩)⟩
    · exact .inr (.inl temporary)
    · by_cases same : x = h
      · exact .inl ⟨name, same ▸ List.mem_cons_self⟩
      · refine .inr (.inr ⟨got, fun again => ?_⟩)
        rcases List.mem_append.1 again with old | new
        · exact fresh old
        · exact same (List.mem_singleton.1 new)
  · rintro (⟨name', listed⟩ | temporary | ⟨got, fresh⟩)
    · rcases Names.mem_put listed with new | old
      · cases new
        exact alive
      · exact .inl ⟨name', old⟩
    · exact .inr (.inl temporary)
    · exact .inr (.inr ⟨got, fun again => fresh (List.mem_append_left _ again)⟩)

/-- A registration that gets its first name has only that one. -/
theorem single_put (l : Lifetimes given named s) (once : ∀ m id, h = .registration m id → h ∉ named)
    {name₁ name₂ : String} {m id : Nat} (one : (name₁, .registration m id) ∈ s.handles.put name h)
    (two : (name₂, .registration m id) ∈ s.handles.put name h) : name₁ = name₂ := by
  rcases Names.mem_put one with new | old
  · rcases Names.mem_put two with new' | old'
    · exact (Prod.mk.inj new).1.trans (Prod.mk.inj new').1.symm
    · cases new
      exact absurd (l.names old') (once m id rfl)
  · rcases Names.mem_put two with new' | old'
    · cases new'
      exact absurd (l.names old) (once m id rfl)
    · exact l.single old old'

/-- What is alive was given to the program. -/
theorem given_of_alive (l : Lifetimes given named s)
    (alive : Alive given named s.handles s.held h) : h ∈ given := by
  rcases alive with ⟨name, listed⟩ | ⟨g, temporary, rfl⟩ | ⟨got, -⟩
  · exact l.order (l.names listed)
  · exact l.order (l.temporaries temporary)
  · exact got

/-- A handle that is alive gets a name, a registration its only one. -/
theorem bind (l : Lifetimes given named s) (placed : s.Placed) (name : String)
    (alive : Alive given named s.handles s.held h)
    (once : ∀ m id, h = .registration m id → h ∉ named) :
    Lifetimes given (named ++ [h]) (s.bind name h) := by
  have distinct := Names.distinct_put l.distinct name h
  have names {name' : String} {x : Handle} (listed : (name', x) ∈ s.handles.put name h) :
      x ∈ named ++ [h] := by
    rcases Names.mem_put listed with new | old
    · cases new
      exact List.mem_append_right _ List.mem_cons_self
    · exact List.mem_append_left _ (l.names old)
  have temporaries {k : Nat} (temporary : k ∈ s.held) : Handle.graphic k ∈ named ++ [h] :=
    List.mem_append_left _ (l.temporaries temporary)
  have order : named ++ [h] ⊆ given :=
    List.append_subset.2 ⟨l.order, List.cons_subset.2 ⟨l.given_of_alive alive, List.nil_subset _⟩⟩
  unfold Skeleton.bind
  cases found : s.handles.get? name with
  | none =>
    have unused (x : Handle) : (name, x) ∉ s.handles := by
      intro listed
      have absent := List.lookup_eq_none_iff.1 found (name, x) listed
      simp at absent
    exact ⟨fun x => (l.entered x).trans (alive_put alive (unused x)), distinct, l.single_put once,
      names, temporaries, order, l.made⟩
  | some old =>
    have listed := Names.mem_of_get? found
    refine l.goes placed ((l.entered _).2 (.inl ⟨name, listed⟩)) distinct (l.single_put once) names
      temporaries order (fun x other => alive_put alive fun same => ?_)
      (List.mem_append_left _ (l.names listed)) ?_
    · exact other (Names.value_unique l.distinct same listed)
    · rintro m id rfl name' again
      rcases List.mem_cons.1 again with new | old
      · cases new
        exact once m id rfl (l.names listed)
      · obtain ⟨listed', other⟩ := Names.mem_erase.1 old
        exact other (l.single listed' listed)

/-- What was booked is alive, for the program is given a handle of it. -/
theorem enter (l : Lifetimes given named s) {m id : Nat} {o : ObjectRef}
    (absent : (s.registry m).find? id = none) (new : handleOf m id o ∉ given)
    (made : s.Made (handleOf m id o)) :
    Lifetimes (given ++ [handleOf m id o]) named (s.enter m id o) where
  entered x := by
    rw [Skeleton.entered_enter absent, l.entered x]
    constructor
    · rintro (rfl | named | temporary | ⟨got, fresh⟩)
      · refine .inr (.inr ⟨List.mem_append_right _ List.mem_cons_self, fun again => ?_⟩)
        exact new (l.order again)
      · exact .inl named
      · exact .inr (.inl temporary)
      · exact .inr (.inr ⟨List.mem_append_left _ got, fresh⟩)
    · rintro (named | temporary | ⟨got, fresh⟩)
      · exact .inr (.inl named)
      · exact .inr (.inr (.inl temporary))
      · rcases List.mem_append.1 got with old | last
        · exact .inr (.inr (.inr ⟨old, fresh⟩))
        · exact .inl (List.mem_singleton.1 last)
  distinct := l.distinct
  single := l.single
  names := l.names
  temporaries := l.temporaries
  order := fun x listed => List.mem_append_left _ (l.order listed)
  made x listed := by
    rcases List.mem_append.1 listed with old | new
    · exact l.made x old
    · obtain rfl := List.mem_singleton.1 new
      exact made

end Lifetimes

end GraphicCache.Run
