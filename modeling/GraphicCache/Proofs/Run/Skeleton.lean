/-
The bookkeeping of a world without amounts: which managers and graphics there are, who is registered
where under which id, and which handles there are. While all registered objects are graphics, it is
sound: a graphic with a handle is registered, and no two graphics share an id of one manager. What
waits in the calls that did not return fits the bookkeeping too.
-/
import GraphicCache.Proofs.Run.Frame

namespace GraphicCache.Run

open Effect

/-! ## The bookkeeping -/

/-- What is kept in the books of a world, the amounts apart. -/
structure Skeleton where
  managers : Nat
  registry : Nat → Registry
  nextId : Nat → Nat
  graphics : Nat
  id : Nat → Nat
  manager : Nat → Nat
  handles : Names Handle
  held : List Nat

def skeleton (w : World) : Skeleton where
  managers := w.managers.size
  registry m := (w.manager m).registry
  nextId m := (w.manager m).nextId
  graphics := w.graphics.size
  id g := (w.graphic g).id
  manager g := (w.graphic g).manager
  handles := w.handles
  held := w.held

namespace Skeleton

variable (s : Skeleton) (g m id : Nat) (o : ObjectRef)

/-- Whether a graphic has a handle. -/
def isHeld : Bool := s.held.contains g || s.handles.any fun e => e.2 == .graphic g

/-- The graphic was made, with this id of this manager. -/
def Known : Prop := g < s.graphics ∧ s.id g = id ∧ s.manager g = m

/-- The graphic was made and is registered under its id. -/
def Registered : Prop := g < s.graphics ∧ (s.id g, .graphic g) ∈ (s.registry (s.manager g)).entries

def enter : Skeleton :=
  { s with registry := Function.update s.registry m ((s.registry m).insert id o) }

def forget : Skeleton :=
  { s with registry := Function.update s.registry m ((s.registry m).erase id) }

def regrip (handles : Names Handle) (held : List Nat) : Skeleton :=
  { s with handles := handles, held := held }

/-- A graphic is made under the next id of a manager. -/
def addGraphic : Skeleton :=
  { s with
    nextId := Function.update s.nextId m (s.nextId m + 1)
    graphics := s.graphics + 1
    id := Function.update s.id s.graphics (s.nextId m)
    manager := Function.update s.manager s.graphics m }

def addManager : Skeleton := { s with managers := s.managers + 1 }

variable {s g m id o}

theorem isHeld_iff : s.isHeld g = true ↔ g ∈ s.held ∨ ∃ name, (name, .graphic g) ∈ s.handles := by
  simp [isHeld]

/-- Ids are handed out in order, so those of one manager tell graphics apart. -/
structure Numbered (s : Skeleton) : Prop where
  positive : ∀ m, 0 < s.nextId m
  /-- Ids are positive and were handed out. -/
  issued : ∀ {g}, g < s.graphics → 0 < s.id g ∧ s.id g < s.nextId (s.manager g)
  distinct : ∀ {g h m id}, s.Known g m id → s.Known h m id → g = h

structure Sound (s : Skeleton) : Prop where
  /-- Only graphics are registered, each with its manager under its id. -/
  entries : ∀ {m id o}, (id, o) ∈ (s.registry m).entries → ∃ g, o = .graphic g ∧ s.Known g m id
  /-- A graphic with a handle is registered. -/
  held : ∀ {g}, s.isHeld g = true → s.Registered g
  /-- All handles are of graphics. -/
  handles : ∀ e ∈ s.handles, ∃ g, e.2 = .graphic g
  positive : ∀ m, 0 < s.nextId m
  /-- Ids are positive and were handed out. -/
  issued : ∀ {g}, g < s.graphics → 0 < s.id g ∧ s.id g < s.nextId (s.manager g)
  /-- Graphics belong to managers that were made. -/
  owned : ∀ {g}, g < s.graphics → s.manager g < s.managers
  /-- Ids of one manager tell graphics apart. -/
  distinct : ∀ {g h m id}, s.Known g m id → s.Known h m id → g = h

namespace Sound

theorem listed (sound : s.Sound) {e : Nat × ObjectRef} (he : e ∈ (s.registry m).entries) :
    ∃ g, e.2 = .graphic g ∧ s.Known g m e.1 := sound.entries he

/-- What is registered under the id of a graphic is the graphic. -/
theorem entry_unique (sound : s.Sound) (known : s.Known g m id)
    (entry : (id, o) ∈ (s.registry m).entries) : o = .graphic g := by
  obtain ⟨h, rfl, other⟩ := sound.entries entry
  rw [sound.distinct known other]

/-- A graphic whose id is registered is registered. -/
theorem registered_of_contains (sound : s.Sound) (known : s.Known g m id)
    (contains : (s.registry m).contains id = true) : s.Registered g := by
  obtain ⟨o, entry⟩ := Registry.contains_iff.1 contains
  obtain rfl := sound.entry_unique known entry
  obtain ⟨made, rfl, rfl⟩ := known
  exact ⟨made, entry⟩

/-- An id that is still to be handed out is not registered. -/
theorem find?_nextId (sound : s.Sound) (m : Nat) : (s.registry m).find? (s.nextId m) = none := by
  refine Registry.find?_eq_none.2 fun o entry => ?_
  obtain ⟨g, -, made, id, manager⟩ := sound.entries entry
  have issued := (sound.issued made).2
  rw [id, manager] at issued
  exact Nat.lt_irrefl _ issued

/-! ## What keeps the books sound -/

/-- Handles come to graphics that are registered, and go. -/
theorem regrip (sound : s.Sound) {handles : Names Handle} {held : List Nat}
    (registered : ∀ {g}, (s.regrip handles held).isHeld g = true → s.Registered g)
    (graphics : ∀ e ∈ handles, ∃ g, e.2 = .graphic g) : (s.regrip handles held).Sound where
  entries := sound.entries
  held := registered
  handles := graphics
  positive := sound.positive
  issued := sound.issued
  owned := sound.owned
  distinct := sound.distinct

theorem enter (sound : s.Sound) (known : s.Known g m id)
    (absent : (s.registry m).find? id = none) : (s.enter m id (.graphic g)).Sound where
  entries {k id' o} entry := by
    unfold Skeleton.enter at entry
    dsimp only at entry
    rw [Function.update_apply] at entry
    split at entry
    · next same =>
      subst same
      rcases (Registry.mem_insert absent).1 entry with new | old
      · cases new
        exact ⟨g, rfl, known⟩
      · exact sound.entries old
    · exact sound.entries entry
  held {h} held := by
    obtain ⟨made, entry⟩ := sound.held held
    refine ⟨made, ?_⟩
    show _ ∈ (Function.update s.registry m _ (s.manager h)).entries
    rw [Function.update_apply]
    split
    · next same => exact (Registry.mem_insert absent).2 (.inr (same ▸ entry))
    · exact entry
  handles := sound.handles
  positive := sound.positive
  issued := sound.issued
  owned := sound.owned
  distinct := sound.distinct

theorem forget (sound : s.Sound) (known : s.Known g m id) (free : s.isHeld g = false) :
    (s.forget m id).Sound where
  entries {k id' o} entry := by
    unfold Skeleton.forget at entry
    dsimp only at entry
    rw [Function.update_apply] at entry
    split at entry
    · next same =>
      subst same
      exact sound.entries (Registry.mem_erase.1 entry).1
    · exact sound.entries entry
  held {h} held := by
    obtain ⟨made, entry⟩ := sound.held held
    refine ⟨made, ?_⟩
    show _ ∈ (Function.update s.registry m _ (s.manager h)).entries
    rw [Function.update_apply]
    split
    · next same =>
      refine Registry.mem_erase.2 ⟨same ▸ entry, fun sameId => ?_⟩
      have held : s.isHeld h = true := held
      rw [sound.distinct ⟨made, sameId, same⟩ known, free] at held
      cases held
    · exact entry
  handles := sound.handles
  positive := sound.positive
  issued := sound.issued
  owned := sound.owned
  distinct := sound.distinct

theorem addManager (sound : s.Sound) : s.addManager.Sound where
  entries := sound.entries
  held := sound.held
  handles := sound.handles
  positive := sound.positive
  issued := sound.issued
  owned made := Nat.lt_succ_of_lt (sound.owned made)
  distinct := sound.distinct

end Sound

/-! ## A new graphic -/

/-- What was known stays so when a graphic is made. -/
theorem Known.addGraphic {k : Nat} (known : s.Known g m id) : (s.addGraphic k).Known g m id := by
  obtain ⟨made, rfl, rfl⟩ := known
  have old : g ≠ s.graphics := Nat.ne_of_lt made
  exact ⟨Nat.lt_succ_of_lt made, Function.update_of_ne old _ _, Function.update_of_ne old _ _⟩

theorem known_addGraphic (s : Skeleton) (m : Nat) :
    (s.addGraphic m).Known s.graphics m (s.nextId m) :=
  ⟨Nat.lt_succ_self _, Function.update_self _ _ _, Function.update_self _ _ _⟩

/-- A graphic is the new one or was known before. -/
theorem known_of_addGraphic {k : Nat} (known : (s.addGraphic k).Known g m id) :
    (g = s.graphics ∧ m = k ∧ id = s.nextId k) ∨ s.Known g m id := by
  obtain ⟨made, rfl, rfl⟩ := known
  unfold Skeleton.addGraphic
  dsimp only
  by_cases new : g = s.graphics
  · subst new
    exact .inl ⟨rfl, Function.update_self _ _ _, Function.update_self _ _ _⟩
  · refine .inr ⟨Nat.lt_of_le_of_ne (Nat.le_of_lt_succ made) new, ?_, ?_⟩
    · exact (Function.update_of_ne new _ _).symm
    · exact (Function.update_of_ne new _ _).symm

/-- A new graphic gets an id that no other has. -/
theorem Numbered.addGraphic (numbered : s.Numbered) (m : Nat) : (s.addGraphic m).Numbered where
  positive k := by
    show 0 < Function.update s.nextId m (s.nextId m + 1) k
    rw [Function.update_apply]
    split
    · exact Nat.succ_pos _
    · exact numbered.positive k
  issued {g} made := by
    show _ ∧ _ < Function.update s.nextId m (s.nextId m + 1) _
    rcases known_of_addGraphic ⟨made, rfl, rfl⟩ with ⟨rfl, manager, id⟩ | ⟨old, id, manager⟩
    · rw [id, manager, Function.update_self]
      exact ⟨numbered.positive m, Nat.lt_succ_self _⟩
    · obtain ⟨positive, less⟩ := numbered.issued old
      rw [← id, ← manager, Function.update_apply]
      refine ⟨positive, ?_⟩
      split
      · next same =>
        rw [same] at less
        exact Nat.lt_succ_of_lt less
      · exact less
  distinct {g h k id} known known' := by
    rcases known_of_addGraphic known with ⟨rfl, rfl, rfl⟩ | old
    · rcases known_of_addGraphic known' with ⟨rfl, -, -⟩ | old
      · rfl
      -- ids handed out before are below the new one
      · obtain ⟨made, id, rfl⟩ := old
        exact absurd id (Nat.ne_of_lt (numbered.issued made).2)
    · rcases known_of_addGraphic known' with ⟨rfl, rfl, rfl⟩ | old'
      · obtain ⟨made, id, rfl⟩ := old
        exact absurd id (Nat.ne_of_lt (numbered.issued made).2)
      · exact numbered.distinct old old'

theorem Sound.numbered (sound : s.Sound) : s.Numbered :=
  ⟨sound.positive, sound.issued, sound.distinct⟩

theorem Sound.addGraphic (sound : s.Sound) (there : m < s.managers) : (s.addGraphic m).Sound where
  entries entry := by
    obtain ⟨g, rfl, known⟩ := sound.entries entry
    exact ⟨g, rfl, known.addGraphic⟩
  held {g} held := by
    obtain ⟨made, entry⟩ := sound.held held
    obtain ⟨made', id, manager⟩ := Known.addGraphic (k := m) ⟨made, rfl, rfl⟩
    refine ⟨made', ?_⟩
    rw [id, manager]
    exact entry
  handles := sound.handles
  positive := (sound.numbered.addGraphic m).positive
  issued := (sound.numbered.addGraphic m).issued
  owned {g} made := by
    rcases known_of_addGraphic ⟨made, rfl, rfl⟩ with ⟨-, manager, -⟩ | ⟨old, -, manager⟩
    · rw [manager]
      exact there
    · rw [← manager]
      exact sound.owned old
  distinct := (sound.numbered.addGraphic m).distinct

end Skeleton

/-! ## What stays in the books -/

/-- Graphics stay known, and no id is entered. -/
structure Evolves (s s' : Skeleton) : Prop where
  known : ∀ {g m id}, s.Known g m id → s'.Known g m id
  absent : ∀ {m id}, (s.registry m).find? id = none → (s'.registry m).find? id = none

theorem Evolves.refl (s : Skeleton) : Evolves s s := ⟨id, id⟩

theorem Evolves.trans {s s' s'' : Skeleton} (h : Evolves s s') (h' : Evolves s' s'') :
    Evolves s s'' :=
  ⟨h'.known ∘ h.known, h'.absent ∘ h.absent⟩

theorem evolves_forget (s : Skeleton) (m id : Nat) : Evolves s (s.forget m id) where
  known known := known
  absent {k id'} absent := by
    show (Function.update s.registry m _ k).find? id' = none
    rw [Function.update_apply]
    split
    · next same =>
      subst same
      refine Registry.find?_eq_none.2 fun o entry => ?_
      exact Registry.find?_eq_none.1 absent o (Registry.mem_erase.1 entry).1
    · exact absent

/-! ## The books of changed worlds -/

variable {w : World} {m g id : Nat}

/-- A manager that has something registered was made. -/
theorem there_of_entry {entry : Nat × ObjectRef}
    (listed : entry ∈ (w.manager m).registry.entries) : m < w.managers.size := by
  by_contra beyond
  rw [w.manager_of_size_le m (by omega)] at listed
  cases listed

theorem skeleton_updateManager (w : World) (m : Nat) {f : Manager → Manager}
    (hf : ∀ x, (f x).registry = x.registry ∧ (f x).nextId = x.nextId) :
    skeleton (w.updateManager m f) = skeleton w := by
  have registry (k : Nat) : ((w.updateManager m f).manager k).registry = (w.manager k).registry :=
    w.updateManager_keeps m k fun x => (hf x).1
  have nextId (k : Nat) : ((w.updateManager m f).manager k).nextId = (w.manager k).nextId :=
    w.updateManager_keeps m k fun x => (hf x).2
  unfold skeleton
  simp only [registry, nextId, World.size_updateManager]
  rfl

theorem skeleton_setUsed (w : World) (m : Nat) (used : Int) :
    skeleton (w.updateManager m (·.setUsed used)) = skeleton w :=
  skeleton_updateManager w m fun _ => ⟨rfl, rfl⟩

theorem skeleton_updateGraphic (w : World) (g : Nat) {f : Graphic → Graphic}
    (hf : ∀ x, (f x).id = x.id ∧ (f x).manager = x.manager) :
    skeleton (w.updateGraphic g f) = skeleton w := by
  have id (h : Nat) : ((w.updateGraphic g f).graphic h).id = (w.graphic h).id :=
    w.updateGraphic_keeps g h fun x => (hf x).1
  have manager (h : Nat) : ((w.updateGraphic g f).graphic h).manager = (w.graphic h).manager :=
    w.updateGraphic_keeps g h fun x => (hf x).2
  unfold skeleton
  simp only [id, manager, World.size_updateGraphic]
  rfl

theorem skeleton_setContent (w : World) (g : Nat) (c : Content) :
    skeleton (w.setContent g c) = skeleton w :=
  skeleton_updateGraphic w g fun _ => ⟨rfl, rfl⟩

/-- The books of one manager change. -/
theorem skeleton_changed (there : m < w.managers.size) (f : Manager → Manager) :
    skeleton (w.updateManager m f) =
      { skeleton w with
        registry := Function.update (skeleton w).registry m (f (w.manager m)).registry
        nextId := Function.update (skeleton w).nextId m (f (w.manager m)).nextId } := by
  have changed {γ : Type} (q : Manager → γ) : (fun k => q ((w.updateManager m f).manager k)) =
      Function.update (fun k => q (w.manager k)) m (q (f (w.manager m))) := by
    funext k
    rw [World.manager_updateManager, Function.update_apply]
    by_cases same : k = m
    · subst same
      rw [if_pos ⟨rfl, there⟩, if_pos rfl]
    · rw [if_neg fun h => same h.1.symm, if_neg same]
  unfold skeleton
  simp only [World.size_updateManager, World.graphic_updateManager]
  rw [changed Manager.registry, changed Manager.nextId]
  rfl

theorem skeleton_enter (there : m < w.managers.size) (id : Nat) (o : ObjectRef) :
    skeleton (w.updateManager m (·.enter id o)) =
      (skeleton w).enter m id o := by
  have nextId : Function.update (skeleton w).nextId m (w.manager m).nextId = (skeleton w).nextId :=
    Function.update_eq_self _ _
  rw [skeleton_changed there]
  dsimp only [Manager.enter, Manager.forget]
  rw [nextId]
  rfl

theorem skeleton_forget (there : m < w.managers.size) (id : Nat) :
    skeleton (w.updateManager m (·.forget id)) =
      (skeleton w).forget m id := by
  have nextId : Function.update (skeleton w).nextId m (w.manager m).nextId = (skeleton w).nextId :=
    Function.update_eq_self _ _
  rw [skeleton_changed there]
  dsimp only [Manager.enter, Manager.forget]
  rw [nextId]
  rfl

theorem skeleton_addManager {x : Manager} (registry : x.registry = .empty) (nextId : x.nextId = 1) :
    skeleton (w.addManager x) = (skeleton w).addManager := by
  have registry (k : Nat) : ((w.addManager x).manager k).registry = (w.manager k).registry :=
    w.addManager_keeps (q := Manager.registry) k registry
  have nextId (k : Nat) : ((w.addManager x).manager k).nextId = (w.manager k).nextId :=
    w.addManager_keeps (q := Manager.nextId) k nextId
  have size : (w.addManager x).managers.size = w.managers.size + 1 := w.size_addManager x
  unfold skeleton Skeleton.addManager
  simp only [registry, nextId, size]
  rfl

theorem skeleton_addGraphic (w : World) (x : Graphic) :
    skeleton (w.addGraphic x) =
      { skeleton w with
        graphics := w.graphics.size + 1
        id := Function.update (skeleton w).id w.graphics.size x.id
        manager := Function.update (skeleton w).manager w.graphics.size x.manager } := by
  have added {γ : Type} (q : Graphic → γ) : (fun g => q ((w.addGraphic x).graphic g)) =
      Function.update (fun g => q (w.graphic g)) w.graphics.size (q x) := by
    funext g
    rw [w.graphic_addGraphic, Function.update_apply]
    split <;> rfl
  unfold skeleton
  rw [added Graphic.id, added Graphic.manager, w.size_addGraphic]
  rfl

theorem skeleton_create {content : Content} {w' : World} (there : m < w.managers.size)
    (h : Swapping.create m content w = .ok (id, g) w') :
    skeleton w' = (skeleton w).addGraphic m ∧ g = (skeleton w).graphics ∧
      id = (skeleton w).nextId m := by
  obtain ⟨rfl, rfl, rfl⟩ := Swapping.create_ok h
  refine ⟨?_, rfl, rfl⟩
  have registry :
      Function.update (skeleton w).registry m (w.manager m).registry = (skeleton w).registry :=
    Function.update_eq_self _ _
  rw [skeleton_addGraphic, skeleton_changed there]
  dsimp only [Manager.takeId]
  rw [registry]
  rfl

end GraphicCache.Run
