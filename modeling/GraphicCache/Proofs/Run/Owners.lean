/-
Whom ids belong to. In every run, whatever programs unregister and whatever objects of their own
they register, an id of a manager is handed out once: what is registered under it, or waits to be,
is what it was handed out for. A graphic that waits to be registered is not registered anywhere, and
graphics that are reached through handles were made.

Nearly every step only takes out of registries, hands out ids and lets go of handles. That is one
relation between worlds; making a graphic and booking an object are the exceptions.
-/
import GraphicCache.Proofs.Run.Skeleton

namespace GraphicCache.Run

open Effect

variable {w w' : World} {m g id : Nat} {c d : State} {a : Action} {acts : List Action}

theorem isHeld_iff :
    w.isHeld g = true ↔ g ∈ w.held ∨ ∃ name, (name, .graphic g) ∈ w.handles :=
  Skeleton.isHeld_iff (s := skeleton w)

/-! ## Worlds in which nothing is new -/

/-- No graphic is new, and what is registered was registered before or is counted as new. Handles
are of graphics that had one or were made at least. -/
structure Within (new : Nat → Nat × ObjectRef → Prop) (w w' : World) : Prop where
  size : w'.graphics.size = w.graphics.size
  identity : ∀ g, (w'.graphic g).id = (w.graphic g).id ∧
    (w'.graphic g).manager = (w.graphic g).manager
  registry : ∀ m, ∀ e ∈ (w'.manager m).registry.entries,
    e ∈ (w.manager m).registry.entries ∨ new m e
  nextId : ∀ m, (w.manager m).nextId ≤ (w'.manager m).nextId
  held : ∀ g, w'.isHeld g = true → w.isHeld g = true ∨ g < w.graphics.size

/-- Nothing is registered that was not registered before. -/
def nothing (_ : Nat) (_ : Nat × ObjectRef) : Prop := False

namespace Within

variable {new : Nat → Nat × ObjectRef → Prop}

theorem refl (w : World) : Within new w w :=
  ⟨rfl, fun _ => ⟨rfl, rfl⟩, fun _ _ he => .inl he, fun _ => Nat.le_refl _, fun _ => .inl⟩

theorem trans {v : World} (h : Within new w v) (h' : Within new v w') : Within new w w' where
  size := h'.size.trans h.size
  identity g := by
    obtain ⟨id, manager⟩ := h.identity g
    obtain ⟨id', manager'⟩ := h'.identity g
    exact ⟨id'.trans id, manager'.trans manager⟩
  registry m e he := (h'.registry m e he).elim (h.registry m e) .inr
  nextId m := Nat.le_trans (h.nextId m) (h'.nextId m)
  held g held := (h'.held g held).elim (h.held g) fun made => .inr (h.size ▸ made)

theorem updateManager (w : World) (m : Nat) {f : Manager → Manager}
    (registry : ∀ x, ∀ e ∈ (f x).registry.entries, e ∈ x.registry.entries ∨ new m e)
    (nextId : ∀ x, x.nextId ≤ (f x).nextId) : Within new w (w.updateManager m f) where
  size := rfl
  identity _ := ⟨rfl, rfl⟩
  registry k e he := by
    rw [World.manager_updateManager] at he
    split at he
    · next same => exact (registry _ e he).imp_right fun new => same.1 ▸ new
    · exact .inl he
  nextId k := by
    rw [World.manager_updateManager]
    split
    · exact nextId _
    · exact Nat.le_refl _
  held _ := .inl

theorem updateGraphic (w : World) (g : Nat) {f : Graphic → Graphic}
    (hf : ∀ x, (f x).id = x.id ∧ (f x).manager = x.manager) :
    Within new w (w.updateGraphic g f) where
  size := w.size_updateGraphic g f
  identity h := ⟨w.updateGraphic_keeps g h fun x => (hf x).1,
    w.updateGraphic_keeps g h fun x => (hf x).2⟩
  registry _ _ := .inl
  nextId _ := Nat.le_refl _
  held _ := .inl

/-- Managers and graphics are the same. -/
theorem of_same (managers : w'.managers = w.managers) (graphics : w'.graphics = w.graphics)
    (held : ∀ g, w'.isHeld g = true → w.isHeld g = true ∨ g < w.graphics.size) :
    Within new w w' := by
  have manager (k : Nat) : w'.manager k = w.manager k := by
    unfold World.manager
    rw [managers]
  have graphic (k : Nat) : w'.graphic k = w.graphic k := by
    unfold World.graphic
    rw [graphics]
  refine ⟨congrArg Array.size graphics, fun g => ?_, fun k e he => ?_, fun k => ?_, held⟩
  · rw [graphic]
    exact ⟨rfl, rfl⟩
  · rw [manager] at he
    exact .inl he
  · rw [manager]

theorem addManager (w : World) {x : Manager} (registry : x.registry = .empty)
    (nextId : x.nextId = 1) : Within new w (w.addManager x) where
  size := rfl
  identity _ := ⟨rfl, rfl⟩
  registry k e he := by
    rw [w.addManager_keeps (q := Manager.registry) k registry] at he
    exact .inl he
  nextId k := Nat.le_of_eq (w.addManager_keeps (q := Manager.nextId) k nextId).symm
  held _ := .inl

end Within

theorem stable_within (new : Nat → Nat × ObjectRef → Prop) (w₀ : World) :
    Stable (Within new w₀) where
  manager {w m f} hf hw := hw.trans
    (.updateManager w m (fun x _ he => .inl ((hf x).2.1 he)) fun x => (hf x).2.2)
  content _ hw := hw.trans (.updateGraphic _ _ fun _ => ⟨rfl, rfl⟩)
  busy hf hw := hw.trans (.updateGraphic _ _ fun x => by rw [hf x]; exact ⟨rfl, rfl⟩)
  hands {w handles held guards ids} handles' held' hw := by
    refine hw.trans (.of_same rfl rfl fun g reached => .inl ?_)
    rcases isHeld_iff.1 reached with unnamed | ⟨name, named⟩
    · exact isHeld_iff.2 (.inl (held' unnamed))
    · exact isHeld_iff.2 (.inr ⟨name, handles' named⟩)
  clock _ hw := hw.trans (.of_same rfl rfl fun _ => .inl)

/-- An effect that preserves stable invariants brings nothing new. -/
theorem Within.of_stable {α : Type} {x : Effect α}
    (h : ∀ {I : World → Prop}, Stable I → Preserves I x) (w : World) :
    Within nothing w (left x w) :=
  h (stable_within nothing w) w (.refl w)

/-! ## Owners -/

/-- The id of the manager belongs to the object: it is that of the graphic, or it was handed out for
no graphic. -/
def Owned (w : World) (m id : Nat) : ObjectRef → Prop
  | .graphic g => (skeleton w).Known g m id
  | .scripted _ => id < (w.manager m).nextId ∧ ∀ g, ¬ (skeleton w).Known g m id

/-- Ids are in order, what is registered under an id owns it, and handles are of graphics that were
made. -/
structure Rooted (w : World) : Prop where
  numbered : (skeleton w).Numbered
  entries : ∀ {m id o}, (id, o) ∈ (w.manager m).registry.entries → Owned w m id o
  held : ∀ {g}, w.isHeld g = true → g < w.graphics.size

/-- The graphic is not registered with any manager. -/
def Absent (g : Nat) (w : World) : Prop :=
  ∀ m id, (id, .graphic g) ∉ (w.manager m).registry.entries

section Within

variable {new : Nat → Nat × ObjectRef → Prop}

theorem Within.known_iff (h : Within new w w') :
    (skeleton w').Known g m id ↔ (skeleton w).Known g m id := by
  obtain ⟨id', manager'⟩ := h.identity g
  show (g < w'.graphics.size ∧ (w'.graphic g).id = id ∧ (w'.graphic g).manager = m) ↔
    (g < w.graphics.size ∧ (w.graphic g).id = id ∧ (w.graphic g).manager = m)
  rw [h.size, id', manager']

theorem Within.owned (h : Within new w w') {o : ObjectRef} (owned : Owned w m id o) :
    Owned w' m id o := by
  cases o with
  | graphic g => exact h.known_iff.2 owned
  | scripted o =>
    exact ⟨Nat.lt_of_lt_of_le owned.1 (h.nextId m), fun g known => owned.2 g (h.known_iff.1 known)⟩

theorem Within.absent (h : Within nothing w w') (absent : Absent g w) : Absent g w' :=
  fun m id entry => (h.registry m _ entry).elim (absent m id) False.elim

theorem Rooted.within (h : Rooted w) (within : Within new w w')
    (owned : ∀ {m id o}, new m (id, o) → Owned w m id o) : Rooted w' where
  numbered := by
    refine ⟨fun m => Nat.lt_of_lt_of_le (h.numbered.positive m) (within.nextId m), fun {g} made => ?_,
      fun known known' => h.numbered.distinct (within.known_iff.1 known) (within.known_iff.1 known')⟩
    have made : g < w'.graphics.size := made
    rw [within.size] at made
    obtain ⟨id, manager⟩ := within.identity g
    obtain ⟨positive, less⟩ := h.numbered.issued made
    show 0 < (w'.graphic g).id ∧ (w'.graphic g).id < (w'.manager (w'.graphic g).manager).nextId
    rw [id, manager]
    exact ⟨positive, Nat.lt_of_lt_of_le less (within.nextId _)⟩
  entries entry := within.owned ((within.registry _ _ entry).elim h.entries owned)
  held {g} held := by
    rw [within.size]
    exact (within.held g held).elim h.held id

end Within

namespace Rooted

/-- What owns the id of a graphic is the graphic. -/
theorem owner_unique (h : Rooted w) {o : ObjectRef} (known : (skeleton w).Known g m id)
    (owned : Owned w m id o) : o = .graphic g := by
  cases o with
  | graphic k => rw [h.numbered.distinct owned known]
  | scripted o => exact absurd known (owned.2 g)

/-- The manager of a graphic that was made was made, too. -/
theorem manager_there (h : Rooted w) (made : g < w.graphics.size) :
    (w.graphic g).manager < w.managers.size := by
  by_contra beyond
  have issued : 0 < (w.graphic g).id ∧
      (w.graphic g).id < (w.manager (w.graphic g).manager).nextId := h.numbered.issued made
  rw [w.manager_of_size_le (w.graphic g).manager (by omega)] at issued
  have first : (Manager.new .builtIn).nextId = 1 := rfl
  omega

/-- An id that is owned was handed out. -/
theorem issued (h : Rooted w) {o : ObjectRef} (owned : Owned w m id o) :
    id < (w.manager m).nextId := by
  cases o with
  | graphic g =>
    obtain ⟨made, rfl, rfl⟩ : (skeleton w).Known g m id := owned
    exact (h.numbered.issued made).2
  | scripted o => exact owned.1

/-- The id of a graphic that is not registered is not registered. -/
theorem find?_of_absent (h : Rooted w) (made : g < w.graphics.size) (absent : Absent g w) :
    (w.manager (w.graphic g).manager).registry.find? (w.graphic g).id = none := by
  refine Registry.find?_eq_none.2 fun o entry => ?_
  obtain rfl := h.owner_unique ⟨made, rfl, rfl⟩ (h.entries entry)
  exact absent _ _ entry

/-- An operation registers nothing. -/
theorem effect (h : Rooted w) {o : Op} (ready : o.Ready w) :
    Within nothing w (left o.effect w) := by
  refine (stable_within nothing w).effect ready (.refl w) (fun g p _ => ?_) (fun g f _ _ _ => ?_)
    (fun g is => ?_) (fun name handle id is => ?_) (fun config timer => ?_) fun f is => ?_
  · exact .updateGraphic _ _ fun _ => ⟨rfl, rfl⟩
  · exact .updateGraphic _ _ fun _ => ⟨rfl, rfl⟩
  · subst is
    refine .of_same rfl rfl fun k held => ?_
    rcases isHeld_iff.1 held with unnamed | named
    · rcases List.mem_cons.1 unnamed with rfl | unnamed
      · exact .inl ready
      · exact .inl (isHeld_iff.2 (.inl unnamed))
    · exact .inl (isHeld_iff.2 (.inr named))
  · subst is
    refine .of_same rfl rfl fun k held => ?_
    rcases isHeld_iff.1 held with unnamed | ⟨other, named⟩
    · exact .inl (isHeld_iff.2 (.inl unnamed))
    · rcases List.mem_cons.1 named with new | named
      · cases new
        rcases ready with held | entry
        · exact .inl held
        -- what was just registered was made
        · have owned : (skeleton w).Known k _ _ := h.entries entry
          exact .inr owned.1
      · exact .inl (isHeld_iff.2 (.inr ⟨other, (List.mem_filter.1 named).1⟩))
  · exact .addManager w rfl rfl
  · subst is
    refine .of_same ready.managers ready.graphics fun k held => .inl ?_
    unfold World.isHeld at held ⊢
    rwa [ready.handles, ready.held] at held

end Rooted

/-! ## Making, numbering and booking -/

/-- Making a graphic keeps every owner. -/
theorem owned_create {content : Content} (there : m < w.managers.size)
    (made : Swapping.create m content w = .ok (id, g) w') {k i : Nat} {o : ObjectRef}
    (owned : Owned w k i o) : Owned w' k i o := by
  obtain ⟨same, -, -⟩ := skeleton_create there made
  have nextId : (skeleton w').nextId k = ((skeleton w).addGraphic m).nextId k := by rw [same]
  have later : (w.manager k).nextId ≤ (w'.manager k).nextId := by
    show (skeleton w).nextId k ≤ (skeleton w').nextId k
    rw [nextId]
    unfold Skeleton.addGraphic
    dsimp only
    rw [Function.update_apply]
    split
    · next own => rw [own]; exact Nat.le_succ _
    · exact Nat.le_refl _
  cases o with
  | graphic h =>
    show (skeleton w').Known h k i
    rw [same]
    exact Skeleton.Known.addGraphic owned
  | scripted o =>
    refine ⟨Nat.lt_of_lt_of_le owned.1 later, fun h known => ?_⟩
    rw [same] at known
    rcases Skeleton.known_of_addGraphic known with ⟨-, rfl, rfl⟩ | old
    · exact Nat.lt_irrefl _ owned.1
    · exact owned.2 h old

/-- It registers nothing. -/
theorem registry_create {content : Content} (there : m < w.managers.size)
    (made : Swapping.create m content w = .ok (id, g) w') (k : Nat) :
    (w'.manager k).registry = (w.manager k).registry := by
  obtain ⟨same, -, -⟩ := skeleton_create there made
  show (skeleton w').registry k = (skeleton w).registry k
  rw [same]
  rfl

theorem Rooted.create (h : Rooted w) {content : Content} (there : m < w.managers.size)
    (made : Swapping.create m content w = .ok (id, g) w') : Rooted w' := by
  obtain ⟨same, -, -⟩ := skeleton_create there made
  refine ⟨?_, fun {k i o} entry => ?_, fun {k} held => ?_⟩
  · rw [same]
    exact h.numbered.addGraphic m
  · rw [registry_create there made] at entry
    exact owned_create there made (h.entries entry)
  · obtain ⟨-, -, rfl⟩ := Swapping.create_ok made
    have before : k < w.graphics.size := h.held held
    rw [World.size_addGraphic]
    exact Nat.lt_succ_of_lt before

/-- The graphic that was made owns its id, and is registered nowhere. -/
theorem Rooted.made (h : Rooted w) {content : Content} (there : m < w.managers.size)
    (made : Swapping.create m content w = .ok (id, g) w') :
    Owned w' m id (.graphic g) ∧ Absent g w' ∧ g = w.graphics.size := by
  obtain ⟨same, rfl, rfl⟩ := skeleton_create there made
  refine ⟨?_, fun k i entry => ?_, rfl⟩
  · show (skeleton w').Known _ _ _
    rw [same]
    exact Skeleton.known_addGraphic _ m
  · rw [registry_create there made] at entry
    -- what was registered before was made before
    have owned : (skeleton w).Known _ _ _ := h.entries entry
    exact Nat.lt_irrefl _ owned.1

/-- An id that is handed out for a scripted object is the next one, and the id of no graphic. -/
theorem Rooted.enlist (h : Rooted w) (there : m < w.managers.size) (o : Nat)
    (fresh : Accounting.freshId m w = .ok id w') :
    Within nothing w w' ∧ id = (w.manager m).nextId ∧ Owned w' m id (.scripted o) := by
  have within : Within nothing w w' :=
    left_of_ok fresh ▸ .of_stable (fun st => Accounting.preserves_freshId st.manager) _
  cases fresh
  refine ⟨within, rfl, ?_, fun g known => ?_⟩
  · rw [World.manager_updateManager_self _ _ there]
    exact Nat.lt_succ_self _
  · obtain ⟨made, sameId, rfl⟩ := within.known_iff.1 known
    exact absurd sameId (Nat.ne_of_lt (h.numbered.issued made).2)

/-- Booking enters one object, also if it halts. -/
theorem within_book (m id : Nat) (o : ObjectRef) (w : World) :
    Within (fun k e => k = m ∧ e = (id, o)) w (left (Accounting.book m id o) w) := by
  refine Accounting.preserves_book (stable_within _ w).usable.counts (preserves_change fun v hv => ?_)
    w (.refl w)
  refine hv.trans (.updateManager v m (fun x e he => ?_) fun x => Nat.le_refl _)
  rcases Registry.mem_place he with new | old
  · exact .inr ⟨rfl, new⟩
  · exact .inl old

theorem within_finish (m n : Nat) (w : World) :
    Within nothing w (left (Sweep.finish m n) w) := by
  have counts : Preserves (Within nothing w) (Sweep.finish m n) :=
    preserves_bind (stable_within nothing w).usable.reconcile fun _ => preserves_change fun v hv =>
      hv.trans (.updateManager v m (fun _ _ => .inl) fun _ => Nat.le_refl _)
  exact counts w (.refl w)

/-! ## What waits -/

/-- What a call is to book: the manager, the id and the object. -/
def Call.waits? : Call → Option (Nat × Nat × ObjectRef)
  | .entering m id o => some (m, id, o)
  | _ => none

/-- What waits to be booked, the innermost first. -/
def waiting (calls : List Call) : List (Nat × Nat × ObjectRef) := calls.filterMap Call.waits?

/-- What a step does to what is registered and to what waits: it registers nothing new, it makes a
graphic or gives an object an id, or it books what has waited. -/
inductive Custody (c d : State) : Prop
  | keeps (within : Within nothing c.world d.world) (fewer : waiting d.calls <:+ waiting c.calls)
  | makes {m id g : Nat} {content : Content} (there : m < c.world.managers.size)
      (made : Swapping.create m content c.world = .ok (id, g) d.world)
      (waits : waiting d.calls = (m, id, .graphic g) :: waiting c.calls)
  | numbers {m id o : Nat} (there : m < c.world.managers.size)
      (fresh : Accounting.freshId m c.world = .ok id d.world)
      (waits : waiting d.calls = (m, id, .scripted o) :: waiting c.calls)
  | books {m id : Nat} {o : ObjectRef} {rest : List (Nat × Nat × ObjectRef)}
      (waited : waiting c.calls = (m, id, o) :: rest)
      (world : d.world = left (Accounting.book m id o) c.world) (fewer : waiting d.calls <:+ rest)

theorem Step.custody (rooted : Rooted c.world) (step : Step c a d) : Custody c d := by
  have after (s : List Call) : waiting (home s) <:+ waiting s := (home_suffix_self s).filterMap _
  cases step with
  | op free ready done => exact .keeps (left_of_ok done ▸ rooted.effect ready) List.suffix_rfl
  | opHalts free ready halts =>
    exact .keeps (left_of_error halts ▸ rooted.effect ready) List.suffix_rfl
  | make free there fits made => exact .makes there made rfl
  | copy free there held duplicated made => exact .makes there made rfl
  | enlist free there fresh => exact .numbers there fresh rfl
  | settle done => exact .books rfl (left_of_ok done).symm List.suffix_rfl
  | settleHalts halts => exact .books rfl (left_of_error halts).symm (after _)
  | enter free held begun fetched =>
    have first : Within nothing _ _ :=
      left_of_ok begun ▸ Within.of_stable Stable.beginOperation _
    have second : Within nothing _ _ := left_of_ok fetched ▸ Within.of_stable Stable.fetch _
    exact .keeps (first.trans second) List.suffix_rfl
  | leave done =>
    exact .keeps (left_of_ok done ▸ .of_stable Stable.endOperation _) List.suffix_rfl
  | call | answer | skip | askScripted | look => exact .keeps (.refl _) List.suffix_rfl
  | answerHalts => exact .keeps (.refl _) (after _)
  | sweep | suppress =>
    exact .keeps (.updateManager _ _ (fun _ _ => .inl) fun _ => Nat.le_refl _) List.suffix_rfl
  | ask asked done =>
    exact .keeps (left_of_ok done ▸ .of_stable Stable.swapOut _) List.suffix_rfl
  | askHalts asked halts =>
    exact .keeps (left_of_error halts ▸ .of_stable Stable.swapOut _) (after _)
  | finish ended done => exact .keeps (left_of_ok done ▸ within_finish _ _ _) List.suffix_rfl
  | finishHalts ended halts =>
    exact .keeps (left_of_error halts ▸ within_finish _ _ _) (after _)

/-! ## States -/

/-- Ids that wait to be registered are owned too and wait once; a graphic that waits is registered
nowhere. -/
structure Orderly (c : State) : Prop where
  world : Rooted c.world
  owned : ∀ {m id o}, (m, id, o) ∈ waiting c.calls → Owned c.world m id o
  absent : ∀ {m id g}, (m, id, .graphic g) ∈ waiting c.calls → Absent g c.world
  once : (waiting c.calls).Nodup

namespace Orderly

theorem keeps (h : Orderly c) (within : Within nothing c.world d.world)
    (fewer : waiting d.calls <:+ waiting c.calls) : Orderly d where
  world := h.world.within within False.elim
  owned listed := within.owned (h.owned (fewer.subset listed))
  absent listed := within.absent (h.absent (fewer.subset listed))
  once := h.once.sublist fewer.sublist

/-- What has the next id of a manager comes to wait. -/
theorem adds (h : Orderly c) {o : ObjectRef} (world : Rooted d.world)
    (owned : ∀ {k i x}, Owned c.world k i x → Owned d.world k i x)
    (absent : ∀ {k}, Absent k c.world → Absent k d.world)
    (waits : waiting d.calls = (m, id, o) :: waiting c.calls)
    (next : id = (c.world.manager m).nextId) (owner : Owned d.world m id o)
    (unlisted : ∀ k, o = .graphic k → Absent k d.world) : Orderly d := by
  refine ⟨world, fun {k i x} listed => ?_, fun {k i x} listed => ?_, ?_⟩
  · rw [waits] at listed
    rcases List.mem_cons.1 listed with same | old
    · cases same
      exact owner
    · exact owned (h.owned old)
  · rw [waits] at listed
    rcases List.mem_cons.1 listed with same | old
    · cases same
      exact unlisted x rfl
    · exact absent (h.absent old)
  · rw [waits]
    refine List.nodup_cons.2 ⟨fun again => ?_, h.once⟩
    exact Nat.ne_of_lt (h.world.issued (h.owned again)) next

/-- What waited is booked. -/
theorem books (h : Orderly c) {o : ObjectRef} {rest : List (Nat × Nat × ObjectRef)}
    (waited : waiting c.calls = (m, id, o) :: rest)
    (world : d.world = left (Accounting.book m id o) c.world) (fewer : waiting d.calls <:+ rest) :
    Orderly d := by
  have within := within_book m id o c.world
  rw [← world] at within
  have owner : Owned c.world m id o := h.owned (waited ▸ List.mem_cons_self)
  have others : ∀ t ∈ waiting d.calls, t ∈ waiting c.calls :=
    fun t listed => waited ▸ List.mem_cons_of_mem _ (fewer.subset listed)
  obtain ⟨apart, once⟩ := List.nodup_cons.1 (waited ▸ h.once)
  refine ⟨h.world.within within ?_, fun listed => within.owned (h.owned (others _ listed)),
    fun {n i g} listed k j entry => ?_, once.sublist fewer.sublist⟩
  · rintro k i x ⟨rfl, same⟩
    cases same
    exact owner
  · rcases within.registry k _ entry with old | ⟨rfl, same⟩
    · exact h.absent (others _ listed) k j old
    -- a graphic that still waits is not the one that was booked
    · cases same
      obtain ⟨-, rfl, rfl⟩ : (skeleton c.world).Known g n i := h.owned (others _ listed)
      obtain ⟨-, rfl, rfl⟩ : (skeleton c.world).Known g _ _ := owner
      exact apart (fewer.subset listed)

/-- Every step keeps ids with their owners. -/
theorem step (h : Orderly c) (step : Step c a d) : Orderly d := by
  cases step.custody h.world with
  | keeps within fewer => exact h.keeps within fewer
  | makes there made waits =>
    obtain ⟨owner, absent, -⟩ := h.world.made there made
    refine h.adds (h.world.create there made) (owned_create there made)
      (fun before k i entry => ?_) waits (Swapping.create_ok made).1 owner fun k same => ?_
    · rw [registry_create there made] at entry
      exact before k i entry
    · cases same
      exact absent
  | @numbers m id o there fresh waits =>
    obtain ⟨within, next, owner⟩ := h.world.enlist there o fresh
    exact h.adds (h.world.within within False.elim) within.owned within.absent waits next owner nofun
  | books waited world fewer => exact h.books waited world fewer

end Orderly

theorem orderly_start (environment : Names String) : Orderly ⟨[], .start environment⟩ := by
  refine ⟨⟨⟨fun m => ?_, nofun, fun known => nomatch known.1⟩, fun {m id o} entry => ?_,
    fun {g} held => ?_⟩, nofun, nofun, List.nodup_nil⟩
  · show 0 < ((World.start environment).manager m).nextId
    rw [World.manager_start]
    exact Nat.one_pos
  · rw [World.manager_start] at entry
    cases entry
  · rcases isHeld_iff.1 held with unnamed | ⟨name, named⟩
    · cases unnamed
    · cases named

/-- In every run ids stay with their owners. -/
theorem Reached.orderly {environment : Names String} (reached : Reached environment acts c) :
    Orderly c :=
  reached.invariant (orderly_start environment) fun h step => h.step step

end GraphicCache.Run
