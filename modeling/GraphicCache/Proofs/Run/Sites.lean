/-
Where the steps of a run take place. An operation of a program is about some graphics and managers,
and so is a call that goes on: a graphic is at its manager, a booking at the manager it is for, and a
sweep at the manager that it sweeps. A step changes no other manager and no other graphic, although
ids are the same with many managers, and graphics reach their managers by themselves.
-/
import GraphicCache.Proofs.Run.Identity

namespace GraphicCache.Run

open Effect

variable {environment : Names String} {past later : List Taken} {t : Taken} {c d : State} {a : Action}
  {w v w' : World} {m k g h id : Nat} {ms gs : List Nat}

/-! ## What steps are about -/

namespace Op

/-- The graphics that an operation is about. A guard under a name that is taken lets go of another
graphic. -/
def subjects (w : World) : Op → List Nat
  | .swapOut g | .swapIn g | .peek g | .replace g _ | .setLastUsed g _ | .alterFile g _ | .hold g
  | .letGo g => [g]
  | .beginOperation g guard => g :: (w.guards.get? guard).toList
  | .endOperation guard => (w.guards.get? guard).toList
  | _ => []

/-- The managers that an operation is about. A handle under a name that is taken lets go of another
object. -/
def sites (w : World) : Op → List Nat
  | .bind name handle _ => w.managerOf handle :: ((w.handles.get? name).map w.managerOf).toList
  | .drop name => ((w.handles.get? name).map w.managerOf).toList
  | .setTimer m _ | .audit m | .unregister m _ | .announceIn m _ | .announceOut m _
  | .announceResize m _ _ | .noticeIn m _ | .noticeOut m _ => [m]
  | o => (o.subjects w).map fun g => (w.graphic g).manager

end Op

/-- The graphics that a call goes on with: the one that is read, or the one that a sweep comes to. -/
def Call.subjects : Call → List Nat
  | .reading g => [g]
  | .sweeping _ _ ((_, .graphic g) :: _) none _ => [g]
  | _ => []

/-- The manager that a call goes on with. -/
def Call.sites (w : World) : Call → List Nat
  | .reading g => [(w.graphic g).manager]
  | .swappingOut _ => []
  | .entering m .. => [m]
  | .sweeping m .. => [m]

/-- The graphics that a step is about, apart from those that it makes. -/
def Taken.subjects (t : Taken) : List Nat :=
  match t.action with
  | .op o | .halt (some o) => o.subjects t.before.world
  | .enter g => [g]
  | .make _ | .copy _ | .enlist _ | .call _ | .sweep _ | .suppress _ => []
  | _ => (t.before.calls.head?.map Call.subjects).getD []

/-- The managers that a step is about. What is made is for the manager that it is to be booked
with. -/
def Taken.sites (t : Taken) : List Nat :=
  match t.action with
  | .op o | .halt (some o) => o.sites t.before.world
  | .enter g => [(t.before.world.graphic g).manager]
  | .make _ | .copy _ | .enlist _ => (t.after.calls.head?.map (Call.sites t.after.world)).getD []
  | .sweep m | .suppress m => [m]
  | .call _ => []
  | _ => (t.before.calls.head?.map (Call.sites t.before.world)).getD []

/-! ## Changes in some places only -/

/-- The world has grown, and all managers and graphics that it had are as they were, apart from those
of the lists. -/
structure Confined (ms gs : List Nat) (w w' : World) : Prop extends Grows w w' where
  manager : ∀ m < w.managers.size, m ∉ ms → w'.manager m = w.manager m
  graphic : ∀ g < w.graphics.size, g ∉ gs → w'.graphic g = w.graphic g

namespace Confined

theorem refl (w : World) : Confined ms gs w w :=
  ⟨.refl w, fun _ _ _ => rfl, fun _ _ _ => rfl⟩

theorem trans (h : Confined ms gs w v) (h' : Confined ms gs v w') :
    Confined ms gs w w' where
  toGrows := h.toGrows.trans h'.toGrows
  manager m there other :=
    (h'.manager m (Nat.lt_of_lt_of_le there h.managers) other).trans (h.manager m there other)
  graphic g made other :=
    (h'.graphic g (Nat.lt_of_lt_of_le made h.graphics) other).trans (h.graphic g made other)

theorem updateManager (w : World) {f : Manager → Manager} (site : m ∈ ms) :
    Confined ms gs w (w.updateManager m f) where
  toGrows := .updateManager w m f
  manager k _ other := by
    have apart : m ≠ k := by
      rintro rfl
      exact other site
    exact w.manager_updateManager_ne m k apart
  graphic _ _ _ := rfl

theorem updateGraphic (w : World) {f : Graphic → Graphic} (subject : g ∈ gs)
    (hf : ∀ x, (f x).id = x.id ∧ (f x).manager = x.manager) :
    Confined ms gs w (w.updateGraphic g f) where
  toGrows := .updateGraphic w g hf
  manager _ _ _ := rfl
  graphic h _ other := by
    have apart : g ≠ h := by
      rintro rfl
      exact other subject
    exact w.graphic_updateGraphic_ne g h apart

theorem addManager (w : World) (x : Manager) : Confined ms gs w (w.addManager x) where
  toGrows := .addManager w x
  manager m there _ := by
    rw [World.manager_addManager, if_neg (Nat.ne_of_lt there)]
  graphic _ _ _ := rfl

theorem addGraphic (w : World) (x : Graphic) : Confined ms gs w (w.addGraphic x) where
  toGrows := .addGraphic w x
  manager _ _ _ := rfl
  graphic g made _ := by
    rw [World.graphic_addGraphic, if_neg (Nat.ne_of_lt made)]

theorem mono {ms' gs' : List Nat} (h : Confined ms gs w w') (sites : ms ⊆ ms')
    (subjects : gs ⊆ gs') : Confined ms' gs' w w' where
  toGrows := h.toGrows
  manager m there other := h.manager m there fun site => other (sites site)
  graphic g made other := h.graphic g made fun subject => other (subjects subject)

/-- Names, the clock and what is outside of the library have no place. -/
theorem of_same (now : w.now ≤ w'.now) (managers : w'.managers = w.managers)
    (graphics : w'.graphics = w.graphics) (proper : w.Proper → w'.Proper) :
    Confined ms gs w w' where
  toGrows := .of_same now managers graphics proper
  manager _ _ _ := by
    unfold World.manager
    rw [managers]
  graphic _ _ _ := by
    unfold World.graphic
    rw [graphics]

/-- Handles, guards and ids change. -/
theorem hands (w : World) (handles : Names Handle) (held : List Nat) (guards ids : Names Nat) :
    Confined ms gs w
      { w with handles := handles, held := held, guards := guards, ids := ids } :=
  .of_same (Int.le_refl _) rfl rfl fun proper => ⟨proper.names, proper.process, proper.hooks⟩

/-! ## Effects -/

/-- What accounts for a manager changes that manager. -/
theorem counts {f : Manager → Manager} (site : m ∈ ms) (before : Confined ms gs w v) :
    Confined ms gs w (v.updateManager m f) :=
  before.trans (.updateManager v site)

theorem unregister (site : m ∈ ms) (w : World) :
    Confined ms gs w (left (Accounting.unregister m id) w) :=
  Accounting.preserves_unregister (fun _ => counts site) w (.refl w)

theorem announceResize {oldSize : Int} (site : m ∈ ms) (w : World) :
    Confined ms gs w (left (Accounting.announceResize m id oldSize) w) :=
  Accounting.preserves_announceResize (fun _ => counts site) w (.refl w)

theorem credit {bytes : Int} (site : m ∈ ms) (w : World) :
    Confined ms gs w (left (Accounting.credit m bytes) w) :=
  Accounting.preserves_credit (fun _ => counts site) w (.refl w)

theorem debit {bytes : Int} (site : m ∈ ms) (w : World) :
    Confined ms gs w (left (Accounting.debit m bytes) w) :=
  Accounting.preserves_debit (fun _ => counts site) w (.refl w)

theorem audit (site : m ∈ ms) (w : World) :
    Confined ms gs w (left (Accounting.audit m) w) :=
  Accounting.preserves_audit (fun _ => counts site) w (.refl w)

theorem book {o : ObjectRef} (site : m ∈ ms) (w : World) :
    Confined ms gs w (left (Accounting.book m id o) w) :=
  Accounting.preserves_book (fun _ => counts site)
    (preserves_change fun _ => counts site) w (.refl w)

theorem finish {n : Nat} (site : m ∈ ms) (w : World) :
    Confined ms gs w (left (Sweep.finish m n) w) :=
  preserves_bind (Accounting.preserves_reconcile fun _ => counts site)
    (fun _ => preserves_change fun _ => counts site) w (.refl w)

theorem create {content : Content} (site : m ∈ ms)
    (made : Swapping.create m content w = .ok (id, g) w') : Confined ms gs w w' := by
  obtain ⟨-, -, rfl⟩ := Swapping.create_ok made
  exact (Confined.updateManager w site).trans (.addGraphic _ _)

variable (site : (w.graphic g).manager ∈ ms) (subject : g ∈ gs)

include subject

/-- Beginning and ending operations and the time of use are matters of the graphic alone. -/
theorem busy {f : Graphic → Graphic} (hf : Busy f) (w : World) :
    Confined ms gs w (w.updateGraphic g f) :=
  .updateGraphic w subject fun x => by rw [hf x]; exact ⟨rfl, rfl⟩

theorem setContent (w : World) (content : Content) :
    Confined ms gs w (w.setContent g content) :=
  .updateGraphic w subject fun _ => ⟨rfl, rfl⟩

include site

theorem swapOut : Confined ms gs w (left (Swapping.swapOut g) w) := by
  rcases Swapping.left_swapOut g w with stays | ⟨content, freed, -, -, moves⟩
  · rw [stays]
    exact .refl w
  · rw [moves]
    exact (setContent subject w content).trans (.debit site _)

theorem swapIn : Confined ms gs w (left (Swapping.swapIn g) w) := by
  rcases Swapping.left_swapIn g w with stays | ⟨content, restored, -, moves⟩
  · rw [stays]
    exact .refl w
  · rw [moves]
    exact (setContent subject w content).trans (.credit site _)

theorem fetch : Confined ms gs w (left (Swapping.fetch g) w) := by
  have used : Confined ms gs w
      (w.updateGraphic g fun x => { x with lastUsed := w.now }) :=
    busy subject (fun _ => rfl) w
  have own : ((w.updateGraphic g fun x => { x with lastUsed := w.now }).graphic g).manager =
      (w.graphic g).manager := w.updateGraphic_keeps (q := Graphic.manager) g g fun _ => rfl
  rw [Swapping.left_fetch]
  exact used.trans (swapIn (own ▸ site) subject)

theorem peek : Confined ms gs w (left (Swapping.use g pure) w) := by
  have begun : Confined ms gs w (left (Swapping.beginOperation g) w) :=
    busy subject (fun _ => rfl) w
  have own : ((left (Swapping.beginOperation g) w).graphic g).manager = (w.graphic g).manager :=
    w.updateGraphic_keeps (q := Graphic.manager) g g fun _ => rfl
  rw [Swapping.left_use]
  exact (begun.trans (fetch (own ▸ site) subject)).trans (busy subject (fun _ => rfl) _)

theorem replace {p : Payload} : Confined ms gs w (left (Swapping.replace g p) w) :=
  (setContent subject w ((w.graphic g).toContent.replace p w.now)).trans (.announceResize site _)

end Confined

/-- Letting go of a handle is a matter of its manager. -/
theorem Confined.release {handle : Handle} (site : w.managerOf handle ∈ ms) :
    Confined ms gs w (left (Handling.release handle) w) := by
  cases handle with
  | graphic g =>
    rw [Handling.left_release_graphic]
    split
    · exact .refl w
    · exact .unregister site w
  | registration m id => exact .unregister site w

/-- A guard holds another graphic from now on, and lets go of the one that it held. -/
theorem Confined.guard {guard : String} (subject : g ∈ gs)
    (old : ∀ k, w.guards.get? guard = some k → k ∈ gs) :
    Confined ms gs w (left (Op.beginOperation g guard).effect w) := by
  have begun : Confined ms gs w (left (Swapping.beginOperation g) w) :=
    .busy subject (fun _ => rfl) w
  have named := begun.trans (.hands _ w.handles w.held (w.guards.put guard g) w.ids)
  rw [left_guard, left_beginOperation guard rfl]
  split
  · exact named
  · next k found => exact named.trans (.busy (old k found) (fun _ => rfl) _)

theorem Confined.unguard {guard : String} (old : ∀ k, w.guards.get? guard = some k → k ∈ gs) :
    Confined ms gs w (left (Op.endOperation guard).effect w) := by
  rw [left_unguard, left_endOperation]
  split
  · exact .refl w
  · next k found =>
    exact (Confined.hands w w.handles w.held (w.guards.erase guard) w.ids).trans
      (.busy (old k found) (fun _ => rfl) _)

/-- A name stands for another handle from now on, and lets go of the one that it stood for. -/
theorem Confined.bind {name : String} {handle : Handle}
    (old : ∀ other, w.handles.get? name = some other → w.managerOf other ∈ ms) :
    Confined ms gs w (left (Handling.bind name handle id) w) := by
  have named : Confined ms gs w
      { w with handles := w.handles.put name handle, ids := w.ids.put name id } :=
    .hands w _ w.held w.guards _
  rw [Handling.left_bind]
  cases found : w.handles.get? name with
  | none => exact named
  | some other =>
    have site := old other found
    exact named.trans (.release (by cases other <;> exact site))

theorem Confined.drop {name : String}
    (old : ∀ other, w.handles.get? name = some other → w.managerOf other ∈ ms) :
    Confined ms gs w (left (Handling.drop name) w) := by
  rw [Handling.left_drop]
  split
  · exact .refl w
  · next other found =>
    have site := old other found
    exact (Confined.hands w (w.handles.erase name) w.held w.guards w.ids).trans
      (.release (by cases other <;> exact site))

open Op in
/-- An operation changes what it is about. -/
theorem confined_effect {o : Op} (ready : o.Ready w) :
    Confined (o.sites w) (o.subjects w) w (left o.effect w) := by
  cases o with
  | swapOut g =>
    exact (left_bind_pure (Swapping.swapOut g) () w).symm ▸
      .swapOut List.mem_cons_self List.mem_cons_self
  | swapIn g =>
    exact (left_bind_pure (Swapping.swapIn g) () w).symm ▸
      .swapIn List.mem_cons_self List.mem_cons_self
  | peek g => exact (left_peek g w).symm ▸ .peek List.mem_cons_self List.mem_cons_self
  | replace g p => exact .replace List.mem_cons_self List.mem_cons_self
  | setLastUsed g lastUsed => exact .busy List.mem_cons_self (fun _ => rfl) w
  | beginOperation g guard =>
    exact .guard List.mem_cons_self fun k found => by simp [subjects, found]
  | endOperation guard => exact .unguard fun k found => by simp [subjects, found]
  | alterFile g f =>
    rw [left_changeFile]
    split
    · exact .refl w
    · exact .updateGraphic w List.mem_cons_self fun _ => ⟨rfl, rfl⟩
  | hold g => exact .hands w w.handles (g :: w.held) w.guards w.ids
  | letGo g =>
    refine (Confined.hands w w.handles (w.held.erase g) w.guards w.ids).trans ?_
    have site : World.managerOf { w with held := w.held.erase g } (.graphic g) ∈ sites w (.letGo g) :=
      List.mem_cons_self
    exact .release site
  | bind name handle id => exact .bind fun other found => by simp [sites, found]
  | drop name =>
    exact (left_bind_pure (Handling.drop name) () w).symm ▸
      .drop fun other found => by simp [sites, found]
  | addManager config timer =>
    obtain ⟨timer, made⟩ := left_addManager config timer w
    exact made ▸ .addManager w _
  | setTimer m timer => exact .updateManager w List.mem_cons_self
  | audit m => exact (left_bind_pure _ () w).symm ▸ .audit List.mem_cons_self w
  | unregister m id => exact .unregister List.mem_cons_self w
  | announceIn m size | noticeIn m size => exact .credit List.mem_cons_self w
  | announceOut m size | noticeOut m size => exact .debit List.mem_cons_self w
  | announceResize m id oldSize => exact .announceResize List.mem_cons_self w
  | advance span =>
    exact .of_same (Int.le_add_of_nonneg_right (Int.natCast_nonneg _)) rfl rfl fun proper =>
      ⟨proper.names, proper.process, proper.hooks⟩
  | arrange f =>
    exact .of_same (Int.le_of_eq ready.now.symm) ready.managers ready.graphics ready.proper

/-! ## Steps -/

/-- The graphic that a sweep comes to belongs to the manager that is swept. -/
def Homely (c : State) : Prop :=
  ∀ m id g, (m, id, .graphic g) ∈ ahead c.calls → (c.world.graphic g).manager = m

theorem History.homely (history : History environment past c) : Homely c :=
  fun _ _ _ noted => (history.known_of_ahead noted).2.2

/-- A step changes what it is about, and makes new things. -/
theorem Step.confined (homely : Homely c) (step : Step c a d) :
    Confined (Taken.sites ⟨c, a, d⟩) (Taken.subjects ⟨c, a, d⟩) c.world d.world := by
  cases step with
  | op free ready done => exact left_of_ok done ▸ confined_effect ready
  | opHalts free ready halts => exact left_of_error halts ▸ confined_effect ready
  | make free there fits made => exact .create List.mem_cons_self made
  | copy free there held duplicated made => exact .create List.mem_cons_self made
  | enlist free there fresh =>
    exact left_of_ok fresh ▸
      Accounting.preserves_freshId (fun _ => Confined.counts List.mem_cons_self) _ (.refl _)
  | settle done => exact left_of_ok done ▸ .book List.mem_cons_self _
  | settleHalts halts => exact left_of_error halts ▸ .book List.mem_cons_self _
  | @enter s w v w' g p free held begun fetched =>
    have begins : Confined [(w.graphic g).manager] [g] w v :=
      left_of_ok begun ▸ .busy List.mem_cons_self (fun _ => rfl) w
    have own : (v.graphic g).manager = (w.graphic g).manager := by
      cases begun
      exact w.updateGraphic_keeps (q := Graphic.manager) g g fun _ => rfl
    exact begins.trans
      (left_of_ok fetched ▸ .fetch (own ▸ List.mem_cons_self) List.mem_cons_self)
  | leave done => exact left_of_ok done ▸ .busy List.mem_cons_self (fun _ => rfl) _
  | call | answer | answerHalts | skip | askScripted | look => exact .refl _
  | sweep | suppress => exact .updateManager _ List.mem_cons_self
  | @ask s w w' m target id g rest n r asked done =>
    have own : (w.graphic g).manager = m :=
      homely m id g (List.mem_append_left _ List.mem_cons_self)
    exact left_of_ok done ▸ .swapOut (own ▸ List.mem_cons_self) List.mem_cons_self
  | @askHalts s w w' m target id g rest n e asked halts =>
    have own : (w.graphic g).manager = m :=
      homely m id g (List.mem_append_left _ List.mem_cons_self)
    exact left_of_error halts ▸ .swapOut (own ▸ List.mem_cons_self) List.mem_cons_self
  | finish ended done => exact left_of_ok done ▸ .finish List.mem_cons_self _
  | finishHalts ended halts => exact left_of_error halts ▸ .finish List.mem_cons_self _

/-! ## Runs -/

/-- A run changes what its steps are about, and makes new things. -/
theorem Onward.confined (history : History environment past c) (onward : Onward c later d) :
    Confined (later.flatMap Taken.sites) (later.flatMap Taken.subjects) c.world d.world := by
  induction onward with
  | refl => exact .refl _
  | snoc onward step ih =>
    have last := step.confined (onward.history history).homely
    refine (ih.mono ?_ ?_).trans (last.mono ?_ ?_)
    all_goals simp

/-- What an operation is about is at a manager that it is about. -/
theorem Op.site_of_subject (w : World) (o : Op) (subject : g ∈ o.subjects w) :
    (w.graphic g).manager ∈ o.sites w := by
  cases o with
  | bind | drop | addManager | setTimer | audit | unregister | announceIn | announceOut
  | announceResize | noticeIn | noticeOut | advance | arrange => cases subject
  | _ => exact List.mem_map_of_mem subject

theorem Call.site_of_subject {call : Call} {s : List Call} (homely : Homely ⟨call :: s, w⟩)
    (subject : g ∈ call.subjects) : (w.graphic g).manager ∈ call.sites w := by
  cases call with
  | reading k =>
    cases List.mem_singleton.1 subject
    exact List.mem_cons_self
  | swappingOut | entering => cases subject
  | sweeping m target rest asked n =>
    unfold Call.subjects at subject
    split at subject
    · next same =>
      cases same
    · next same =>
      cases same
      cases List.mem_singleton.1 subject
      exact homely _ _ _ (List.mem_append_left _ List.mem_cons_self) ▸ List.mem_cons_self
    · cases subject

/-- The graphics that a step is about are at the managers that it is about. -/
theorem Taken.site_of_subject (homely : Homely t.before) (subject : g ∈ t.subjects) :
    (t.before.world.graphic g).manager ∈ t.sites := by
  obtain ⟨⟨calls, w⟩, a, d⟩ := t
  have head (subject : g ∈ (calls.head?.map Call.subjects).getD []) :
      (w.graphic g).manager ∈ (calls.head?.map (Call.sites w)).getD [] := by
    cases calls with
    | nil => cases subject
    | cons call s => exact Call.site_of_subject homely subject
  cases a with
  | op o => exact o.site_of_subject w subject
  | enter k =>
    cases List.mem_singleton.1 subject
    exact List.mem_cons_self
  | make | copy | enlist | call | sweep | suppress => cases subject
  | halt o =>
    cases o with
    | none => exact head subject
    | some o => exact o.site_of_subject w subject
  | settle | leave | answer | skip | ask | look | finish => exact head subject

/-- No step of a run that is about no graphic's manager is about the graphic. -/
theorem Onward.subject_free (history : History environment past c) (onward : Onward c later d)
    (made : g < c.world.graphics.size) (away : ∀ t ∈ later, (c.world.graphic g).manager ∉ t.sites) :
    g ∉ later.flatMap Taken.subjects := by
  intro listed
  obtain ⟨t, taken, subject⟩ := List.mem_flatMap.1 listed
  obtain ⟨earlier, before, -, -⟩ := onward.step_of_mem taken
  have site := Taken.site_of_subject (before.history history).homely subject
  rw [((before.confined history).identity g made).2] at site
  exact away t taken site

end GraphicCache.Run
