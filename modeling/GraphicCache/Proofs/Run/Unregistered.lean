/-
Graphics that were unregistered while they had handles. What was taken out of the registry never
comes back, for ids and graphics are handed out once. Through its handles the graphic can be used as
before, and nearly all of that leaves its old manager alone: what it is asked on behalf of the
graphic it looks up in its registry, and finds nothing. Only swapping is told it without a look: the
running count then changes by the bytes that came or went, although the graphic is no part of what
the count is to be the sum of.
-/
import GraphicCache.Proofs.Run.Balance
import GraphicCache.Proofs.Run.Healing
import GraphicCache.Proofs.Run.Owners

namespace GraphicCache.Run

open Effect Accounting

variable {w v w' : World} {m g id : Nat} {c c' d e : State} {a : Action} {acts acts' : List Action}

/-! ## Gone for good -/

/-- The graphic was made, is registered nowhere, and does not wait to be. -/
structure Lost (g : Nat) (c : State) : Prop where
  made : g < c.world.graphics.size
  absent : Absent g c.world
  settled : ∀ m id, (m, id, .graphic g) ∉ waiting c.calls

/-- No step registers what is lost. -/
theorem Lost.step (h : Lost g c) (orderly : Orderly c) (step : Step c a d) : Lost g d := by
  have made : g < d.world.graphics.size := Nat.lt_of_lt_of_le h.made step.grows.graphics
  cases step.custody orderly.world with
  | keeps within fewer =>
    exact ⟨made, within.absent h.absent, fun m id listed => h.settled m id (fewer.subset listed)⟩
  -- another graphic is made
  | makes there created waits =>
    refine ⟨made, fun m id entry => ?_, fun m id listed => ?_⟩
    · rw [registry_create there created] at entry
      exact h.absent m id entry
    · rw [waits] at listed
      rcases List.mem_cons.1 listed with same | old
      · cases same
        exact Nat.ne_of_lt h.made (Swapping.create_ok created).2.1
      · exact h.settled m id old
  | @numbers k i o there fresh waits =>
    have within := (orderly.world.enlist there o fresh).1
    refine ⟨made, within.absent h.absent, fun m id listed => ?_⟩
    rw [waits] at listed
    rcases List.mem_cons.1 listed with same | old
    · cases same
    · exact h.settled m id old
  -- what is booked is what waited
  | books waited world fewer =>
    refine ⟨made, fun m id entry => ?_, fun m id listed => ?_⟩
    · rw [world] at entry
      rcases (within_book _ _ _ c.world).registry m _ entry with old | ⟨-, same⟩
      · exact h.absent m id old
      · cases same
        exact h.settled _ _ (waited ▸ List.mem_cons_self)
    · exact h.settled m id (waited ▸ List.mem_cons_of_mem _ (fewer.subset listed))

/-- So what was lost once is lost for the rest of the run. -/
theorem Lost.path (h : Lost g c) (orderly : Orderly c) {base : List Call}
    (path : Path base c acts d) : Lost g d ∧ Orderly d := by
  induction path with
  | refl => exact ⟨h, orderly⟩
  | snoc path step above ih => exact ⟨ih.1.step ih.2 step, ih.2.step step⟩

/-! ## Unregistering -/

/-- Unregistering a graphic takes it out of the only registry it is in, also if the manager's count
cannot follow. -/
theorem Rooted.unregister (rooted : Rooted w)
    (entry : (id, .graphic g) ∈ (w.manager m).registry.entries) :
    Absent g (left (Accounting.unregister m id) w) := by
  have forgotten : Absent g (w.updateManager m (·.forget id)) := by
    intro k i listed
    have before : (i, ObjectRef.graphic g) ∈ (w.manager k).registry.entries := by
      rw [World.manager_updateManager] at listed
      split at listed
      · exact (Registry.mem_erase.1 listed).1
      · exact listed
    -- the graphic is registered under its own id with its own manager only
    obtain ⟨-, rfl, rfl⟩ : (skeleton w).Known g m id := rooted.entries entry
    obtain ⟨-, rfl, rfl⟩ : (skeleton w).Known g k i := rooted.entries before
    have there : (w.graphic g).manager < w.managers.size := there_of_entry entry
    have listed : ((w.graphic g).id, .graphic g) ∈ ((w.updateManager (w.graphic g).manager
        (·.forget (w.graphic g).id)).manager (w.graphic g).manager).registry.entries := listed
    rw [World.manager_updateManager_self _ _ there] at listed
    exact (Registry.mem_erase.1 listed).2 rfl
  rw [left_unregister (Registry.find?_eq_some.2 entry)]
  refine preserves_debit (fun counting absent n i listed => ?_) _ forgotten
  rw [World.manager_updateManager] at listed
  split at listed
  · exact absent n i ((counting.tame _).2.1 listed)
  · exact absent n i listed

/-- What was unregistered is lost. -/
theorem Orderly.lost (orderly : Orderly c)
    (entry : (id, .graphic g) ∈ (c.world.manager m).registry.entries) (step : Step c a d)
    (unregisters : a = .op (.unregister m id) ∨ a = .halt (some (.unregister m id))) :
    Lost g d := by
  have known : (skeleton c.world).Known g m id := orderly.world.entries entry
  have made : g < d.world.graphics.size := Nat.lt_of_lt_of_le known.1 step.grows.graphics
  have settled (k i : Nat) : (k, i, .graphic g) ∉ waiting c.calls :=
    fun waits => orderly.absent waits m id entry
  have gone := orderly.world.unregister entry
  rcases unregisters with rfl | rfl
  · cases step with
    | op free ready done => exact ⟨made, left_of_ok done ▸ gone, settled⟩
  · cases step with
    | opHalts free ready halts => exact ⟨made, left_of_error halts ▸ gone, settled⟩

/-! ## Worlds that differ in one graphic -/

/-- The graphic was made, and so was its manager. -/
structure Sited (g : Nat) (w : World) : Prop where
  made : g < w.graphics.size
  there : (w.graphic g).manager < w.managers.size

/-- All managers are as they were, and so is what other objects add to their usage. -/
structure Still (g : Nat) (w w' : World) : Prop where
  managers : ∀ k, w'.manager k = w.manager k
  others : ∀ o, o ≠ .graphic g → w'.accounted o = w.accounted o

/-- Besides, the graphic stays with its manager and keeps its size. -/
structure Calm (g : Nat) (w w' : World) : Prop extends Still g w w' where
  graphics : w'.graphics.size = w.graphics.size
  count : w'.managers.size = w.managers.size
  owner : (w'.graphic g).manager = (w.graphic g).manager
  size : (w'.graphic g).size = (w.graphic g).size

/-- The running count of a graphic's manager follows the size of the graphic; apart from that all
managers are as they were, and so is what other objects add to their usage. -/
structure Moves (g : Nat) (w w' : World) : Prop where
  graphics : w'.graphics.size = w.graphics.size
  count : w'.managers.size = w.managers.size
  owner : (w'.graphic g).manager = (w.graphic g).manager
  managers : ∀ k, w'.manager k =
    if k = (w.graphic g).manager then
      (w.manager k).setUsed ((w.manager k).used + ((w'.graphic g).size - (w.graphic g).size))
    else w.manager k
  others : ∀ o, o ≠ .graphic g → w'.accounted o = w.accounted o

namespace Still

theorem trans (h : Still g w v) (h' : Still g v w') : Still g w w' :=
  ⟨fun k => (h'.managers k).trans (h.managers k),
    fun o other => (h'.others o other).trans (h.others o other)⟩

/-- Handles, guards and ids change. -/
theorem of_same (managers : w'.managers = w.managers) (graphics : w'.graphics = w.graphics)
    (objects : w'.objects = w.objects) : Still g w w' := by
  refine ⟨fun k => ?_, fun o _ => ?_⟩
  · unfold World.manager
    rw [managers]
  · cases o with
    | graphic h =>
      unfold World.accounted World.profile World.graphic
      rw [graphics]
    | scripted o =>
      unfold World.accounted World.profile World.object
      rw [objects]

/-- Some graphic changes, though not in size. -/
theorem updateGraphic (w : World) (k : Nat) {f : Graphic → Graphic}
    (hf : ∀ x, (f x).size = x.size) : Still g w (w.updateGraphic k f) := by
  refine ⟨fun _ => rfl, fun o _ => ?_⟩
  cases o with
  | graphic h =>
    rw [accounted_graphic, accounted_graphic]
    exact congrArg Int.ofNat (w.updateGraphic_keeps (q := fun x => x.size) k h hf)
  | scripted o => rfl

/-- An operation ends. -/
theorem ends (w : World) (k : Nat) : Still g w (left (Swapping.endOperation k) w) :=
  updateGraphic w k fun _ => rfl

/-- The graphic itself changes. -/
theorem setContent (w : World) (content : Content) : Still g w (w.setContent g content) := by
  refine ⟨fun _ => rfl, fun o other => ?_⟩
  cases o with
  | graphic h =>
    have apart : g ≠ h := by
      rintro rfl
      exact other rfl
    rw [accounted_graphic, accounted_graphic, World.setContent,
      World.graphic_updateGraphic_ne _ _ _ apart]
  | scripted o => rfl

end Still

namespace Calm

theorem refl (w : World) : Calm g w w := ⟨⟨fun _ => rfl, fun _ _ => rfl⟩, rfl, rfl, rfl, rfl⟩

/-- The graphic is used or held. -/
theorem updateGraphic (w : World) (g : Nat) {f : Graphic → Graphic}
    (hf : ∀ x, (f x).size = x.size ∧ (f x).manager = x.manager) : Calm g w (w.updateGraphic g f) :=
  ⟨.updateGraphic w g fun x => (hf x).1, w.size_updateGraphic g f, rfl,
    w.updateGraphic_keeps (q := Graphic.manager) g g fun x => (hf x).2,
    w.updateGraphic_keeps (q := fun x => x.size) g g fun x => (hf x).1⟩

/-- Where the size stays, the count has nothing to follow. -/
theorem moves (h : Calm g w w') : Moves g w w' := by
  refine ⟨h.graphics, h.count, h.owner, fun k => ?_, h.others⟩
  rw [h.managers, h.size, Int.sub_self, Int.add_zero]
  split <;> rfl

end Calm

namespace Moves

theorem sited (h : Moves g w w') (sited : Sited g w) : Sited g w' := by
  refine ⟨h.graphics ▸ sited.made, ?_⟩
  rw [h.owner, h.count]
  exact sited.there

theorem trans (h : Moves g w v) (h' : Moves g v w') : Moves g w w' := by
  refine ⟨h'.graphics.trans h.graphics, h'.count.trans h.count, h'.owner.trans h.owner, fun k => ?_,
    fun o other => (h'.others o other).trans (h.others o other)⟩
  rw [h'.managers, h.managers, h.owner]
  split
  · have total : (w.manager k).used + ((v.graphic g).size - (w.graphic g).size) +
        ((w'.graphic g).size - (v.graphic g).size) =
        (w.manager k).used + (((w'.graphic g).size : Int) - (w.graphic g).size) := by omega
    rw [← total]
    rfl
  · rfl

/-- The graphic changes its content, and its manager's count follows. -/
theorem setContent (sited : Sited g w) {content : Content} {used : Int}
    (follows : used = (w.manager (w.graphic g).manager).used + (content.size - (w.graphic g).size)) :
    Moves g w ((w.setContent g content).updateManager (w.graphic g).manager (·.setUsed used)) := by
  have graphic : (w.setContent g content).graphic g =
      { w.graphic g with toContent := content } := w.graphic_updateGraphic_self g sited.made
  have still := Still.setContent (g := g) w content
  have there : (w.graphic g).manager < (w.setContent g content).managers.size := sited.there
  refine ⟨w.size_updateGraphic g _, World.size_updateManager _ _ _, ?_, fun k => ?_,
    fun o other => ?_⟩
  · rw [World.graphic_updateManager, graphic]
  · rw [World.graphic_updateManager, graphic]
    by_cases own : k = (w.graphic g).manager
    · subst own
      rw [if_pos rfl, World.manager_updateManager_self _ _ there, follows]
      rfl
    · rw [if_neg own, World.manager_updateManager_ne _ _ _ fun h => own h.symm]
      rfl
  · have same : ((w.setContent g content).updateManager (w.graphic g).manager
        (·.setUsed used)).accounted o = (w.setContent g content).accounted o := by
      unfold World.accounted
      rw [World.profile_updateManager]
    exact same.trans (still.others o other)

end Moves

/-! ## Swapping -/

/-- What comes to its end lets the count of the graphic's manager follow the size of the graphic;
what halts leaves all managers alone. -/
def Tracks {α : Type} (g : Nat) (w : World) : EStateM.Result Script.Halt World α → Prop
  | .ok _ w' => Moves g w w'
  | .error _ w' => Still g w w'

namespace Tracks

variable {α β : Type} {x : Effect α} {f : α → Effect β}

theorem after {r : EStateM.Result Script.Halt World α} (h : Tracks g v r) (calm : Calm g w v) :
    Tracks g w r := by
  cases r with
  | ok a w' => exact calm.moves.trans h
  | error e w' => exact calm.toStill.trans h

theorem bind (h : Tracks g w (x v)) (rest : ∀ a u, ∃ b u', f a u = .ok b u' ∧ Calm g u u') :
    Tracks g w ((x >>= f) v) := by
  rw [bind_apply]
  cases done : x v with
  | ok a u =>
    rw [done] at h
    obtain ⟨b, u', ends, calm⟩ := rest a u
    show Tracks g w (f a u)
    rw [ends]
    exact Moves.trans h calm.moves
  | error e u =>
    rw [done] at h
    exact h

theorem ensuring {cleanup : Effect Unit} (h : Tracks g w (x v))
    (cleans : ∀ u, ∃ u', cleanup u = .ok () u' ∧ Calm g u u') :
    Tracks g w (Effect.ensuring x cleanup v) := by
  unfold Effect.ensuring
  cases done : x v with
  | ok a u =>
    rw [done] at h
    obtain ⟨u', cleaned, calm⟩ := cleans u
    dsimp only
    rw [cleaned]
    exact Moves.trans h calm.moves
  | error e u =>
    rw [done] at h
    obtain ⟨u', cleaned, calm⟩ := cleans u
    dsimp only
    rw [cleaned]
    exact Still.trans h calm.toStill

/-- A graphic that is swapped out takes its bytes off the count of its manager, registered or not. -/
theorem swapOut (sited : Sited g w) : Tracks g w (Swapping.swapOut g w) := by
  rcases Swapping.swapOut_cases g w with ⟨r, stays⟩ | ⟨content, freed, -, out, moves⟩
  · rw [stays]
    exact (Calm.refl w).moves
  · obtain ⟨size, size'⟩ := Content.size_swapOut out
    rw [moves]
    refine bind ?_ fun _ u => ⟨_, u, rfl, .refl u⟩
    show Tracks g w (debit (w.graphic g).manager freed (w.setContent g content))
    rw [debit_apply]
    split
    · next used difference =>
      obtain ⟨-, rfl⟩ := Amount.sub_eq_ok.1 difference
      refine Moves.setContent sited ?_
      show (w.manager (w.graphic g).manager).used - (freed : Int) = _
      omega
    · exact Still.setContent w content

/-- One that is swapped in adds them. -/
theorem swapIn (sited : Sited g w) : Tracks g w (Swapping.swapIn g w) := by
  rcases Swapping.swapIn_cases g w with ⟨fault, -, stays⟩ | ⟨-, stays⟩ |
    ⟨content, restored, back, moves⟩
  · rw [stays]
    exact (Calm.refl w).moves
  · rw [stays]
    exact (Calm.refl w).moves
  · obtain ⟨size, size'⟩ := Content.size_restore back
    rw [moves]
    refine bind ?_ fun _ u => ⟨_, u, rfl, .refl u⟩
    show Tracks g w (credit (w.graphic g).manager restored (w.setContent g content))
    rw [credit_apply]
    split
    · next used sum =>
      obtain ⟨-, rfl⟩ := Amount.add_eq_ok.1 sum
      refine Moves.setContent sited ?_
      show (w.manager (w.graphic g).manager).used + (restored : Int) = _
      omega
    · exact Still.setContent w content

theorem fetch (sited : Sited g w) : Tracks g w (Swapping.fetch g w) := by
  have used : Calm g w (w.updateGraphic g fun x => { x with lastUsed := w.now }) :=
    .updateGraphic w g fun _ => ⟨rfl, rfl⟩
  rw [Swapping.fetch_apply]
  refine (bind (swapIn (used.moves.sited sited)) fun r u => ?_).after used
  cases r with
  | error fault => exact ⟨_, u, rfl, .refl u⟩
  | ok b =>
    dsimp only
    rw [get_bind_apply]
    cases (u.graphic g).payload with
    | none => exact ⟨_, u, rfl, .refl u⟩
    | some p => exact ⟨_, u, rfl, .refl u⟩

/-- A reading brings in what it needs, whether it finds a payload or not. -/
theorem peek (sited : Sited g w) : Tracks g w (Swapping.use g pure w) := by
  have begun : Calm g w (left (Swapping.beginOperation g) w) :=
    .updateGraphic w g fun _ => ⟨rfl, rfl⟩
  have fetched := fetch (begun.moves.sited sited)
  unfold Swapping.use
  rw [bind_of_ok (rfl : Swapping.beginOperation g w = .ok () _)]
  refine (ensuring (bind fetched fun r u => ?_) fun u => ?_).after begun
  · cases r with
    | error fault => exact ⟨_, u, rfl, .refl u⟩
    | ok p => exact ⟨_, u, rfl, .refl u⟩
  · exact ⟨_, rfl, .updateGraphic u g fun _ => ⟨rfl, rfl⟩⟩

end Tracks

/-! ## Other uses -/

/-- The operation uses the graphic, or comes and goes with a handle or a guard of it. -/
def Op.Uses (g : Nat) (w : World) : Op → Prop
  | .swapOut h | .swapIn h | .peek h | .replace h _ | .setLastUsed h _ | .beginOperation h _
  | .hold h | .letGo h => h = g
  | .endOperation guard => w.guards.get? guard = some g
  | .bind name handle _ => handle = .graphic g ∧
      (w.handles.get? name = none ∨ w.handles.get? name = some (.graphic g))
  | .drop name => w.handles.get? name = some (.graphic g)
  | _ => False

/-- The operation may swap the graphic in or out. -/
def Op.swaps : Op → Bool
  | .swapOut _ | .swapIn _ | .peek _ => true
  | _ => false

/-- Letting go of a handle finds nothing to unregister. -/
theorem still_release (still : Still g w v)
    (absent : (v.manager (v.graphic g).manager).registry.find? (v.graphic g).id = none) :
    Still g w (left (Handling.release (.graphic g)) v) := by
  rw [left_of_ok (Handling.release_of_absent absent)]
  exact still

/-- Whatever else is done through its handles, a graphic that is not registered leaves its manager
alone. -/
theorem still_effect {o : Op} (uses : o.Uses g w) (stays : o.swaps = false)
    (absent : (w.manager (w.graphic g).manager).registry.find? (w.graphic g).id = none) :
    Still g w (left o.effect w) := by
  cases o with
  | swapOut | swapIn | peek => cases stays
  | replace h p =>
    obtain rfl : h = g := uses
    show Still h w (left (announceResize (w.graphic h).manager (w.graphic h).id (w.graphic h).size)
      (w.setContent h ((w.graphic h).toContent.replace p w.now)))
    have absent : ((w.setContent h ((w.graphic h).toContent.replace p w.now)).manager
        (w.graphic h).manager).registry.find? (w.graphic h).id = none := absent
    unfold announceResize left
    rw [get_bind_apply, absent]
    exact .setContent w _
  | setLastUsed h lastUsed => exact .updateGraphic w h fun _ => rfl
  | beginOperation h guard =>
    have begun : Still g w (left (Swapping.beginOperation h) w) := .updateGraphic w h fun _ => rfl
    generalize hv : left (Swapping.beginOperation h) w = v at begun
    have begins : Swapping.beginOperation h w = .ok () v := hv ▸ rfl
    rw [left_guard, left_beginOperation guard begins]
    have guarded : Still g v { v with guards := v.guards.put guard h } := .of_same rfl rfl rfl
    cases v.guards.get? guard with
    | none => exact begun.trans guarded
    | some old => exact (begun.trans guarded).trans (.ends _ old)
  | endOperation guard =>
    have found : w.guards.get? guard = some g := uses
    have unguarded : Still g w { w with guards := w.guards.erase guard } := .of_same rfl rfl rfl
    rw [left_unguard, left_endOperation, found]
    exact unguarded.trans (.ends _ g)
  | hold h => exact .of_same rfl rfl rfl
  | letGo h =>
    obtain rfl : h = g := uses
    exact still_release (v := { w with held := w.held.erase h }) (.of_same rfl rfl rfl) absent
  | bind name handle i =>
    obtain ⟨rfl, old⟩ := uses
    show Still g w (left (Handling.bind name (.graphic g) i) w)
    unfold left
    rw [Handling.bind_eq]
    rcases old with none | some
    · rw [none]
      exact .of_same rfl rfl rfl
    · rw [some]
      exact still_release (.of_same rfl rfl rfl) absent
  | drop name =>
    have found : w.handles.get? name = some (.graphic g) := uses
    show Still g w (left (Handling.drop name >>= fun _ => pure ()) w)
    rw [left_bind_pure]
    rw [Handling.left_drop, found]
    exact still_release (v := { w with handles := w.handles.erase name }) (.of_same rfl rfl rfl)
      absent
  | _ => exact uses.elim

/-- Where the graphic is swapped, the count follows. -/
theorem tracks_effect {o : Op} (uses : o.Uses g w) (swaps : o.swaps = true) (sited : Sited g w) :
    Tracks g w (o.effect w) := by
  cases o with
  | swapOut h =>
    obtain rfl : h = g := uses
    exact (Tracks.swapOut sited).bind fun _ u => ⟨_, u, rfl, .refl u⟩
  | swapIn h =>
    obtain rfl : h = g := uses
    exact (Tracks.swapIn sited).bind fun _ u => ⟨_, u, rfl, .refl u⟩
  | peek h =>
    obtain rfl : h = g := uses
    exact (Tracks.peek sited).bind fun _ u => ⟨_, u, rfl, .refl u⟩
  | _ => cases swaps

/-! ## Use after unregistering -/

/-- The step uses the graphic: in an operation, halted or not, or where a reading begins or ends. -/
def Uses (g : Nat) (c : State) : Action → Prop
  | .op o | .halt (some o) => o.Uses g c.world
  | .enter h => h = g
  | .leave => c.calls.head? = some (.reading g)
  | _ => False

/-- The step may swap a graphic in or out, and comes to its end. -/
def Action.swaps : Action → Bool
  | .op o => o.swaps
  | .enter _ => true
  | _ => false

/-- A use of a graphic that is not registered moves its manager's count if it swaps, and else leaves
all managers alone. -/
theorem Step.uses (step : Step c a d) (uses : Uses g c a) (sited : Sited g c.world)
    (absent : (c.world.manager (c.world.graphic g).manager).registry.find?
      (c.world.graphic g).id = none) :
    (a.swaps = true → Moves g c.world d.world) ∧ (a.swaps = false → Still g c.world d.world) := by
  cases step with
  | @op s w w' o free ready done =>
    refine ⟨fun swaps => ?_, fun stays => left_of_ok done ▸ still_effect uses stays absent⟩
    have tracks := tracks_effect uses swaps sited
    rw [done] at tracks
    exact tracks
  | @opHalts s w w' o e free ready halts =>
    refine ⟨nofun, fun _ => ?_⟩
    cases swaps : o.swaps with
    | false => exact left_of_error halts ▸ still_effect uses swaps absent
    | true =>
      have tracks := tracks_effect uses swaps sited
      rw [halts] at tracks
      exact tracks
  | @enter s w v w' h p free held begun fetched =>
    obtain rfl : h = g := uses
    refine ⟨fun _ => ?_, nofun⟩
    have begins : Calm h w (left (Swapping.beginOperation h) w) :=
      .updateGraphic w h fun _ => ⟨rfl, rfl⟩
    rw [left_of_ok begun] at begins
    have tracks := Tracks.fetch (begins.moves.sited sited)
    rw [fetched] at tracks
    exact begins.moves.trans tracks
  | leave done => exact ⟨nofun, fun _ => left_of_ok done ▸ .ends _ _⟩
  | _ => exact uses.elim

/-- What a manager's objects add up to does not depend on a graphic that is not registered. -/
theorem literalUsage_of_others {k : Nat} (absent : Absent g w)
    (registry : (w'.manager k).registry = (w.manager k).registry)
    (others : ∀ o, o ≠ .graphic g → w'.accounted o = w.accounted o) :
    literalUsage w' k = literalUsage w k := by
  rw [← contributions_sum, ← contributions_sum]
  refine total_congr registry fun entry listed => others _ ?_
  intro same
  exact absent k entry.1 (same ▸ listed)

/-- After a graphic was unregistered it is never registered again, and no use of it changes a
registry, a counter or the sum that a count is to be. But a use that swaps it still moves the running
count of its manager, by exactly the bytes that came or went. -/
theorem unregistered_graphic_moves_count {environment : Names String}
    (reached : Reached environment acts c)
    (entry : (id, .graphic g) ∈ (c.world.manager m).registry.entries) (step : Step c a c')
    (unregisters : a = .op (.unregister m id) ∨ a = .halt (some (.unregister m id)))
    (later : Path [] c' acts' d) :
    Absent g d.world ∧ ∀ b e, Step d b e → Uses g d b → ∀ k,
      literalUsage e.world k = literalUsage d.world k ∧
      e.world.manager k =
        if b.swaps = true ∧ k = m then
          (d.world.manager k).setUsed ((d.world.manager k).used +
            ((e.world.graphic g).size - (d.world.graphic g).size))
        else d.world.manager k := by
  have orderly := reached.orderly
  obtain ⟨made, -, rfl⟩ : g < c.world.graphics.size ∧ (c.world.graphic g).id = id ∧
      (c.world.graphic g).manager = m := orderly.world.entries entry
  have grows := step.grows.trans later.grows
  have owner : (d.world.graphic g).manager = (c.world.graphic g).manager := (grows.identity g made).2
  have there : (d.world.graphic g).manager < d.world.managers.size := by
    rw [owner]
    exact Nat.lt_of_lt_of_le (there_of_entry entry) grows.managers
  obtain ⟨lost, orderly'⟩ := (orderly.lost entry step unregisters).path (orderly.step step) later
  have absent := orderly'.world.find?_of_absent lost.made lost.absent
  refine ⟨lost.absent, fun b e use uses k => ?_⟩
  obtain ⟨moves, still⟩ := use.uses uses ⟨lost.made, there⟩ absent
  cases swaps : b.swaps with
  | true =>
    have moved := moves swaps
    have manager := moved.managers k
    rw [owner] at manager
    refine ⟨literalUsage_of_others lost.absent ?_ moved.others, ?_⟩
    · rw [manager]
      split <;> rfl
    · simpa using manager
  | false =>
    obtain ⟨managers, others⟩ := still swaps
    refine ⟨literalUsage_of_others lost.absent (congrArg Manager.registry (managers k)) others, ?_⟩
    simpa using managers k

/-- A bitmap of one byte is unregistered and given a payload of two, which goes uncounted; when it is
swapped out, its manager counts two bytes below nothing. -/
theorem unregistered_bitmap_moves_count :
    ∃ acts d e, Reached [] acts d ∧ Step d (.op (.swapOut 0)) e ∧ (d.world.manager 0).used = 0 ∧
      literalUsage e.world 0 = literalUsage d.world 0 ∧
      e.world.manager 0 = (d.world.manager 0).setUsed (-2) := by
  have managed := (reached_start []).next (.op (o := .addManager .builtIn false) rfl trivial rfl)
  have made := managed.next (.make (m := 0) (o := .payload (.bitmap ⟨1, 1, 8, ⟨#[7]⟩⟩))
    rfl (by decide) (by rintro p ⟨⟩; decide) rfl)
  have settled := made.next (.settle rfl)
  have bound := settled.next (.op (o := .bind "picture" (.graphic 0) 1) rfl (.inr (by decide)) rfl)
  have gone := bound.next (.op (o := .unregister 0 1) rfl trivial rfl)
  have replaced := gone.next (.op (o := .replace 0 (.bitmap ⟨2, 1, 8, ⟨#[7, 7]⟩⟩)) rfl
    ⟨rfl, by decide⟩ rfl)
  have uses := (unregistered_graphic_moves_count (g := 0) (m := 0) bound (by decide)
    (.op (o := .unregister 0 1) rfl trivial rfl) (.inl rfl)
    (.one (.op (o := .replace 0 (.bitmap ⟨2, 1, 8, ⟨#[7, 7]⟩⟩)) rfl ⟨rfl, by decide⟩ rfl)
      List.nil_suffix List.nil_suffix)).2
  obtain ⟨sum, moved⟩ := uses _ _ (.op (o := .swapOut 0) rfl rfl rfl) rfl 0
  exact ⟨_, _, _, replaced, .op (o := .swapOut 0) rfl rfl rfl, rfl, sum, moved⟩

/-- With nothing registered, swapping out a bitmap that was unregistered leaves a count of -1. -/
theorem unregistered_bitmap_is_not_inert :
    ∃ acts c d, Reached [] acts c ∧ Step c (.op (.swapOut 0)) d ∧
      (c.world.manager 0).used = 0 ∧ literalUsage c.world 0 = 0 ∧
      (d.world.manager 0).registry.entries = [] ∧ literalUsage d.world 0 = 0 ∧
      (d.world.manager 0).used = -1 := by
  have managed := (reached_start []).next (.op (o := .addManager .builtIn false) rfl trivial rfl)
  have made := managed.next (.make (m := 0) (o := .payload (.bitmap ⟨1, 1, 8, ⟨#[7]⟩⟩))
    rfl (by decide) (by rintro p ⟨⟩; decide) rfl)
  have settled := made.next (.settle rfl)
  have bound := settled.next (.op (o := .bind "picture" (.graphic 0) 1) rfl (.inr (by decide)) rfl)
  have gone := bound.next (.op (o := .unregister 0 1) rfl trivial rfl)
  exact ⟨_, _, _, gone, .op (o := .swapOut 0) rfl rfl rfl, rfl, rfl, rfl, rfl, rfl⟩

end GraphicCache.Run
