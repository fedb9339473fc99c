/-
Newcomers. A graphic is made before it is registered, and in between a sweep may run, and in it
whatever scripted objects do. Nobody gets at the graphic meanwhile: there is no handle of it, no
operation holds it and no registry has it, so no step finds it, and it is booked exactly as it was
made.
-/
import GraphicCache.Proofs.Run.Admission
import GraphicCache.Proofs.Run.Operations
import GraphicCache.Proofs.Run.Sites

namespace GraphicCache.Run

open Effect

variable {environment : Names String} {acts acts' : List Action} {c d : State} {a : Action}
  {w w' : World} {m id g : Nat}

/-! ## Nobody's graphics -/

/-- There is no handle of the graphic. -/
def Unheld (g : Nat) (w : World) : Prop := w.isHeld g = false

theorem unheld_iff : Unheld g w ↔ g ∉ w.held ∧ ∀ name, (name, .graphic g) ∉ w.handles := by
  unfold Unheld
  rw [← Bool.not_eq_true, isHeld_iff]
  simp only [not_or, not_exists]

/-- A handle of another graphic is no handle of this one. -/
theorem Unheld.ne {k : Nat} (h : Unheld g w) (held : w.isHeld k = true) : k ≠ g := by
  rintro rfl
  exact absurd held (Bool.eq_false_iff.1 h)

/-- Handles come about only where a program binds or holds something. -/
theorem stable_unheld (g : Nat) : Stable (Unheld g) where
  manager _ h := h
  content _ h := h
  busy _ h := h
  hands handles held h := by
    obtain ⟨unnamed, named⟩ := unheld_iff.1 h
    exact unheld_iff.2 ⟨fun among => unnamed (held among), fun name among =>
      named name (handles among)⟩
  clock _ h := h

namespace Unheld

/-- What has no handle gets none, unless it was just registered. -/
theorem effect (h : Unheld g w) (absent : Absent g w) {o : Op} (ready : o.Ready w) :
    Unheld g (left o.effect w) := by
  refine (stable_unheld g).effect ready h (fun _ _ _ => h) (fun _ _ _ _ _ => h)
    (fun k is => ?_) (fun name handle id is => ?_) (fun _ _ => h) fun f is => ?_
  · subst is
    obtain ⟨unnamed, named⟩ := unheld_iff.1 h
    refine unheld_iff.2 ⟨fun among => ?_, named⟩
    rcases List.mem_cons.1 among with same | old
    · exact h.ne ready same.symm
    · exact unnamed old
  · subst is
    obtain ⟨unnamed, named⟩ := unheld_iff.1 h
    refine unheld_iff.2 ⟨unnamed, fun other among => ?_⟩
    rcases Names.mem_put among with same | old
    · cases same
      rcases ready with held | entry
      · exact h.ne held rfl
      · exact absent _ _ entry
    · exact named other old
  · subst is
    show World.isHeld (f w) g = false
    unfold World.isHeld
    rw [ready.handles, ready.held]
    exact h

theorem step (h : Unheld g c.world) (absent : Absent g c.world) (step : Step c a d) :
    Unheld g d.world := by
  have st := stable_unheld g
  cases step.conduct with
  | operates done ready world same =>
    rw [world]
    exact h.effect absent ready
  | makes source made same =>
    obtain ⟨-, -, created⟩ := Swapping.create_ok made
    rw [created]
    exact h
  | begins held world more =>
    rw [world]
    exact st.fetch _ (st.beginOperation _ h)
  | ends world fewer =>
    rw [world]
    exact st.endOperation _ h
  | rest keeps same => exact keeps st.everyday (fun h => h) h

end Unheld

/-! ## Waiting -/

/-- The graphic waits to be booked, without a handle and held by no operation. -/
structure Newcomer (m id g : Nat) (c : State) : Prop where
  waits : (m, id, .graphic g) ∈ waiting c.calls
  unheld : Unheld g c.world
  free : (c.world.graphic g).operations = 0

/-- Letting go of a handle is no matter of graphics. -/
theorem graphics_letGo (k : Nat) (w : World) :
    (left (Handling.letGo k) w).graphics = w.graphics := by
  have released : (left (Handling.release (.graphic k)) { w with held := w.held.erase k }).graphics =
      w.graphics := by
    rw [Handling.left_release_graphic]
    split
    · rfl
    · exact Accounting.preserves_unregister (I := fun v => v.graphics = w.graphics)
        (fun _ same => same) _ rfl
  exact released

/-- What waits was made. -/
theorem made_of_waiting (reached : Reached environment acts c)
    (waits : (m, id, .graphic g) ∈ waiting c.calls) : g < c.world.graphics.size :=
  (reached.orderly.owned waits : (skeleton _).Known _ _ _).1

/-- A graphic comes to wait only when it is made. -/
theorem Step.waited (step : Step c a d) (made : g < c.world.graphics.size)
    (waits : (m, id, .graphic g) ∈ waiting d.calls) : (m, id, .graphic g) ∈ waiting c.calls := by
  cases step.movement with
  | keeps quiet same fewer => exact fewer.subset waits
  | operates done ready books same => exact same ▸ waits
  | @makes m' id' g' issues there books next new added =>
    rw [added] at waits
    rcases List.mem_cons.1 waits with same | old
    · cases same
      omega
    · exact old
  | numbers issues there books next added =>
    rw [added] at waits
    rcases List.mem_cons.1 waits with same | old
    · cases same
    · exact old
  | settles settles waited done =>
    rw [waited]
    exact List.mem_cons_of_mem _ waits
  | breaks halts waited world fewer =>
    rw [waited]
    exact List.mem_cons_of_mem _ (fewer.subset waits)

namespace Newcomer

/-- No guard and no reading is of the graphic. -/
theorem unused (h : Newcomer m id g c) (reached : Reached environment acts c) :
    g ∉ c.world.guards.map Prod.snd ∧ g ∉ readings c.calls := by
  have counted := reached.tallied.counted g
  rw [h.free] at counted
  constructor
  · exact List.count_eq_zero.1 (by omega)
  · exact List.count_eq_zero.1 (by omega)

/-- No operation is about the graphic, but to let go of it, which nobody can. -/
theorem effect (h : Newcomer m id g c) (reached : Reached environment acts c) {o : Op}
    (ready : o.Ready c.world) : (left o.effect c.world).graphic g = c.world.graphic g := by
  have made := made_of_waiting reached h.waits
  have guarded {guard : String} {k : Nat} (found : c.world.guards.get? guard = some k) : k ≠ g := by
    rintro rfl
    exact (h.unused reached).1 (List.mem_map_of_mem (Names.mem_of_get? found))
  have confined := confined_effect ready
  cases o with
  | letGo k =>
    have same : (left (Op.letGo k).effect c.world).graphics = c.world.graphics :=
      graphics_letGo k c.world
    unfold World.graphic
    rw [same]
  | swapOut k | swapIn k | peek k | setLastUsed k lastUsed | alterFile k f | hold k =>
    refine confined.graphic g made fun subject => ?_
    exact h.unheld.ne ready (List.mem_singleton.1 subject).symm
  | replace k p =>
    refine confined.graphic g made fun subject => ?_
    exact h.unheld.ne ready.1 (List.mem_singleton.1 subject).symm
  | beginOperation k guard =>
    refine confined.graphic g made fun subject => ?_
    rcases List.mem_cons.1 subject with same | old
    · exact h.unheld.ne ready same.symm
    · exact guarded (Option.mem_toList.1 old) rfl
  | endOperation guard =>
    refine confined.graphic g made fun subject => ?_
    exact guarded (Option.mem_toList.1 subject) rfl
  | _ => exact confined.graphic g made nofun

/-- No sweep asks the graphic, for its id is registered nowhere. -/
theorem unasked (h : Newcomer m id g c) (reached : Reached environment acts c) {n i k : Nat}
    {target : Int} (listed : (n, i, .graphic k) ∈ ahead c.calls)
    (asked : Asked c.world n target i (.graphic k)) : k ≠ g := by
  rintro rfl
  obtain ⟨past, history, -⟩ := reached.history
  obtain ⟨-, rfl, rfl⟩ : (skeleton c.world).Known k n i := history.known_of_ahead listed
  obtain ⟨-, rfl, rfl⟩ : (skeleton c.world).Known k m id := reached.orderly.owned h.waits
  have absent := (reached.free h.waits).2
  have there := asked.2.1
  unfold Registry.contains at there
  rw [absent] at there
  cases there

/-- So no step changes the graphic. -/
theorem kept (h : Newcomer m id g c) (reached : Reached environment acts c) (step : Step c a d) :
    d.world.graphic g = c.world.graphic g := by
  obtain ⟨past, history, -⟩ := reached.history
  have made := made_of_waiting reached h.waits
  have confined := step.confined history.homely
  cases step with
  | op free ready done => exact left_of_ok done ▸ h.effect reached ready
  | opHalts free ready halts => exact left_of_error halts ▸ h.effect reached ready
  | make | copy | enlist | settle | settleHalts | sweep | suppress =>
    exact confined.graphic g made nofun
  | call | answer | answerHalts | skip | askScripted | look => rfl
  | enter free held begun fetched =>
    refine confined.graphic g made fun subject => ?_
    exact h.unheld.ne held (List.mem_singleton.1 subject).symm
  | leave done =>
    refine confined.graphic g made fun subject => ?_
    obtain rfl := List.mem_singleton.1 subject
    exact (h.unused reached).2 List.mem_cons_self
  | ask asked done =>
    refine confined.graphic g made fun subject => ?_
    exact h.unasked reached (List.mem_append_left _ List.mem_cons_self) asked
      (List.mem_singleton.1 subject).symm
  | askHalts asked halts =>
    refine confined.graphic g made fun subject => ?_
    exact h.unasked reached (List.mem_append_left _ List.mem_cons_self) asked
      (List.mem_singleton.1 subject).symm
  | @finish s w w' m target rest n ended done =>
    obtain ⟨total, -, rfl⟩ := Sweep.finish_ok done
    rfl
  | finishHalts ended halts =>
    exact congrArg (World.graphic · g) (Sweep.finish_error halts)

theorem step (h : Newcomer m id g c) (reached : Reached environment acts c) (step : Step c a d)
    (waits : (m, id, .graphic g) ∈ waiting d.calls) : Newcomer m id g d where
  waits := waits
  unheld := h.unheld.step (reached.orderly.absent h.waits) step
  free := by
    rw [h.kept reached step]
    exact h.free

/-- As long as it waits, nothing happens to it. -/
theorem path (h : Newcomer m id g c) (reached : Reached environment acts c) {base : List Call}
    (path : Path base c acts' d) (waits : (m, id, .graphic g) ∈ waiting d.calls) :
    Newcomer m id g d ∧ d.world.graphic g = c.world.graphic g := by
  induction path with
  | refl => exact ⟨h, rfl⟩
  | snoc path step above ih =>
    have made := Nat.lt_of_lt_of_le (made_of_waiting reached h.waits) path.grows.graphics
    obtain ⟨newcomer, same⟩ := ih (step.waited made waits)
    have before : Reached environment _ _ := reached.trans (path.lower List.nil_suffix)
    exact ⟨newcomer.step before step waits, (newcomer.kept before step).trans same⟩

end Newcomer

/-- What was just made is a newcomer. -/
theorem newcomer_create {s : List Call} {content : Content} (orderly : Orderly ⟨s, w⟩)
    (made : Swapping.create m content w = .ok (id, g) w') :
    Newcomer m id g ⟨.entering m id (.graphic g) :: s, w'⟩ := by
  obtain ⟨-, graphic, -⟩ := Swapping.graphic_of_create made
  refine ⟨List.mem_cons_self, ?_, by rw [graphic]⟩
  obtain ⟨-, rfl, rfl⟩ := Swapping.create_ok made
  refine Bool.eq_false_iff.2 fun held => ?_
  exact Nat.lt_irrefl _ (orderly.world.held held)

end GraphicCache.Run
