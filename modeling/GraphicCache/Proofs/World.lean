/-
How a world looks after a change of one of its managers or graphics: the changed one is changed, if
it exists, and everything else looks as before.
-/
import GraphicCache.World
import Mathlib.Data.List.Basic

namespace GraphicCache.World

variable (w : World) (m k g h : Nat)

/-! ## Managers -/

@[simp] theorem size_updateManager (f : Manager → Manager) :
    (w.updateManager m f).managers.size = w.managers.size := by
  simp [updateManager]

theorem manager_updateManager (f : Manager → Manager) :
    (w.updateManager m f).manager k =
      if m = k ∧ k < w.managers.size then f (w.manager k) else w.manager k := by
  unfold manager updateManager
  dsimp only
  rw [Array.getElem?_modify]
  by_cases hm : m = k
  · by_cases hk : k < w.managers.size
    · simp [hm, hk]
    · simp [hm, hk]
  · simp [hm]

theorem manager_updateManager_self {f : Manager → Manager} (hm : m < w.managers.size) :
    (w.updateManager m f).manager m = f (w.manager m) := by
  rw [manager_updateManager, if_pos ⟨rfl, hm⟩]

theorem manager_updateManager_ne {f : Manager → Manager} (hm : m ≠ k) :
    (w.updateManager m f).manager k = w.manager k := by
  rw [manager_updateManager, if_neg fun h => hm h.1]

/-- Two changes of a manager in a row are one change. -/
theorem updateManager_updateManager (f f' : Manager → Manager) :
    (w.updateManager m f).updateManager m f' = w.updateManager m fun x => f' (f x) := by
  unfold updateManager
  congr 1
  refine Array.ext_getElem? fun i => ?_
  simp only [Array.getElem?_modify]
  split
  · rw [Option.map_map]
    rfl
  · rfl

/-- Changes of managers that do not depend on each other can be made in any order. -/
theorem updateManager_comm {f f' : Manager → Manager} (h : ∀ x, f' (f x) = f (f' x)) :
    (w.updateManager m f).updateManager k f' = (w.updateManager k f').updateManager m f := by
  unfold updateManager
  congr 1
  refine Array.ext_getElem? fun i => ?_
  simp only [Array.getElem?_modify]
  cases w.managers[i]? with
  | none => split <;> split <;> rfl
  | some x => split <;> split <;> simp [h]

/-- Changes that make the same of a manager make the same of the world. -/
theorem updateManager_congr {f f' : Manager → Manager} (h : f (w.manager m) = f' (w.manager m)) :
    w.updateManager m f = w.updateManager m f' := by
  unfold updateManager
  congr 1
  refine Array.ext_getElem? fun i => ?_
  rw [Array.getElem?_modify, Array.getElem?_modify]
  split
  · next same =>
    subst same
    unfold manager at h
    cases there : w.managers[m]? with
    | none => rfl
    | some x =>
      rw [there] at h
      exact congrArg some h
  · rfl

/-- A change that leaves the manager as it is leaves the world as it is. -/
theorem updateManager_eq_self {f : Manager → Manager} (h : f (w.manager m) = w.manager m) :
    w.updateManager m f = w := by
  have same : w.updateManager m f = w.updateManager m id := w.updateManager_congr m h
  have managers : w.managers.modify m id = w.managers := by
    refine Array.ext_getElem? fun i => ?_
    rw [Array.getElem?_modify]
    split
    · exact Option.map_id_apply
    · rfl
  rw [same]
  unfold updateManager
  rw [managers]

/-- What the change of a manager keeps looks the same for every manager. -/
theorem updateManager_keeps {γ : Type} {q : Manager → γ} {f : Manager → Manager}
    (hf : ∀ x, q (f x) = q x) : q ((w.updateManager m f).manager k) = q (w.manager k) := by
  rw [manager_updateManager]
  split
  · exact hf _
  · rfl

/-- There is no manager with objects or a count beyond those that were made. -/
theorem manager_of_size_le (hm : w.managers.size ≤ m) : w.manager m = .new .builtIn := by
  unfold manager
  rw [Array.getElem?_eq_none hm]
  rfl

/-- At the start no manager has anything. -/
theorem manager_start (environment : Names String) (m : Nat) :
    (start environment).manager m = .new .builtIn :=
  manager_of_size_le _ m (Nat.zero_le m)

@[simp] theorem size_addManager (x : Manager) :
    (w.addManager x).managers.size = w.managers.size + 1 := by
  simp [addManager]

/-- What was made is there when another manager is added. -/
theorem lt_size_addManager {x : Manager} (hm : m < w.managers.size) :
    m < (w.addManager x).managers.size := by
  rw [size_addManager]
  omega

theorem manager_addManager (x : Manager) :
    (w.addManager x).manager m = if m = w.managers.size then x else w.manager m := by
  unfold manager addManager
  dsimp only
  rw [Array.getElem?_push]
  split <;> rfl

/-- A manager can be added before another one is changed, or after that. -/
theorem addManager_updateManager (x : Manager) {f : Manager → Manager}
    (hm : m < w.managers.size) :
    (w.updateManager m f).addManager x = (w.addManager x).updateManager m f := by
  unfold addManager updateManager
  congr 1
  refine Array.ext_getElem? fun i => ?_
  simp only [Array.getElem?_modify, Array.getElem?_push, Array.size_modify]
  split
  · rw [if_neg (by omega)]
  · rfl

/-- What a new manager shows like one that was never made, all managers show as before. -/
theorem addManager_keeps {γ : Type} {q : Manager → γ} {x : Manager}
    (hx : q x = q (.new .builtIn)) : q ((w.addManager x).manager m) = q (w.manager m) := by
  rw [manager_addManager]
  split
  · next new => rw [hx, w.manager_of_size_le m (Nat.le_of_eq new.symm)]
  · rfl

@[simp] theorem graphic_updateManager (f : Manager → Manager) :
    (w.updateManager m f).graphic g = w.graphic g := rfl

@[simp] theorem profile_updateManager (f : Manager → Manager) (o : ObjectRef) :
    (w.updateManager m f).profile o = w.profile o := by
  cases o <;> rfl

/-! ## Graphics -/

@[simp] theorem size_updateGraphic (f : Graphic → Graphic) :
    (w.updateGraphic g f).graphics.size = w.graphics.size := by
  simp [updateGraphic]

theorem graphic_updateGraphic (f : Graphic → Graphic) :
    (w.updateGraphic g f).graphic h =
      if g = h ∧ h < w.graphics.size then f (w.graphic h) else w.graphic h := by
  unfold graphic updateGraphic
  dsimp only
  rw [Array.getElem?_modify]
  by_cases hg : g = h
  · by_cases hh : h < w.graphics.size
    · simp [hg, hh]
    · simp [hg, hh]
  · simp [hg]

theorem graphic_updateGraphic_self {f : Graphic → Graphic} (hg : g < w.graphics.size) :
    (w.updateGraphic g f).graphic g = f (w.graphic g) := by
  rw [graphic_updateGraphic, if_pos ⟨rfl, hg⟩]

theorem graphic_updateGraphic_ne {f : Graphic → Graphic} (hg : g ≠ h) :
    (w.updateGraphic g f).graphic h = w.graphic h := by
  rw [graphic_updateGraphic, if_neg fun h => hg h.1]

/-- Two changes of a graphic in a row are one change. -/
theorem updateGraphic_updateGraphic (f f' : Graphic → Graphic) :
    (w.updateGraphic g f).updateGraphic g f' = w.updateGraphic g fun x => f' (f x) := by
  unfold updateGraphic
  congr 1
  refine Array.ext_getElem? fun i => ?_
  simp only [Array.getElem?_modify]
  split
  · rw [Option.map_map]
    rfl
  · rfl

/-- A graphic that was never made is empty and has no id. -/
theorem graphic_of_size_le (hg : w.graphics.size ≤ g) : w.graphic g = ⟨.empty 0, 0, 0, 0⟩ := by
  unfold graphic
  rw [Array.getElem?_eq_none hg]
  rfl

/-- What the change of a graphic keeps looks the same for every graphic. -/
theorem updateGraphic_keeps {γ : Type} {q : Graphic → γ} {f : Graphic → Graphic}
    (hf : ∀ x, q (f x) = q x) : q ((w.updateGraphic g f).graphic h) = q (w.graphic h) := by
  rw [graphic_updateGraphic]
  split
  · exact hf _
  · rfl

@[simp] theorem size_addGraphic (x : Graphic) :
    (w.addGraphic x).graphics.size = w.graphics.size + 1 :=
  Array.size_push x

theorem graphic_addGraphic (x : Graphic) :
    (w.addGraphic x).graphic g = if g = w.graphics.size then x else w.graphic g := by
  unfold graphic addGraphic
  dsimp only
  rw [Array.getElem?_push]
  split <;> rfl

@[simp] theorem manager_addGraphic (x : Graphic) : (w.addGraphic x).manager m = w.manager m := rfl

@[simp] theorem manager_updateGraphic (f : Graphic → Graphic) :
    (w.updateGraphic g f).manager m = w.manager m := rfl

/-! ## Scripted objects -/

theorem object_updateObject_ne {o k : Nat} (h : o ≠ k) (f : ScriptedObject → ScriptedObject) :
    (w.updateObject o f).object k = w.object k := by
  unfold object updateObject
  dsimp only
  rw [Array.getElem?_modify, if_neg h]

/-- What scripted objects run stays the same when one of them changes in all but that. -/
theorem hooks_updateObject {P : List Script.Step → Prop} {o : Nat}
    {f : ScriptedObject → ScriptedObject} (same : ∀ x, (f x).hook = x.hook)
    (h : ∀ x ∈ w.objects, P x.hook) : ∀ x ∈ (w.updateObject o f).objects, P x.hook := by
  intro x (hx : x ∈ w.objects.modify o f)
  obtain ⟨i, bound, rfl⟩ := Array.mem_iff_getElem.1 hx
  have old : i < w.objects.size := Nat.lt_of_lt_of_eq bound Array.size_modify
  have before := h _ (Array.getElem_mem old)
  rw [Array.getElem_modify]
  split
  · rwa [same]
  · exact before

/-- What holds of the scripts of all objects holds of the script of any, also of one that was never
made. -/
theorem hook_of_objects {P : List Script.Step → Prop} (nothing : P [])
    (h : ∀ x ∈ w.objects, P x.hook) (o : Nat) : P (w.object o).hook := by
  unfold object
  cases found : w.objects[o]? with
  | none => exact nothing
  | some x => exact h x (Array.mem_of_getElem? found)

end GraphicCache.World
