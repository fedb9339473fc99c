/-
What giving names and letting go of handles does to a world. A name changes hands before the handle
that had it is let go, and letting go of a handle takes its object out of the registry, unless the
object has another handle or is not registered any more.
-/
import GraphicCache.Handling
import GraphicCache.Proofs.Accounting

namespace GraphicCache.Handling

open Effect

variable {w w' : World} {name : String} {handle : Handle} {id : Nat}

theorem release_graphic (g : Nat) (w : World) :
    release (.graphic g) w =
      if w.isHeld g then .ok () w
      else Accounting.unregister (w.graphic g).manager (w.graphic g).id w := by
  show (get >>= fun w => _ : Effect Unit) w = _
  rw [get_bind_apply]
  split <;> rfl

theorem left_release_graphic (g : Nat) (w : World) :
    left (release (.graphic g)) w =
      if w.isHeld g then w
      else left (Accounting.unregister (w.graphic g).manager (w.graphic g).id) w := by
  unfold left
  rw [release_graphic]
  cases w.isHeld g <;> rfl

/-- Nothing comes of letting go of a handle with an id that is not registered. -/
theorem release_of_absent
    (absent : (w.manager (w.managerOf handle)).registry.find? (w.idOf handle) = none) :
    release handle w = .ok () w := by
  cases handle with
  | graphic g =>
    rw [release_graphic]
    split
    · rfl
    · exact Accounting.unregister_of_absent absent
  | registration m id => exact Accounting.unregister_of_absent absent

theorem bind_eq (name : String) (handle : Handle) (id : Nat) (w : World) :
    bind name handle id w =
      let named := { w with handles := w.handles.put name handle, ids := w.ids.put name id }
      match w.handles.get? name with
      | none => .ok () named
      | some old => release old named := by
  unfold bind
  rw [get_bind_apply, change_bind_apply]
  cases w.handles.get? name <;> rfl

theorem left_bind (name : String) (handle : Handle) (id : Nat) (w : World) :
    left (bind name handle id) w =
      let named := { w with handles := w.handles.put name handle, ids := w.ids.put name id }
      match w.handles.get? name with
      | none => named
      | some old => left (release old) named := by
  unfold left
  rw [bind_eq]
  cases w.handles.get? name <;> rfl

theorem drop_eq (name : String) (w : World) :
    drop name w = match w.handles.get? name with
      | none => .ok false w
      | some old =>
        (release old >>= fun _ => pure true) { w with handles := w.handles.erase name } := by
  unfold drop
  rw [get_bind_apply]
  cases w.handles.get? name <;> rfl

theorem left_drop (name : String) (w : World) :
    left (drop name) w = match w.handles.get? name with
      | none => w
      | some old => left (release old) { w with handles := w.handles.erase name } := by
  unfold left
  rw [drop_eq]
  cases w.handles.get? name with
  | none => rfl
  | some old => exact left_bind_pure (release old) true _

/-- Where a name is taken from a handle the handle was let go. -/
theorem drop_ok {r : Bool} (done : drop name w = .ok r w') :
    (w.handles.get? name = none ∧ w' = w) ∨ ∃ old, w.handles.get? name = some old ∧
      release old { w with handles := w.handles.erase name } = .ok () w' := by
  rw [drop_eq] at done
  cases found : w.handles.get? name with
  | none =>
    rw [found] at done
    cases done
    exact .inl ⟨rfl, rfl⟩
  | some old =>
    rw [found] at done
    obtain ⟨_, v, released, rest⟩ := ok_of_bind done
    cases rest
    exact .inr ⟨old, rfl, released⟩

end GraphicCache.Handling
