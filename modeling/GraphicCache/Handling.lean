/-
Handles. A graphic stays registered as long as it has a handle, named or temporary; a registration
of another object has one handle only. Giving a name to something new lets go of the old only after
the new is there.
-/
import GraphicCache.Swapping

namespace GraphicCache.Handling

open Effect

/-- What happens after a handle is gone: its object is unregistered, unless the object is a graphic
with another handle. -/
def release : Handle → Effect Unit
  | .graphic g => do
    let w ← get
    if w.isHeld g then return
    else Accounting.unregister (w.graphic g).manager (w.graphic g).id
  | .registration m id => Accounting.unregister m id

/-- Gives a handle a name, and the name an id. -/
def bind (name : String) (handle : Handle) (id : Nat) : Effect Unit := do
  let w ← get
  change fun w => { w with handles := w.handles.put name handle, ids := w.ids.put name id }
  match w.handles.get? name with
  | none => return
  | some old => release old

/-- Lets go of the handle under a name; answers whether there was one. -/
def drop (name : String) : Effect Bool := do
  let w ← get
  match w.handles.get? name with
  | none => return false
  | some old => do
    change fun w => { w with handles := w.handles.erase name }
    release old
    return true

/-- Lets go of a temporary handle of a graphic. -/
def letGo (g : Nat) : Effect Unit := do
  change fun w => { w with held := w.held.erase g }
  release (.graphic g)

/-- Runs an effect that has a temporary handle of a graphic. -/
def withHandle {α : Type} (g : Nat) (x : Effect α) : Effect α := do
  change fun w => { w with held := g :: w.held }
  ensuring x (letGo g)

end GraphicCache.Handling
