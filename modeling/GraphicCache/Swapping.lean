/-
Swapping graphics out and in, using what they show, and making and copying them. A graphic tells
its manager about every change of the bytes it has in memory, after the change. While an operation
holds a graphic it is not swapped out.
-/
import GraphicCache.Sweep

namespace GraphicCache.Swapping

open Effect

/-! ## Out and in -/

/-- Swaps a graphic out; answers whether it was there to be swapped out. -/
def swapOut (g : Nat) : Effect (Except Fault Bool) := do
  let w ← get
  let x := w.graphic g
  if 0 < x.operations then return .ok false
  else
    match x.swapOut (!w.storageBroken) with
    | .error fault => return .error fault
    | .ok none => return .ok false
    | .ok (some (content, freed)) => do
      change (·.setContent g content)
      Accounting.announceOut x.manager freed
      return .ok true

/-- Swaps a graphic in; answers whether it was out. -/
def swapIn (g : Nat) : Effect (Except Fault Bool) := do
  let w ← get
  let x := w.graphic g
  match x.restore x.id w.now with
  | .error fault => return .error fault
  | .ok none => return .ok false
  | .ok (some (content, restored)) => do
    change (·.setContent g content)
    Accounting.announceIn x.manager restored
    return .ok true

/-! ## Use -/

def setLastUsed (g : Nat) (at' : Moment) : Effect Unit :=
  change (·.updateGraphic g fun x => { x with lastUsed := at' })

/-- An operation takes hold of a graphic. -/
def beginOperation (g : Nat) : Effect Unit :=
  change (·.updateGraphic g fun x => { x with operations := x.operations + 1 })

/-- An operation lets go of a graphic. -/
def endOperation (g : Nat) : Effect Unit :=
  change (·.updateGraphic g fun x => { x with operations := x.operations - 1 })

/-- The payload of a graphic, which is swapped in for it. -/
def fetch (g : Nat) : Effect (Except Fault Payload) := do
  let w ← get
  setLastUsed g w.now
  match ← swapIn g with
  | .error fault => return .error fault
  | .ok _ => do
    let w ← get
    match (w.graphic g).payload with
    | none => return .error (.notAvailable (w.graphic g).id)
    | some p => return .ok p

/-- Runs `body` on the payload of a graphic, which is swapped in first and held until the end. -/
def use {α : Type} (g : Nat) (body : Payload → Effect α) : Effect (Except Fault α) := do
  beginOperation g
  ensuring
    (do
      match ← fetch g with
      | .error fault => return .error fault
      | .ok p => return .ok (← body p))
    (endOperation g)

def replace (g : Nat) (p : Payload) : Effect Unit := do
  let w ← get
  let x := w.graphic g
  change (·.setContent g (x.toContent.replace p w.now))
  Accounting.announceResize x.manager x.id x.size

/-! ## Making -/

/-- Adds a graphic with the next id of a manager, not registered yet; answers the id and the number
of the graphic. -/
def create (m : Nat) (content : Content) : Effect (Nat × Nat) := do
  let id ← Accounting.freshId m
  let w ← get
  change (·.addGraphic ⟨content, id, m, 0⟩)
  return (id, w.graphics.size)

def make (ask : ObjectRef → Effect Unit) (m : Nat) (content : Content) : Effect Nat := do
  let (id, g) ← create m content
  Sweep.register ask m id (.graphic g)
  return g

/-- Copies a graphic into a manager. The one that is copied stays as it is, in memory or out. -/
def copy (ask : ObjectRef → Effect Unit) (m source : Nat) : Effect (Except Fault Nat) := do
  let w ← get
  match (w.graphic source).duplicate w.now with
  | .error fault => return .error fault
  | .ok content => return .ok (← make ask m content)

end GraphicCache.Swapping
