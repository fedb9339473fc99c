/-
Keeping account of the bytes in memory. A manager adds to its running count when an object is
registered or swapped in, takes off when one is unregistered or swapped out, and now and then puts
the count right by adding up its objects one by one. A sum that is no amount halts the effect and
leaves the count as it was.
-/
import GraphicCache.Effect

namespace GraphicCache.Accounting

open Effect

/-! ## Making managers -/

/-- Makes a manager, with its timer started if asked for; answers its number. -/
def addManager (config : Config) (timer : Bool) : Effect Nat := do
  let w ← get
  let x := Manager.new config
  let x := if timer then x.startTimer w.now else x
  change (·.addManager x)
  return w.managers.size

/-! ## The running count -/

/-- Adds to the running count of a manager. -/
def credit (m : Nat) (bytes : Int) : Effect Unit := do
  let w ← get
  let used ← ofExcept (Amount.add (w.manager m).used bytes)
  change (·.updateManager m (·.setUsed used))

/-- Takes off the running count of a manager. -/
def debit (m : Nat) (bytes : Int) : Effect Unit := do
  let w ← get
  let used ← ofExcept (Amount.sub (w.manager m).used bytes)
  change (·.updateManager m (·.setUsed used))

/-- What the objects of a manager add to its usage, in the order of their ids. -/
def contributions (w : World) (m : Nat) : List Int :=
  (w.manager m).registry.entries.map fun e => w.accounted e.2

/-- Adds up the objects of a manager and puts its running count right. -/
def reconcile (m : Nat) : Effect Unit := do
  let w ← get
  let calculated ← ofExcept (Amount.sum (contributions w m))
  change (·.updateManager m (·.correct calculated))

/-- The usage of a manager after putting it right. -/
def audit (m : Nat) : Effect Int := do
  reconcile m
  let w ← get
  return (w.manager m).used

/-! ## Notices -/

/-- An object was brought into memory. -/
def announceIn (m : Nat) (size : Int) : Effect Unit := credit m size

/-- An object was taken out of memory. -/
def announceOut (m : Nat) (size : Int) : Effect Unit := debit m size

/-- An object changed its size from `oldSize`; nothing is known of an id that is not registered. -/
def announceResize (m id : Nat) (oldSize : Int) : Effect Unit := do
  let w ← get
  match (w.manager m).registry.find? id with
  | none => return
  | some o => do
    let growth ← ofExcept (Amount.sub (w.profile o).dependableSize oldSize)
    credit m growth

/-! ## Registry -/

/-- Hands out the next id of a manager. -/
def freshId (m : Nat) : Effect Nat := do
  let w ← get
  change (·.updateManager m Manager.takeId)
  return (w.manager m).nextId

def enter (m id : Nat) (o : ObjectRef) : Effect Unit :=
  change (·.updateManager m (·.enter id o))

/-- Books an object: it is accounted and entered, and the running count is put right. -/
def book (m id : Nat) (o : ObjectRef) : Effect Unit := do
  let w ← get
  credit m (w.accounted o)
  enter m id o
  reconcile m

/-- Takes an id out of the registry, and off the running count what its object adds to it. -/
def unregister (m id : Nat) : Effect Unit := do
  let w ← get
  match (w.manager m).registry.find? id with
  | none => return
  | some o => do
    change (·.updateManager m (·.forget id))
    debit m (w.accounted o)

end GraphicCache.Accounting
