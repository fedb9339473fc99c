/-
Sweeps. When the usage of a manager has reached its limit, a sweep walks the objects that were
registered at its start, the smallest id first, and asks those to swap out that may be evicted,
until the usage is below the target. Asking an object may run anything, also registrations and
sweeps of the same manager; one sweep runs at a time, and one that finds another running only
counts itself. How an object is asked is a parameter here.
-/
import GraphicCache.Accounting

namespace GraphicCache.Sweep

open Effect

/-! ## The walk -/

/-- What the walk did with an entry it came to. -/
inductive Visit where
  /-- The id was no longer registered. -/
  | gone (id : Nat)
  /-- The object could not be evicted. -/
  | spared (id : Nat) (decision : Decision)
  /-- The object was asked to swap out, and afterwards it was out or not. -/
  | asked (id : Nat) (swappedOut : Bool)
  deriving DecidableEq, Repr

/-- Whether a visit swapped its object out. -/
def Visit.isEviction : Visit → Bool
  | .asked _ swappedOut => swappedOut
  | _ => false

/-- Walks entries of the registry until the usage is below the target. -/
def walk (ask : ObjectRef → Effect Unit) (m : Nat) (target : Int) :
    List (Nat × ObjectRef) → Effect (List Visit)
  | [] => return []
  | (id, o) :: rest => do
    let w ← get
    if (w.manager m).used < target then
      return []
    else if !(w.manager m).registry.contains id then
      return .gone id :: (← walk ask m target rest)
    else
      match (w.profile o).decide (w.manager m).config w.now with
      | .evict => do
        ask o
        let w ← get
        return .asked id (w.profile o).swappedOut :: (← walk ask m target rest)
      | decision => return .spared id decision :: (← walk ask m target rest)

/-! ## A sweep -/

/-- Ends a sweep: the running count is put right, and the sweep counted. -/
def finish (m evicted : Nat) : Effect Unit := do
  Accounting.reconcile m
  change fun w => w.updateManager m fun x =>
    { x.countSweep evicted w.now with reducing := false }

def complete (ask : ObjectRef → Effect Unit) (m : Nat) : Effect Unit := do
  change (·.updateManager m Manager.beginSweep)
  let w ← get
  let visits ← walk ask m (w.manager m).config.target (w.manager m).registry.entries
  finish m (visits.countP Visit.isEviction)

/-- Runs a sweep if swapping is enabled, the usage has reached the limit and none is running. -/
def attempt (ask : ObjectRef → Effect Unit) (m : Nat) : Effect Unit := do
  let w ← get
  let x := w.manager m
  if !x.config.swapEnabled then return
  else if x.used < x.config.memoryLimit then return
  else if x.reducing then change (·.updateManager m Manager.countSuppressed)
  else complete ask m

/-! ## What brings sweeps about -/

/-- Registers an object under an id that was handed out for it. Above the limit room is made first,
without the new object. -/
def register (ask : ObjectRef → Effect Unit) (m id : Nat) (o : ObjectRef) : Effect Unit := do
  let w ← get
  if (w.manager m).config.memoryLimit < (w.manager m).used then attempt ask m
  Accounting.book m id o

/-- Runs the sweep of a timer, which does not wait while it sweeps. -/
def tick (ask : ObjectRef → Effect Unit) (m : Nat) : Effect Unit := do
  change (·.updateManager m (·.setTimer .sweeping))
  attempt ask m
  change fun w => w.updateManager m (·.rewindTimer w.now)

/-- Runs the sweeps of the timers that are due, each at most once. -/
def tickAll (ask : ObjectRef → Effect Unit) : List Nat → Effect Unit
  | [] => return
  | m :: rest => do
    let w ← get
    if w.isAlive m && (w.manager m).timer.isDue w.now then tick ask m
    tickAll ask rest

/-- Moves the clock forward, and runs what the timers make of it. -/
def advance (ask : ObjectRef → Effect Unit) (span : Span) : Effect Unit := do
  change fun w => { w with now := w.now + span.nanos }
  let w ← get
  tickAll ask (List.range w.managers.size)

end GraphicCache.Sweep
