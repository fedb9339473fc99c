/-
A simulation of memory pressure: some bitmaps of one size are registered, declared idle for a
while, some of them are held busy, and one sweep is run. Time may pass meanwhile, and how much of it
is told beforehand.
-/
import GraphicCache.Script.Perform

namespace GraphicCache

/-- The choices of a simulation. -/
structure Simulation where
  /-- How many bitmaps are registered. -/
  count : Nat
  /-- How many bytes each bitmap has. -/
  size : Nat
  /-- A memory limit in the place of the configured one. -/
  limit : Option Int
  /-- How long ago the bitmaps were last used, in seconds. -/
  idleSeconds : Nat
  /-- How many bitmaps are held busy, the first ones. -/
  active : Nat
  deriving DecidableEq, Repr

namespace Simulation

/-- The clock of a simulation: the time that passes on it, and how far it goes back. -/
structure Clock where
  /-- The span of each number passes before the bitmap of that number is made, and two more spans
  pass before the bitmaps are declared idle and before the sweep. -/
  pauses : Nat → Span
  /-- A moment cannot be set back by more seconds than this; then it stays where it is. -/
  reach : Nat

/-- The simulation without any choice made. -/
def standard : Simulation where
  count := 3
  size := 500000
  limit := none
  idleSeconds := 60
  active := 0

/-- The configuration with the limit of the simulation, if it has one. -/
def configure (s : Simulation) (config : Config) : Config :=
  { config with memoryLimit := s.limit.getD config.memoryLimit }

/-- Whether there is room for a list of the bitmaps, which takes sixteen bytes for each of them; an
amount of bytes is the most that a list may take. -/
def hasRoom (s : Simulation) : Bool := Amount.fits (16 * s.count)

/-- How long the bitmaps are idle. -/
def effectiveIdle (s : Simulation) (clock : Clock) : Span :=
  .ofSeconds (if s.idleSeconds ≤ clock.reach then s.idleSeconds else 0)

/-- A bitmap of one row with a byte for each pixel. -/
def bitmap (s : Simulation) : Payload :=
  .bitmap ⟨UInt32.ofNat s.size, 1, 8, zeros s.size⟩

/-- Lets some time pass. -/
def pass (span : Span) : Effect Unit := Effect.change fun w => { w with now := w.now + span.nanos }

/-- Makes graphics with the same payload, one after the other, the first of them with the number
`first`; the payload is needed only if there are any. -/
def makeAll (pauses : Nat → Span) (m : Nat) (payload : Thunk Payload) (first : Nat) :
    Nat → Effect (List Nat)
  | 0 => return []
  | n + 1 => do
    pass (pauses first)
    let w ← get
    let g ← Swapping.make (Script.ask 0) m (.ofPayload payload.get w.now)
    return g :: (← makeAll pauses m payload (first + 1) n)

/-- Does the same to each of some graphics. -/
def forAll (act : Nat → Effect Unit) : List Nat → Effect Unit
  | [] => return
  | g :: rest => do
    act g
    forAll act rest

/-- Runs the simulation; answers the statistics at its end. -/
def perform (s : Simulation) (config : Config) (clock : Clock) : Effect Statistics := do
  let m ← Accounting.addManager (s.configure config) false
  let graphics ← makeAll clock.pauses m ⟨fun _ => s.bitmap⟩ 0 s.count
  pass (clock.pauses s.count)
  let w ← get
  forAll (fun g => Swapping.setLastUsed g (w.now - (s.effectiveIdle clock).nanos)) graphics
  forAll Swapping.beginOperation (graphics.take s.active)
  pass (clock.pauses (s.count + 1))
  Sweep.attempt (Script.ask 0) m
  return (← get).statistics m

/-- The statistics of a simulation that starts at a moment, unless there is no room for the bitmaps
or the sizes have no sum. -/
def run (s : Simulation) (config : Config) (clock : Clock) (now : Moment) : Option Statistics :=
  if s.hasRoom then
    match s.perform config clock { World.start [] with now := now } with
    | .ok statistics _ => some statistics
    | .error .. => none
  else none

example : hasRoom { standard with count := 576460752303423487 } = true := by decide
example : hasRoom { standard with count := 576460752303423488 } = false := by decide

end Simulation

end GraphicCache
