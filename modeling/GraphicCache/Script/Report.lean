/-
What the steps of a script answer. A report has the reply of its step, the swap-outs of scripted
objects that took place in it, the graphic that the step shows, as it is afterwards, and the
statistics of the managers that have a name. The report of a step that came to a halt has the first
two only.
-/
import GraphicCache.Eviction
import GraphicCache.Fault
import GraphicCache.Manager

namespace GraphicCache.Script

/-- Why a step did not come to its end. -/
inductive Halt where
  | overflow (operation : Overflow)
  /-- Swap-outs of scripted objects are nested too deeply. -/
  | exhausted
  deriving DecidableEq, Repr

/-- What is seen of a graphic. -/
structure GraphicView where
  id : Nat
  kind : Kind
  swappedOut : Bool
  available : Bool
  size : Nat
  active : Bool
  lastUsed : Moment
  /-- How many bytes were written to its swap file. -/
  file : Option Nat
  external : Option String
  deriving DecidableEq

/-- What is seen of a scripted object. -/
structure ObjectView where
  profile : Profile
  /-- How often it was asked to swap out. -/
  calls : Nat
  deriving DecidableEq

mutual

/-- The answer of a step. -/
inductive Reply where
  | nothing
  | unknownName
  | flag (value : Bool)
  | number (value : Int)
  | text (value : String)
  | order (value : Ordering)
  | bytes (data : ByteArray)
  | payload (payload : Payload)
  | config (config : Config)
  | statistics (statistics : Statistics)
  | managerEntry (statistics : Statistics)
  | counts (used : Int) (registered : Nat) (timer : Bool)
  | description (text : String) (id : Nat)
  | object (view : ObjectView)
  /-- The size of the payload that was held, and the reports of the steps in between. -/
  | reading (size : Nat) (steps : List Report)
  | fault (fault : Fault)
  | halted (reason : Overflow)

/-- What is told about a step. -/
inductive Report where
  | mk (reply : Reply) (swapOuts : List SwapOutReport) (graphic : Option GraphicView)
    (managers : Option (List (String × Statistics)))

/-- What is told about a scripted object that was asked to swap out: its name, and the reports of
the steps it ran. -/
inductive SwapOutReport where
  | mk (object : String) (steps : List Report)

end

end GraphicCache.Script
