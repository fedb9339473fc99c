/-
Scripts that exercise managers and graphics. A script is a list of steps on things known by name:
managers, handles of graphics and of registrations, operation guards, and objects whose behaviour
is itself scripted. Two instructions contain steps: a reading runs some while the payload is held,
and a scripted object runs some whenever it is swapped out.
-/
import GraphicCache.Config.Environment
import GraphicCache.Payload.Draft

namespace GraphicCache.Script

/-! ## Instructions without inner steps -/

/-- What to do with a manager. The ids are those that the named handles stood for. -/
inductive ManagerStep where
  | config
  | describe
  | sweep
  | audit
  | statistics
  | counts
  | shutdown
  | unregister (id : String)
  | isRegistered (id : String)
  | announceIn (id : String) (size : Int)
  | announceOut (id : String) (size : Int)
  | announceResize (id : String) (oldSize : Int)

/-- What to do with the manager of the whole process. -/
inductive GlobalStep where
  | initialise (config : Config)
  | get
  | shutdown

/-- How to make a graphic. -/
inductive Maker where
  | payload (draft : Draft)
  | empty
  | external (url : String)
  | link (link : Link) (page : Option Int32)

/-- What to do with a graphic through a handle of it. -/
inductive GraphicStep where
  | swapOut
  | swapIn
  | read
  | size
  | replace (draft : Draft)
  | touch
  | usedBefore (age : Span)
  | usedAfter (delay : Span)
  | beginOperation (guard : String)
  | fileContents
  | fillFile (data : ByteArray)
  | patchFile (offset : Nat) (data : ByteArray)
  | resizeFile (length : Nat)

/-- What a scripted object tells its manager when it is swapped in or out. -/
inductive Notice where
  | silent
  /-- The size it has. -/
  | actual
  | fixed (size : Int)

/-- The first state of a scripted object. -/
structure ObjectDraft where
  size : Int
  swappedOut : Bool
  available : Bool
  active : Bool
  /-- Whether it stays in memory when it is asked to swap out. -/
  refuses : Bool
  notice : Notice
  /-- How long ago it was last used. -/
  age : Span

/-- Changes to the state of a scripted object. -/
structure ObjectChange where
  size : Option Int
  swappedOut : Option Bool
  available : Option Bool
  active : Option Bool
  refuses : Option Bool
  age : Option Span

/-- What to do with a scripted object. -/
inductive ObjectStep where
  | change (change : ObjectChange)
  | state
  | swapIn
  | swapOut

/-! ## Steps -/

mutual

/-- What a step does. -/
inductive Instruction where
  | newManager (name : String) (config : Config) (timer : Bool)
  | dropManager (name : String)
  | onManager (name : String) (step : ManagerStep)
  | onGlobal (step : GlobalStep)
  | startTracing
  | advance (span : Span)
  | breakStorage (broken : Bool)
  | make (handle manager : String) (maker : Maker)
  | copy (handle source manager : String)
  | clone (handle source : String)
  | drop (handle : String)
  | describe (handle : String)
  | managerOf (handle : String)
  | onGraphic (handle : String) (step : GraphicStep)
  | during (handle : String) (steps : List Step)
  | endOperation (guard : String)
  | compareIds (left right : String)
  | newObject (name : String) (draft : ObjectDraft) (hook : List Step)
  | register (handle object manager : String)
  | onObject (name : String) (step : ObjectStep)

/-- One step of a script: the name of the handle whose graphic its report shows, and what the step
does. The handle need not have to do with what is done. -/
inductive Step where
  | mk (shown : String) (instruction : Instruction)

end

end GraphicCache.Script
