/-
Everything a script can act on and see: the clock, the storage of swap files, managers, graphics
and scripted objects, and the names of handles, guards, objects and managers. Managers, graphics
and scripted objects are numbered in the order in which they were made and never go away, so a
number always means the same thing; whether one is still in use follows from the names.
-/
import GraphicCache.Graphic
import GraphicCache.Manager
import GraphicCache.Script.Report
import GraphicCache.Script.Step

namespace GraphicCache

/-! ## Names -/

/-- Values under names; a name stands for one value at most. -/
abbrev Names (α : Type) := List (String × α)

namespace Names

def get? {α : Type} (names : Names α) (name : String) : Option α := names.lookup name

/-- The values without the one under a name. -/
def erase {α : Type} (names : Names α) (name : String) : Names α :=
  names.filter fun e => e.1 != name

/-- The values with another one under a name. -/
def put {α : Type} (names : Names α) (name : String) (value : α) : Names α :=
  (name, value) :: names.erase name

end Names

/-! ## Scripted objects and handles -/

/-- An object whose answers and whose swap-out are scripted. -/
structure ScriptedObject where
  name : String
  size : Int
  swappedOut : Bool
  available : Bool
  active : Bool
  refuses : Bool
  lastUsed : Moment
  notice : Script.Notice
  /-- The steps it runs when it is asked to swap out. -/
  hook : List Script.Step
  /-- How often it was asked to swap out. -/
  calls : Nat
  /-- The first handle it was ever registered under. -/
  binding : Option String

/-- The object as its manager sees it. -/
def ScriptedObject.profile (o : ScriptedObject) : Profile where
  size := o.size
  swappedOut := o.swappedOut
  available := o.available
  active := o.active
  lastUsed := o.lastUsed

/-- What keeps an object registered. -/
inductive Handle where
  /-- A handle of a graphic, of which there may be several. -/
  | graphic (graphic : Nat)
  /-- The only handle of a registration. -/
  | registration (manager id : Nat)
  deriving DecidableEq, Repr

/-! ## The world -/

/-- Everything there is. -/
structure World where
  now : Moment
  /-- Whether no swap file can be created. -/
  storageBroken : Bool
  managers : Array Manager
  graphics : Array Graphic
  objects : Array ScriptedObject
  managerNames : Names Nat
  handles : Names Handle
  /-- Graphics with a temporary handle, one entry for each. -/
  held : List Nat
  /-- Graphics that are kept busy, under the names of the guards. -/
  guards : Names Nat
  objectNames : Names Nat
  /-- The ids that handle names stand for, also when the handle is gone. -/
  ids : Names Nat
  globalManager : Option Nat
  environment : Names String
  tracing : Bool
  /-- The swap-outs of scripted objects in the current step, in order. -/
  swapOuts : List Script.SwapOutReport

namespace World

/-- A world at the start of its clock, in which nothing was made yet. -/
def start (environment : Names String) : World where
  now := 0
  storageBroken := false
  managers := #[]
  graphics := #[]
  objects := #[]
  managerNames := []
  handles := []
  held := []
  guards := []
  objectNames := []
  ids := []
  globalManager := none
  environment := environment
  tracing := false
  swapOuts := []

/-! ## Looking things up -/

def manager (w : World) (m : Nat) : Manager := w.managers[m]?.getD (.new .builtIn)

def graphic (w : World) (g : Nat) : Graphic := w.graphics[g]?.getD ⟨.empty 0, 0, 0, 0⟩

def object (w : World) (o : Nat) : ScriptedObject :=
  w.objects[o]?.getD ⟨"", 0, false, false, false, false, 0, .silent, [], 0, none⟩

/-- An object as its manager sees it. -/
def profile (w : World) : ObjectRef → Profile
  | .graphic g => (w.graphic g).profile
  | .scripted o => (w.object o).profile

def accounted (w : World) (o : ObjectRef) : Int := (w.profile o).accounted

/-- The manager that a handle is registered with. -/
def managerOf (w : World) : Handle → Nat
  | .graphic g => (w.graphic g).manager
  | .registration m _ => m

/-- The id under which a handle is registered. -/
def idOf (w : World) : Handle → Nat
  | .graphic g => (w.graphic g).id
  | .registration _ id => id

/-- Whether a graphic has a handle. -/
def isHeld (w : World) (g : Nat) : Bool :=
  w.held.contains g || w.handles.any fun e => e.2 == .graphic g

/-- Whether something keeps a manager: a name, the process, or a handle registered with it. -/
def isAlive (w : World) (m : Nat) : Bool :=
  w.managerNames.any (fun e => e.2 == m) || w.globalManager == some m ||
    w.handles.any (fun e => w.managerOf e.2 == m) ||
    w.held.any (fun g => (w.graphic g).manager == m)

/-! ## Changing things -/

/-- Adds a manager, which takes the next number. -/
def addManager (w : World) (x : Manager) : World := { w with managers := w.managers.push x }

/-- Adds a graphic, which takes the next number. -/
def addGraphic (w : World) (x : Graphic) : World := { w with graphics := w.graphics.push x }

def updateManager (w : World) (m : Nat) (f : Manager → Manager) : World :=
  { w with managers := w.managers.modify m f }

def updateGraphic (w : World) (g : Nat) (f : Graphic → Graphic) : World :=
  { w with graphics := w.graphics.modify g f }

def setContent (w : World) (g : Nat) (c : Content) : World :=
  w.updateGraphic g fun x => { x with toContent := c }

def updateObject (w : World) (o : Nat) (f : ScriptedObject → ScriptedObject) : World :=
  { w with objects := w.objects.modify o f }

/-! ## Seeing things -/

def statistics (w : World) (m : Nat) : Statistics :=
  let x := w.manager m
  { used := x.used
    memoryLimit := x.config.memoryLimit
    registered := x.registry.size
    swappedOut := x.registry.entries.countP fun e => (w.profile e.2).swappedOut
    counters := x.counters }

/-- The statistics of all managers that have a name. -/
def namedStatistics (w : World) : List (String × Statistics) :=
  w.managerNames.map fun e => (e.1, w.statistics e.2)

/-- What is seen of a graphic. -/
def graphicView (w : World) (g : Nat) : Script.GraphicView :=
  let x := w.graphic g
  { id := x.id
    kind := x.kind
    swappedOut := x.swappedOut
    available := x.isAvailable
    size := x.size
    active := 0 < x.operations
    lastUsed := x.lastUsed
    file := x.swapFile?.map (·.written)
    external := x.external }

/-- What is seen of the graphic that a handle name stands for. -/
def viewOf? (w : World) (name : String) : Option Script.GraphicView :=
  match w.handles.get? name with
  | some (.graphic g) => some (w.graphicView g)
  | _ => none

def describe (w : World) : Handle → String
  | .graphic g => (w.graphic g).describe
  | .registration _ id =>
    Text.record "Registration" [Text.field "id" (Text.variant "GraphicId" (toString id))]

/-- What is seen of a scripted object. -/
def objectView (w : World) (o : Nat) : Script.ObjectView :=
  { profile := (w.object o).profile, calls := (w.object o).calls }

end World

end GraphicCache
