/-
A graphic by itself: its payload while it is in memory, what it can be restored from while it is
not, and how it moves between the two. Each move is a function from a graphic to a graphic; telling
the manager about it is the caller's part.
-/
import GraphicCache.Eviction
import GraphicCache.Fault
import GraphicCache.SwapFile

namespace GraphicCache

/-! ## State -/

/-- What a payload that is out of memory can be restored from. -/
inductive Backing where
  | none
  /-- A link, which stays as it is; swapping out only drops the payload made from it. -/
  | link (link : Link) (page : Option Int32)
  | file (file : SwapFile)
  deriving DecidableEq

/-- What a graphic holds. -/
structure Content where
  kind : Kind
  payload : Option Payload
  backing : Backing
  /-- The address of a graphic that only refers to something outside. -/
  external : Option String
  swappedOut : Bool
  lastUsed : Moment
  deriving DecidableEq

/-- A graphic of a manager. -/
structure Graphic extends Content where
  id : Nat
  manager : Nat
  /-- How many operations hold the graphic busy. -/
  operations : Nat
  deriving DecidableEq

namespace Content

/-! ## Ways to begin -/

/-- Nothing at all. -/
def empty (now : Moment) : Content where
  kind := .empty
  payload := none
  backing := .none
  external := none
  swappedOut := false
  lastUsed := now

/-- A payload in memory. -/
def ofPayload (p : Payload) (now : Moment) : Content :=
  { empty now with kind := p.kind, payload := some p }

/-- A reference to something outside. -/
def ofExternal (url : String) (now : Moment) : Content :=
  { empty now with kind := .externalLink, external := some url }

/-- A link that is materialised on first use. -/
def ofLink (link : Link) (page : Option Int32) (now : Moment) : Content :=
  { empty now with kind := link.kind, backing := .link link page, swappedOut := true }

/-! ## Queries -/

/-- Whether the payload is in memory. -/
def isAvailable (c : Content) : Bool := !c.swappedOut && c.payload.isSome

/-- The bytes in memory. -/
def size (c : Content) : Nat :=
  match c.payload with
  | some p => if c.swappedOut then 0 else p.size
  | none => 0

/-- The swap file behind the content. -/
def swapFile? (c : Content) : Option SwapFile :=
  match c.backing with
  | .file f => some f
  | _ => none

/-! ## Moves -/

/-- Takes the payload out of memory: what is left, and the bytes set free. There is nothing to do
for a content that is out already or has no payload; one without a link needs a new swap file. -/
def swapOut (canStore : Bool) (c : Content) : Except Fault (Option (Content × Nat)) :=
  match c.payload with
  | none => .ok none
  | some p =>
    if c.swappedOut then .ok none
    else match c.backing with
      | .link .. => .ok (some ({ c with payload := none, swappedOut := true }, p.size))
      | _ =>
        if canStore then
          let stored := { c with backing := .file (.write p), payload := none, swappedOut := true }
          .ok (some (stored, p.size))
        else .error .noSwapFile

/-- The payload that a content out of memory comes back with. -/
def recover (id : Nat) (c : Content) : Except Fault Payload :=
  match c.backing with
  | .file f => f.read.mapError Fault.undecodable
  | .link link page => .ok (link.payload page)
  | .none => .error (.notAvailable id)

/-- Brings the payload back into memory: the content with it, and its size. A link stays behind
it, a swap file does not. -/
def restore (id : Nat) (now : Moment) (c : Content) : Except Fault (Option (Content × Nat)) :=
  if c.swappedOut then do
    let p ← c.recover id
    let backing := match c.backing with
      | .file _ => .none
      | b => b
    return some ({ c with
      kind := p.kind, payload := some p, backing := backing, swappedOut := false, lastUsed := now },
      p.size)
  else .ok none

/-- Puts a payload in the place of everything the content held. -/
def replace (p : Payload) (now : Moment) (c : Content) : Content :=
  { c with
    kind := p.kind, payload := some p, backing := .none, external := none, swappedOut := false,
    lastUsed := now }

/-- The content of a copy. A payload is copied in memory, read from the swap file if it has to be;
a link that was not materialised stays one. -/
def duplicate (now : Moment) (c : Content) : Except Fault Content :=
  match c.payload, c.external with
  | some p, _ => .ok (ofPayload p now)
  | none, some url => .ok (ofExternal url now)
  | none, none =>
    match c.backing with
    | .link link page => .ok (ofLink link page now)
    | .file f => do
      let p ← f.read.mapError Fault.undecodable
      return ofPayload p now
    | .none => .ok (empty now)

end Content

namespace Graphic

/-- The graphic as its manager sees it. -/
def profile (g : Graphic) : Profile where
  size := g.size
  swappedOut := g.swappedOut
  available := g.isAvailable
  active := 0 < g.operations
  lastUsed := g.lastUsed

def describe (g : Graphic) : String :=
  Text.record "Graphic" [
    Text.field "id" (Text.variant "GraphicId" (toString g.id)),
    Text.field "kind" g.kind.name,
    Text.field "swapped_out" (Text.truth g.swappedOut),
    Text.field "size_bytes" (toString g.size)]

end Graphic

end GraphicCache
