/-
Which objects a sweep may swap out: large ones, in memory, that no operation holds and that have
lain idle for longer than allowed. Idle time counts whole seconds only.
-/
import GraphicCache.Config

namespace GraphicCache

/-! ## What a manager asks of an object -/

/-- The state of a managed object as its manager sees it. -/
structure Profile where
  /-- The size the object names, which counts only while it is available. -/
  size : Int
  swappedOut : Bool
  available : Bool
  /-- Whether an operation holds the object. -/
  active : Bool
  lastUsed : Moment
  deriving DecidableEq, Repr, Inhabited

namespace Profile

/-- The size a manager relies on. -/
def dependableSize (p : Profile) : Int := if p.available then p.size else 0

/-- What the object adds to the usage. -/
def accounted (p : Profile) : Int := if p.swappedOut then 0 else p.dependableSize

end Profile

/-! ## The decision -/

/-- What a sweep does with an object, and why. -/
inductive Decision where
  | evict
  | alreadySwappedOut
  | tooSmall
  | activeOperation
  | recentlyUsed
  deriving DecidableEq, Repr

def Decision.name : Decision → String
  | .evict => "Evict"
  | .alreadySwappedOut => "AlreadySwappedOut"
  | .tooSmall => "TooSmall"
  | .activeOperation => "ActiveOperation"
  | .recentlyUsed => "RecentlyUsed"

/-- Objects up to this size are never swapped out. -/
def largestKept : Int := 100000

/-- The whole seconds between the last use and now, none if the last use is to come. -/
def Profile.idleSeconds (p : Profile) (now : Moment) : Nat :=
  (Span.elapsed p.lastUsed now).wholeSeconds

def Profile.decide (p : Profile) (config : Config) (now : Moment) : Decision :=
  if p.swappedOut then .alreadySwappedOut
  else if p.dependableSize ≤ largestKept then .tooSmall
  else if p.active then .activeOperation
  else if config.allowedIdle.nanos < (Span.ofSeconds (p.idleSeconds now)).nanos then .evict
  else .recentlyUsed

end GraphicCache
