/-
The settings of a cache: how many bytes its graphics may occupy, how long a graphic has to lie idle
before it may be swapped out, whether swapping happens at all, how often the timer looks, and where
the values come from. The usage a sweep aims at is seven tenths of the limit, computed as a product
of doubles and cut to a whole number.
-/
import GraphicCache.Binary64
import GraphicCache.Span
import GraphicCache.Text.Json
import GraphicCache.Text.Quoted

namespace GraphicCache

/-- Where the values of a configuration come from. -/
inductive Provenance where
  | builtIn
  | environment (pattern : String)
  | injected
  deriving DecidableEq, Repr

/-- The settings of a cache. -/
structure Config where
  /-- The budget in bytes. -/
  memoryLimit : Int
  /-- How long a graphic stays in memory after its last use. -/
  allowedIdle : Span
  swapEnabled : Bool
  /-- The period of the swap timer. -/
  swapInterval : Span
  provenance : Provenance
  deriving DecidableEq, Repr

namespace Config

def builtIn : Config where
  memoryLimit := 300000000
  allowedIdle := .ofSeconds 10
  swapEnabled := true
  swapInterval := .ofSeconds 10
  provenance := .builtIn

/-- Settings chosen by the program, each built in unless given. -/
def inject (memoryLimit : Option Int) (allowedIdle : Option Span) (swapEnabled : Option Bool)
    (swapInterval : Option Span) : Config where
  memoryLimit := memoryLimit.getD builtIn.memoryLimit
  allowedIdle := allowedIdle.getD builtIn.allowedIdle
  swapEnabled := swapEnabled.getD builtIn.swapEnabled
  swapInterval := swapInterval.getD builtIn.swapInterval
  provenance := .injected

/-! ## The target of a sweep -/

/-- The double nearest to 0.7 is this many `2 ^ 53`-ths. -/
def sevenTenths : Nat := 6305039478318694

/-- The whole part of seven tenths of `n`, as doubles compute it. -/
def targetOf (n : Nat) : Nat :=
  Binary64.nearest (Binary64.nearest n * sevenTenths) >>> 53

/-- The usage a sweep tries to get below; a negative limit has the negated target. -/
def target (c : Config) : Int := c.memoryLimit.sign * targetOf c.memoryLimit.natAbs

example : target { builtIn with memoryLimit := 1000000 } = 700000 := by decide +kernel

/-! ## Descriptions -/

def describeProvenance : Provenance → String
  | .builtIn => "Default"
  | .environment pattern => Text.variant "EnvironmentVariable" (Text.quoted pattern)
  | .injected => "Injected"

def describe (c : Config) : String :=
  Text.record "GraphicCacheConfig" [
    Text.field "memory_limit" (toString c.memoryLimit),
    Text.field "allowed_idle_time" c.allowedIdle.text,
    Text.field "swap_enabled" (Text.truth c.swapEnabled),
    Text.field "swap_interval" c.swapInterval.text,
    Text.field "source" (describeProvenance c.provenance)]

def spanDocument (d : Span) : Text.Json :=
  .object [("secs", .number d.wholeSeconds), ("nanos", .number d.subsecond)]

def provenanceDocument : Provenance → Text.Json
  | .builtIn => .text "Default"
  | .environment pattern => .object [("EnvironmentVariable", .text pattern)]
  | .injected => .text "Injected"

def document (c : Config) : Text.Json :=
  .object [
    ("memory_limit", .number c.memoryLimit),
    ("allowed_idle_time", spanDocument c.allowedIdle),
    ("swap_enabled", .truth c.swapEnabled),
    ("swap_interval", spanDocument c.swapInterval),
    ("source", provenanceDocument c.provenance)]

end Config

end GraphicCache
