/-
A manager by itself: the registry of its objects in the order of their ids, the running count of
the bytes they occupy, the counters of its sweeps, and its swap timer.
-/
import GraphicCache.Amount
import GraphicCache.Config

namespace GraphicCache

/-! ## Registry -/

/-- An object a manager can govern: a graphic, or one whose behaviour is scripted. -/
inductive ObjectRef where
  | graphic (index : Nat)
  | scripted (index : Nat)
  deriving DecidableEq, Repr

/-- Registered objects under their ids, the smallest id first and no id twice. -/
structure Registry where
  entries : List (Nat × ObjectRef)
  ordered : entries.Pairwise fun a b => a.1 < b.1
  deriving DecidableEq

namespace Registry

def empty : Registry := ⟨[], .nil⟩

def size (r : Registry) : Nat := r.entries.length

def find? (r : Registry) (id : Nat) : Option ObjectRef := r.entries.lookup id

def contains (r : Registry) (id : Nat) : Bool := (r.find? id).isSome

/-- Puts an object in the place of its id among entries in order. -/
def place (id : Nat) (o : ObjectRef) : List (Nat × ObjectRef) → List (Nat × ObjectRef)
  | [] => [(id, o)]
  | e :: rest =>
    if id < e.1 then (id, o) :: e :: rest
    else if id = e.1 then (id, o) :: rest
    else e :: place id o rest

theorem mem_place {id : Nat} {o : ObjectRef} {e : Nat × ObjectRef} :
    ∀ {entries : List (Nat × ObjectRef)}, e ∈ place id o entries → e = (id, o) ∨ e ∈ entries
  | [], h => .inl (List.mem_singleton.1 h)
  | f :: rest, h => by
    unfold place at h
    split at h
    · exact List.mem_cons.1 h
    · split at h
      · exact (List.mem_cons.1 h).imp_right (List.mem_cons_of_mem f)
      · rcases List.mem_cons.1 h with rfl | h
        · exact .inr List.mem_cons_self
        · exact (mem_place h).imp_right (List.mem_cons_of_mem f)

/-- Placing an object keeps entries in order. -/
theorem place_ordered (id : Nat) (o : ObjectRef) :
    ∀ {entries : List (Nat × ObjectRef)}, entries.Pairwise (fun a b => a.1 < b.1) →
      (place id o entries).Pairwise fun a b => a.1 < b.1
  | [], _ => List.pairwise_singleton _ _
  | f :: rest, h => by
    obtain ⟨first, others⟩ := List.pairwise_cons.1 h
    unfold place
    split
    · next less =>
      refine List.pairwise_cons.2 ⟨fun b hb => ?_, h⟩
      rcases List.mem_cons.1 hb with rfl | hb
      · exact less
      · exact Nat.lt_trans less (first b hb)
    · next notLess =>
      split
      · next same => exact List.pairwise_cons.2 ⟨fun b hb => same ▸ first b hb, others⟩
      · next other =>
        refine List.pairwise_cons.2 ⟨fun b hb => ?_, place_ordered id o others⟩
        rcases mem_place hb with rfl | hb
        · exact Nat.lt_of_le_of_ne (Nat.le_of_not_lt notLess) (Ne.symm other)
        · exact first b hb

def insert (r : Registry) (id : Nat) (o : ObjectRef) : Registry :=
  ⟨place id o r.entries, place_ordered id o r.ordered⟩

def erase (r : Registry) (id : Nat) : Registry :=
  ⟨r.entries.filter fun e => e.1 != id, r.ordered.filter _⟩

end Registry

/-! ## Counters -/

/-- What a manager counts about its sweeps. -/
structure Counters where
  sweeps : Nat
  evictions : Nat
  /-- How often the running count was put right. -/
  driftCorrections : Nat
  /-- How often a sweep was not begun because one was running. -/
  suppressedReentries : Nat
  lastSweep : Option Moment
  deriving DecidableEq, Repr

def Counters.zero : Counters where
  sweeps := 0
  evictions := 0
  driftCorrections := 0
  suppressedReentries := 0
  lastSweep := none

/-! ## Timer -/

/-- A swap timer waits, runs one sweep, and only then waits again. -/
inductive Timer where
  | stopped
  | waiting (deadline : Moment)
  | sweeping
  deriving DecidableEq, Repr

/-- Whether the timer was started and not stopped. -/
def Timer.isRunning : Timer → Bool
  | .stopped => false
  | _ => true

/-- Whether the timer has waited long enough. -/
def Timer.isDue (now : Moment) : Timer → Bool
  | .waiting deadline => deadline ≤ now
  | _ => false

/-! ## Managers -/

/-- A manager of graphics. -/
structure Manager where
  config : Config
  registry : Registry
  /-- The bytes accounted as being in memory. -/
  used : Int
  /-- Whether a sweep is running. -/
  reducing : Bool
  counters : Counters
  nextId : Nat
  timer : Timer
  deriving DecidableEq

namespace Manager

/-- A manager without objects, its timer stopped. -/
def new (config : Config) : Manager where
  config := config
  registry := .empty
  used := 0
  reducing := false
  counters := .zero
  nextId := 1
  timer := .stopped

def setUsed (m : Manager) (used : Int) : Manager := { m with used := used }

def takeId (m : Manager) : Manager := { m with nextId := m.nextId + 1 }

def enter (m : Manager) (id : Nat) (o : ObjectRef) : Manager :=
  { m with registry := m.registry.insert id o }

def forget (m : Manager) (id : Nat) : Manager := { m with registry := m.registry.erase id }

def setTimer (m : Manager) (timer : Timer) : Manager := { m with timer := timer }

/-- The timer waits for one interval from now. -/
def windTimer (m : Manager) (now : Moment) : Manager :=
  m.setTimer (.waiting (now + m.config.swapInterval.nanos))

/-- Starts the timer, unless swapping is off. -/
def startTimer (m : Manager) (now : Moment) : Manager :=
  if m.config.swapEnabled then m.windTimer now else m

/-- Stops the timer for good. -/
def stopTimer (m : Manager) : Manager := m.setTimer .stopped

/-- The timer waits anew after its sweep, unless it was stopped in between. -/
def rewindTimer (m : Manager) (now : Moment) : Manager :=
  match m.timer with
  | .sweeping => m.windTimer now
  | _ => m

/-- A sweep is running from now on. -/
def beginSweep (m : Manager) : Manager := { m with reducing := true }

/-- Counts a sweep that was not begun. -/
def countSuppressed (m : Manager) : Manager :=
  { m with counters.suppressedReentries := m.counters.suppressedReentries + 1 }

/-- Counts a finished sweep. -/
def countSweep (m : Manager) (evicted : Nat) (now : Moment) : Manager :=
  { m with
    counters.sweeps := m.counters.sweeps + 1
    counters.evictions := m.counters.evictions + evicted
    counters.lastSweep := some now }

/-- Puts the running count right; only a wrong one counts as a correction. -/
def correct (m : Manager) (calculated : Int) : Manager :=
  if calculated = m.used then m
  else { m with
    used := calculated
    counters.driftCorrections := m.counters.driftCorrections + 1 }

def describe (m : Manager) : String :=
  "CacheManager \x7b " ++
    ", ".intercalate [
      Text.field "config" m.config.describe,
      Text.field "used_bytes" (toString m.used),
      ".."] ++
    " \x7d"

end Manager

/-! ## Statistics -/

/-- What a manager shows of itself at one moment. -/
structure Statistics where
  used : Int
  memoryLimit : Int
  registered : Nat
  swappedOut : Nat
  counters : Counters
  deriving DecidableEq, Repr

namespace Statistics

/-- The bits of the usage as a fraction of the limit; without a positive limit it is zero. -/
def utilizationBits (used memoryLimit : Int) : Nat :=
  if memoryLimit ≤ 0 then 0 else Binary64.ratioBits used memoryLimit.toNat

/-- The document of a moment on a clock that was started `epoch` seconds into the Unix era. -/
def momentDocument (epoch : Nat) (t : Moment) : Text.Json :=
  let nanos := epoch * Span.second + t
  .object [
    ("secs_since_epoch", .number (nanos / Span.second)),
    ("nanos_since_epoch", .number (nanos % Span.second))]

def document (epoch : Nat) (s : Statistics) : Text.Json :=
  .object [
    ("used_bytes", .number s.used),
    ("memory_limit", .number s.memoryLimit),
    ("registered", .number s.registered),
    ("swapped_out", .number s.swappedOut),
    ("sweeps", .number s.counters.sweeps),
    ("evictions", .number s.counters.evictions),
    ("drift_corrections", .number s.counters.driftCorrections),
    ("suppressed_reentries", .number s.counters.suppressedReentries),
    ("last_sweep", (s.counters.lastSweep.map (momentDocument epoch)).getD .null)]

end Statistics

end GraphicCache
