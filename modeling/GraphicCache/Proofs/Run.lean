/-
Runs of programs that use managers and graphics. A program may do anything at any time: what it
does next is not determined, neither outside nor inside of a reading or of the swap-out of an object
of its own. A state of a run is the world together with the calls that did not return yet, so a
state in the middle of a sweep or of a reading is as good as any other. Sweeps and registrations
advance from one point where foreign code may run to the next; in between the functions of the
library are run as they are.
-/
import GraphicCache.Script.Perform
import GraphicCache.Proofs.Script.Fits
import GraphicCache.Proofs.World

namespace GraphicCache

/-! ## What is made -/

/-- What a new graphic is made from. -/
inductive Origin where
  | payload (payload : Payload)
  | empty
  | external (url : String)
  | link (link : Link) (page : Option Int32)

namespace Origin

/-- What the new graphic holds. -/
def content (now : Moment) : Origin → Content
  | .payload p => .ofPayload p now
  | .empty => .empty now
  | .external url => .ofExternal url now
  | .link l page => .ofLink l page now

/-- The payload that the graphic is given. -/
def gift : Origin → Option Payload
  | .payload p => some p
  | .empty => none
  | .external _ => none
  | .link l page => some (l.payload page)

end Origin

/-- A film of a hundred thousand bytes, large enough for a sweep. -/
def film : Payload :=
  .animation ⟨List.replicate 317 ⟨317, 1, 8, ⟨Array.replicate 317 0⟩⟩, 1⟩

theorem fits_film : ∀ p, (Origin.payload film).gift = some p → p.Fits := by
  rintro p ⟨⟩
  decide +kernel

/-- The names of managers stand for managers that were made, and the buffers in the scripts of
objects have lengths of 64 bits. -/
structure World.Proper (w : World) : Prop where
  names : ∀ e ∈ w.managerNames, e.2 < w.managers.size
  process : ∀ m, w.globalManager = some m → m < w.managers.size
  hooks : ∀ x ∈ w.objects, Script.Step.AllFit x.hook

theorem World.Proper.hooks_push {w : World} (h : w.Proper) {x : ScriptedObject}
    (fits : Script.Step.AllFit x.hook) : ∀ y ∈ w.objects.push x, Script.Step.AllFit y.hook := by
  intro y hy
  rcases Array.mem_push.1 hy with old | rfl
  · exact h.hooks y old
  · exact fits

theorem proper_start (environment : Names String) : (World.start environment).Proper :=
  ⟨by simp [World.start], by simp [World.start], by simp [World.start]⟩

/-- The worlds differ at most in what is outside of the library: the storage of swap files, the
state of scripted objects, and names. -/
structure World.Rearranged (w w' : World) : Prop where
  now : w'.now = w.now
  managers : w'.managers = w.managers
  graphics : w'.graphics = w.graphics
  handles : w'.handles = w.handles
  held : w'.held = w.held
  guards : w'.guards = w.guards
  proper : w.Proper → w'.Proper

/-- The storage of swap files, tracing and what was reported of swap-outs are outside of the
library. -/
theorem World.rearranged_outside (w : World) (storageBroken tracing : Bool)
    (swapOuts : List Script.SwapOutReport) :
    w.Rearranged { w with storageBroken, tracing, swapOuts } :=
  ⟨rfl, rfl, rfl, rfl, rfl, rfl, fun proper => ⟨proper.names, proper.process, proper.hooks⟩⟩

/-- Objects may change in all but what they do when they are asked to swap out. -/
theorem World.rearranged_updateObject (w : World) (o : Nat) {f : ScriptedObject → ScriptedObject}
    (same : ∀ x, (f x).hook = x.hook) : w.Rearranged (w.updateObject o f) :=
  ⟨rfl, rfl, rfl, rfl, rfl, rfl, fun proper =>
    ⟨proper.names, proper.process, w.hooks_updateObject same proper.hooks⟩⟩

/-- Another object may come with a script that fits, and names of objects may change. -/
theorem World.rearranged_push (w : World) {x : ScriptedObject} (fits : Script.Step.AllFit x.hook)
    (objectNames : Names Nat) :
    w.Rearranged { w with objects := w.objects.push x, objectNames } :=
  ⟨rfl, rfl, rfl, rfl, rfl, rfl, fun proper =>
    ⟨proper.names, proper.process, proper.hooks_push fits⟩⟩

namespace Run

/-! ## Operations -/

/-- What a program does in one go: nothing of its own runs until it is done. -/
inductive Op where
  | swapOut (g : Nat)
  | swapIn (g : Nat)
  /-- A reading in which nothing else happens. -/
  | peek (g : Nat)
  | replace (g : Nat) (p : Payload)
  | setLastUsed (g : Nat) (lastUsed : Moment)
  | beginOperation (g : Nat) (guard : String)
  | endOperation (guard : String)
  /-- The swap file of a graphic is changed from outside. -/
  | alterFile (g : Nat) (f : SwapFile → SwapFile)
  | hold (g : Nat)
  | letGo (g : Nat)
  | bind (name : String) (handle : Handle) (id : Nat)
  | drop (name : String)
  | addManager (config : Config) (timer : Bool)
  | setTimer (m : Nat) (timer : Timer)
  | audit (m : Nat)
  | unregister (m id : Nat)
  | announceIn (m : Nat) (size : Int)
  | announceOut (m : Nat) (size : Int)
  | announceResize (m id : Nat) (oldSize : Int)
  /-- A registered object tells its manager that it was brought into memory, or taken out of it. -/
  | noticeIn (m : Nat) (size : Int)
  | noticeOut (m : Nat) (size : Int)
  | advance (span : Span)
  | arrange (f : World → World)

namespace Op

def effect : Op → Effect Unit
  | .swapOut g => do let _ ← Swapping.swapOut g
  | .swapIn g => do let _ ← Swapping.swapIn g
  | .peek g => do let _ ← Swapping.use g pure
  | .replace g p => Swapping.replace g p
  | .setLastUsed g lastUsed => Swapping.setLastUsed g lastUsed
  | .beginOperation g guard => do let _ ← Script.beginOperation guard g
  | .endOperation guard => do let _ ← Script.endOperation guard
  | .alterFile g f => do let _ ← Script.changeFile g f
  | .hold g => Effect.change fun w => { w with held := g :: w.held }
  | .letGo g => Handling.letGo g
  | .bind name handle id => Handling.bind name handle id
  | .drop name => do let _ ← Handling.drop name
  | .addManager config timer => do let _ ← Accounting.addManager config timer
  | .setTimer m timer => Effect.change (·.updateManager m (·.setTimer timer))
  | .audit m => do let _ ← Accounting.audit m
  | .unregister m id => Accounting.unregister m id
  | .announceIn m size => Accounting.announceIn m size
  | .announceOut m size => Accounting.announceOut m size
  | .announceResize m id oldSize => Accounting.announceResize m id oldSize
  | .noticeIn m size => Accounting.announceIn m size
  | .noticeOut m size => Accounting.announceOut m size
  | .advance span => Effect.change fun w => { w with now := w.now + span.nanos }
  | .arrange f => Effect.change f

/-- When an operation can come. A graphic is reached through a handle of it; a name is given to a
graphic with a handle or to what was just registered. -/
def Ready (w : World) : Op → Prop
  | .swapOut g | .swapIn g | .peek g | .setLastUsed g _ | .beginOperation g _ | .alterFile g _
  | .hold g => w.isHeld g = true
  | .replace g p => w.isHeld g = true ∧ p.Fits
  | .bind _ (.graphic g) _ =>
    w.isHeld g = true ∨
      ((w.graphic g).id, .graphic g) ∈ (w.manager (w.graphic g).manager).registry.entries
  | .bind _ (.registration m id) _ => ∃ o, (id, .scripted o) ∈ (w.manager m).registry.entries
  | .noticeIn m _ | .noticeOut m _ => ∃ name id, (name, .registration m id) ∈ w.handles
  | .arrange f => w.Rearranged (f w)
  | _ => True

end Op

/-! ## States -/

/-- A call that did not return yet. -/
inductive Call where
  /-- The payload of a graphic is in use. -/
  | reading (g : Nat)
  /-- A scripted object was asked to swap out. -/
  | swappingOut (o : Nat)
  /-- An object is to be booked under its id. -/
  | entering (m id : Nat) (o : ObjectRef)
  /-- A sweep, with its target, the entries to come, the object it has asked and not looked at
  again, and the evictions so far. -/
  | sweeping (m : Nat) (target : Int) (rest : List (Nat × ObjectRef)) (asked : Option ObjectRef)
    (evicted : Nat)

/-- Whether a call is at work by itself, and the program waits for it. -/
def Call.isLibrary : Call → Bool
  | .reading _ => false
  | .swappingOut _ => false
  | .entering .. => true
  | .sweeping .. => true

/-- The manager that a call sweeps. -/
def Call.sweeps? : Call → Option Nat
  | .sweeping m .. => some m
  | _ => none

/-- The managers that are swept, one entry for each sweep. -/
def swept (calls : List Call) : List Nat := calls.filterMap Call.sweeps?

/-- Whether the program goes on, rather than the library. -/
def atProgram (calls : List Call) : Bool := calls.head?.all fun c => !c.isLibrary

/-- Where the program goes on after a halt. -/
def home (calls : List Call) : List Call := calls.dropWhile Call.isLibrary

theorem home_suffix_self (s : List Call) : home s <:+ s := List.dropWhile_suffix _

theorem home_suffix (call : Call) (s : List Call) : home s <:+ call :: s :=
  (home_suffix_self s).trans (List.suffix_cons call s)

/-- Where the program is at work, it goes on after a halt. -/
theorem home_of_free {s : List Call} (free : atProgram s = true) : home s = s := by
  cases s with
  | nil => rfl
  | cons call s =>
    have program : call.isLibrary = false := by simpa [atProgram] using free
    unfold home
    rw [List.dropWhile_cons_of_neg (by simp [program])]

/-- A state of a run: the calls that did not return, the innermost first, and the world. -/
structure State where
  calls : List Call
  world : World

/-! ## Steps -/

inductive Action where
  | op (op : Op)
  | make (origin : Origin)
  | copy (source : Nat)
  /-- A scripted object was given an id. -/
  | enlist (o : Nat)
  | settle
  | enter (g : Nat)
  | leave
  | call (o : Nat)
  | answer
  | sweep (m : Nat)
  | suppress (m : Nat)
  | skip
  | ask
  | look
  | finish (m : Nat)
  /-- A halt, in an operation of the program or elsewhere. -/
  | halt (op : Option Op)

/-- A manager whose sweeps are enabled and whose usage has reached the limit. -/
def Due (w : World) (m : Nat) : Prop :=
  (w.manager m).config.swapEnabled = true ∧ (w.manager m).config.memoryLimit ≤ (w.manager m).used

instance decidableDue (w : World) (m : Nat) : Decidable (Due w m) :=
  inferInstanceAs (Decidable (_ ∧ _))

/-- Where a sweep can be brought about: by the program, or by a registration above the limit. -/
def Triggered (calls : List Call) (w : World) (m : Nat) : Prop :=
  atProgram calls = true ∨
    ∃ id o rest, calls = .entering m id o :: rest ∧
      (w.manager m).config.memoryLimit < (w.manager m).used

/-- An entry that a sweep asks at its turn. -/
def Asked (w : World) (m : Nat) (target : Int) (id : Nat) (o : ObjectRef) : Prop :=
  target ≤ (w.manager m).used ∧ (w.manager m).registry.contains id = true ∧
    (w.profile o).decide (w.manager m).config w.now = .evict

/-- An entry that a sweep passes over at its turn. -/
def PassedOver (w : World) (m : Nat) (target : Int) (id : Nat) (o : ObjectRef) : Prop :=
  target ≤ (w.manager m).used ∧ ((w.manager m).registry.contains id = false ∨
    (w.profile o).decide (w.manager m).config w.now ≠ .evict)

inductive Step : State → Action → State → Prop where
  /-- The program runs an operation. -/
  | op {s w w' o} (free : atProgram s = true) (ready : o.Ready w) (done : o.effect w = .ok () w') :
      Step ⟨s, w⟩ (.op o) ⟨s, w'⟩
  | opHalts {s w w' o e} (free : atProgram s = true) (ready : o.Ready w)
      (halts : o.effect w = .error e w') : Step ⟨s, w⟩ (.halt (some o)) ⟨s, w'⟩
  /-- The program has a graphic made, which is to be registered. -/
  | make {s w w' m id g} {o : Origin} (free : atProgram s = true) (there : m < w.managers.size)
      (fits : ∀ p, o.gift = some p → p.Fits)
      (made : Swapping.create m (o.content w.now) w = .ok (id, g) w') :
      Step ⟨s, w⟩ (.make o) ⟨.entering m id (.graphic g) :: s, w'⟩
  | copy {s w w' m source content id g} (free : atProgram s = true) (there : m < w.managers.size)
      (held : w.isHeld source = true)
      (duplicated : (w.graphic source).duplicate w.now = .ok content)
      (made : Swapping.create m content w = .ok (id, g) w') :
      Step ⟨s, w⟩ (.copy source) ⟨.entering m id (.graphic g) :: s, w'⟩
  | enlist {s w w' m id o} (free : atProgram s = true) (there : m < w.managers.size)
      (fresh : Accounting.freshId m w = .ok id w') :
      Step ⟨s, w⟩ (.enlist o) ⟨.entering m id (.scripted o) :: s, w'⟩
  | settle {s w w' m id o} (done : Accounting.book m id o w = .ok () w') :
      Step ⟨.entering m id o :: s, w⟩ .settle ⟨s, w'⟩
  | settleHalts {s w w' m id o e} (halts : Accounting.book m id o w = .error e w') :
      Step ⟨.entering m id o :: s, w⟩ (.halt none) ⟨home s, w'⟩
  /-- The program gets hold of a payload. -/
  | enter {s w v w' g p} (free : atProgram s = true) (held : w.isHeld g = true)
      (begun : Swapping.beginOperation g w = .ok () v)
      (fetched : Swapping.fetch g v = .ok (.ok p) w') :
      Step ⟨s, w⟩ (.enter g) ⟨.reading g :: s, w'⟩
  | leave {s w w' g} (done : Swapping.endOperation g w = .ok () w') :
      Step ⟨.reading g :: s, w⟩ .leave ⟨s, w'⟩
  /-- The program asks an object of its own to swap out. -/
  | call {s w o} (free : atProgram s = true) : Step ⟨s, w⟩ (.call o) ⟨.swappingOut o :: s, w⟩
  | answer {s w o} : Step ⟨.swappingOut o :: s, w⟩ .answer ⟨s, w⟩
  | answerHalts {s w o} : Step ⟨.swappingOut o :: s, w⟩ (.halt none) ⟨home s, w⟩
  | sweep {s w m} (triggered : Triggered s w m) (due : Due w m)
      (idle : (w.manager m).reducing = false) :
      Step ⟨s, w⟩ (.sweep m)
        ⟨.sweeping m (w.manager m).config.target (w.manager m).registry.entries none 0 :: s,
          w.updateManager m Manager.beginSweep⟩
  | suppress {s w m} (triggered : Triggered s w m) (due : Due w m)
      (busy : (w.manager m).reducing = true) :
      Step ⟨s, w⟩ (.suppress m) ⟨s, w.updateManager m Manager.countSuppressed⟩
  | skip {s w m target id o rest n} (passed : PassedOver w m target id o) :
      Step ⟨.sweeping m target ((id, o) :: rest) none n :: s, w⟩ .skip
        ⟨.sweeping m target rest none n :: s, w⟩
  | ask {s w w' m target id g rest n r} (asked : Asked w m target id (.graphic g))
      (done : Swapping.swapOut g w = .ok r w') :
      Step ⟨.sweeping m target ((id, .graphic g) :: rest) none n :: s, w⟩ .ask
        ⟨.sweeping m target rest (some (.graphic g)) n :: s, w'⟩
  | askHalts {s w w' m target id g rest n e} (asked : Asked w m target id (.graphic g))
      (halts : Swapping.swapOut g w = .error e w') :
      Step ⟨.sweeping m target ((id, .graphic g) :: rest) none n :: s, w⟩ (.halt none) ⟨home s, w'⟩
  | askScripted {s w m target id o rest n} (asked : Asked w m target id (.scripted o)) :
      Step ⟨.sweeping m target ((id, .scripted o) :: rest) none n :: s, w⟩ .ask
        ⟨.swappingOut o :: .sweeping m target rest (some (.scripted o)) n :: s, w⟩
  | look {s w m target rest o n} :
      Step ⟨.sweeping m target rest (some o) n :: s, w⟩ .look
        ⟨.sweeping m target rest none (n + (w.profile o).swappedOut.toNat) :: s, w⟩
  | finish {s w w' m target rest n} (ended : rest = [] ∨ (w.manager m).used < target)
      (done : Sweep.finish m n w = .ok () w') :
      Step ⟨.sweeping m target rest none n :: s, w⟩ (.finish m) ⟨s, w'⟩
  | finishHalts {s w w' m target rest n e} (ended : rest = [] ∨ (w.manager m).used < target)
      (halts : Sweep.finish m n w = .error e w') :
      Step ⟨.sweeping m target rest none n :: s, w⟩ (.halt none) ⟨home s, w'⟩

/-! ## Runs -/

/-- Steps one after the other, in which the calls of `base` do not return. -/
inductive Path (base : List Call) : State → List Action → State → Prop where
  | refl {c} (above : base <:+ c.calls) : Path base c [] c
  | snoc {c d e acts a} (path : Path base c acts d) (step : Step d a e) (above : base <:+ e.calls) :
      Path base c (acts ++ [a]) e

/-- The state is reached by a run of a program that starts with nothing. -/
def Reached (environment : Names String) (acts : List Action) (c : State) : Prop :=
  Path [] ⟨[], .start environment⟩ acts c

theorem reached_start (environment : Names String) :
    Reached environment [] ⟨[], .start environment⟩ := .refl List.nil_suffix

theorem Reached.next {environment : Names String} {acts : List Action} {a : Action} {c d : State}
    (reached : Reached environment acts c) (step : Step c a d) :
    Reached environment (acts ++ [a]) d := .snoc reached step List.nil_suffix

/-- A way of asking objects to swap out: a graphic does so if it can, and what a scripted object
does before it returns is a run above its call. -/
structure Lawful (ask : ObjectRef → Effect Unit) : Prop where
  graphic : ∀ g, ask (.graphic g) = do let _ ← Swapping.swapOut g
  scripted : ∀ {o s w w'}, w.Proper → ask (.scripted o) w = .ok () w' →
    ∃ acts, Path (.swappingOut o :: s) ⟨.swappingOut o :: s, w⟩ acts ⟨.swappingOut o :: s, w'⟩

namespace Path

variable {base : List Call} {c d e : State} {acts acts' : List Action}

/-- What every step keeps, every run keeps. -/
theorem invariant {P : State → Prop} {ok : Action → Prop} (path : Path base c acts d)
    (oks : ∀ a ∈ acts, ok a) (start : P c)
    (step : ∀ {c a d}, P c → ok a → Step c a d → P d) : P d := by
  induction path with
  | refl => exact start
  | snoc path last above ih =>
    have before := ih fun a ha => oks a (List.mem_append_left _ ha)
    exact step before (oks _ (by simp)) last

theorem one {a : Action} (step : Step c a d) (above : base <:+ c.calls)
    (above' : base <:+ d.calls) : Path base c [a] d :=
  .snoc (.refl above) step above'

theorem trans (first : Path base c acts d) (second : Path base d acts' e) :
    Path base c (acts ++ acts') e := by
  induction second with
  | refl => rwa [List.append_nil]
  | snoc path step above ih =>
    rw [← List.append_assoc]
    exact .snoc ih step above

/-- A run above some calls is one above fewer of them. -/
theorem lower {base' : List Call} (h : base' <:+ base) (path : Path base c acts d) :
    Path base' c acts d := by
  induction path with
  | refl above => exact .refl (h.trans above)
  | snoc path step above ih => exact .snoc ih step (h.trans above)

theorem above (path : Path base c acts d) : base <:+ d.calls := by
  cases path with
  | refl above => exact above
  | snoc path step above => exact above

end Path

/-- What holds at the start and is kept by every step holds in every run. -/
theorem Reached.invariant {environment : Names String} {acts : List Action} {c : State}
    {P : State → Prop} (reached : Reached environment acts c)
    (start : P ⟨[], .start environment⟩) (step : ∀ {c a d}, P c → Step c a d → P d) : P c :=
  Path.invariant reached (fun _ _ => trivial) start fun h (_ : True) taken => step h taken

end Run

end GraphicCache
