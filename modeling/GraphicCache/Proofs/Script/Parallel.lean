/-
Scripts in two worlds at once. Whatever a script does, in hooks of scripted objects and inside of
readings too, takes along every relation of worlds that is closed under the single changes that a
script makes. Where the two worlds are not the same, the clock must stand still: timers that ring at
other times would make a difference.
-/
import GraphicCache.Proofs.Parallel
import GraphicCache.Script.Perform

namespace GraphicCache

open Effect

/-! ## Scripts and the clock -/

namespace Script

mutual

/-- The instruction moves the clock only if `clock` says so, and neither do the steps that it
contains. -/
def Instruction.Paced (clock : Prop) : Instruction → Prop
  | .advance _ => clock
  | .during _ steps => Step.AllPaced clock steps
  | .newObject _ _ hook => Step.AllPaced clock hook
  | _ => True

/-- All steps move the clock only if `clock` says so. -/
def Step.AllPaced (clock : Prop) : List Step → Prop
  | [] => True
  | .mk _ instruction :: rest => instruction.Paced clock ∧ Step.AllPaced clock rest

end

mutual

/-- With the clock free to move any instruction will do. -/
theorem Instruction.paced_of_free {clock : Prop} (free : clock) (instruction : Instruction) :
    instruction.Paced clock := by
  cases instruction with
  | advance span => exact free
  | during handle steps => exact Step.allPaced_of_free free steps
  | newObject name draft hook => exact Step.allPaced_of_free free hook
  | _ => exact trivial

theorem Step.allPaced_of_free {clock : Prop} (free : clock) (steps : List Step) :
    Step.AllPaced clock steps := by
  match steps with
  | [] => exact trivial
  | .mk shown instruction :: rest =>
    exact ⟨instruction.paced_of_free free, Step.allPaced_of_free free rest⟩

end

end Script

/-- No scripted object moves the clock when it is asked to swap out, unless `clock` says so. -/
def World.Paced (clock : Prop) (w : World) : Prop :=
  ∀ x ∈ w.objects, Script.Step.AllPaced clock x.hook

/-- With the clock free to move objects may do anything. -/
theorem World.paced_of_free {clock : Prop} (free : clock) (w : World) : w.Paced clock :=
  fun x _ => Script.Step.allPaced_of_free free x.hook

/-- At the start there are no objects. -/
theorem World.paced_start (clock : Prop) (environment : Names String) :
    (World.start environment).Paced clock :=
  fun x hx => absurd hx (Array.not_mem_empty x)

/-! ## What worlds show -/

namespace World

variable {w v : World}

theorem alive_of_name {e : String × Nat} (h : e ∈ w.managerNames) : w.isAlive e.2 = true := by
  unfold isAlive
  have kept : w.managerNames.any (fun e' => e'.2 == e.2) = true :=
    List.any_eq_true.2 ⟨e, h, beq_self_eq_true _⟩
  simp [kept]

theorem alive_of_process {m : Nat} (h : w.globalManager = some m) : w.isAlive m = true := by
  unfold isAlive
  simp [h]

namespace Alike

theorem statistics (h : Alike w v) (m : Nat) : v.statistics m = w.statistics m := by
  have counters : (v.manager m).counters = (w.manager m).counters := h.keeps (fun _ _ => rfl) m
  unfold World.statistics
  simp only [h.used, h.config, h.registry, h.profile, counters]

theorem managerNames (h : Alike w v) : v.managerNames = w.managerNames :=
  h.same (q := World.managerNames) fun _ => rfl

theorem namedStatistics (h : Alike w v) : v.namedStatistics = w.namedStatistics := by
  unfold World.namedStatistics
  rw [h.managerNames]
  simp only [h.statistics]

theorem describe (h : Alike w v) (handle : Handle) : v.describe handle = w.describe handle :=
  h.same (q := fun u => u.describe handle) fun _ => by cases handle <;> rfl

theorem idOf (h : Alike w v) (handle : Handle) : v.idOf handle = w.idOf handle :=
  h.same (q := fun u => u.idOf handle) fun _ => by cases handle <;> rfl

theorem managerOf (h : Alike w v) (handle : Handle) : v.managerOf handle = w.managerOf handle :=
  h.same (q := fun u => u.managerOf handle) fun _ => by cases handle <;> rfl

theorem viewOf? (h : Alike w v) (name : String) : v.viewOf? name = w.viewOf? name :=
  h.same (q := fun u => u.viewOf? name) fun _ => rfl

theorem globalManager (h : Alike w v) : v.globalManager = w.globalManager :=
  h.same (q := World.globalManager) fun _ => rfl

theorem environment (h : Alike w v) : v.environment = w.environment :=
  h.same (q := World.environment) fun _ => rfl

theorem objects (h : Alike w v) : v.objects = w.objects :=
  h.same (q := World.objects) fun _ => rfl

theorem objectNames (h : Alike w v) : v.objectNames = w.objectNames :=
  h.same (q := World.objectNames) fun _ => rfl

theorem namedGuards (h : Alike w v) : v.guards = w.guards :=
  h.same (q := World.guards) fun _ => rfl

theorem tracing (h : Alike w v) : v.tracing = w.tracing :=
  h.same (q := World.tracing) fun _ => rfl

theorem swapOuts (h : Alike w v) : v.swapOuts = w.swapOuts :=
  h.same (q := World.swapOuts) fun _ => rfl

end Alike

end World

/-! ## What scripts are made up of -/

/-- A relation of worlds is closed under the single changes that scripts make. If the clock may move,
the two worlds are one. -/
structure Scripted (clock : Prop) (A : Nat → Prop) (R : World → World → Prop) : Prop
    extends Library A R where
  paced : ∀ {w v}, R w v → w.Paced clock
  fresh : ∀ {w v}, R w v → A w.managers.size
  adds : ∀ {w v} {config : Config} {timer : Bool}, R w v →
    let x := if timer then (Manager.new config).startTimer w.now else Manager.new config
    R (w.addManager x) (v.addManager x)
  stops : ∀ {w v m}, R w v →
    R (w.updateManager m Manager.stopTimer) (v.updateManager m Manager.stopTimer)
  names : ∀ {w v} {names : Names Nat}, (∀ e ∈ names, A e.2) → R w v →
    R { w with managerNames := names } { v with managerNames := names }
  process : ∀ {w v m}, A m → w.globalManager = none → R w v →
    R { w with globalManager := some m } { v with globalManager := some m }
  objects : ∀ {w v} {objects : Array ScriptedObject} {objectNames : Names Nat},
    (∀ x ∈ objects, Script.Step.AllPaced clock x.hook) → R w v →
      R { w with objects := objects, objectNames := objectNames }
        { v with objects := objects, objectNames := objectNames }
  outside : ∀ {w v} {storageBroken tracing : Bool} {swapOuts : List Script.SwapOutReport}, R w v →
    R { w with storageBroken, tracing, swapOuts } { v with storageBroken, tracing, swapOuts }
  single : ∀ {w v}, clock → R w v → w = v
  forward : ∀ {w now}, clock → w.now ≤ now → R w w →
    R { w with now := now } { w with now := now }
  rings : ∀ {w m}, clock → (w.manager m).timer.isDue w.now = true → R w w →
    R (w.updateManager m (·.setTimer .sweeping)) (w.updateManager m (·.setTimer .sweeping))
  rewinds : ∀ {w m}, clock → R w w →
    R (w.updateManager m (·.rewindTimer w.now)) (w.updateManager m (·.rewindTimer w.now))

/-- What is said of a single world is closed under these changes. -/
structure ScriptInvariant (clock : Prop) (A : Nat → Prop) (I : World → Prop) : Prop
    extends LibraryInvariant A I where
  paced : ∀ {w}, I w → w.Paced clock
  fresh : ∀ {w}, I w → A w.managers.size
  adds : ∀ {w} {config : Config} {timer : Bool}, I w →
    I (w.addManager (if timer then (Manager.new config).startTimer w.now else Manager.new config))
  stops : ∀ {w m}, I w → I (w.updateManager m Manager.stopTimer)
  names : ∀ {w} {names : Names Nat}, (∀ e ∈ names, A e.2) → I w → I { w with managerNames := names }
  process : ∀ {w m}, A m → w.globalManager = none → I w → I { w with globalManager := some m }
  objects : ∀ {w} {objects : Array ScriptedObject} {objectNames : Names Nat},
    (∀ x ∈ objects, Script.Step.AllPaced clock x.hook) → I w →
      I { w with objects := objects, objectNames := objectNames }
  outside : ∀ {w} {storageBroken tracing : Bool} {swapOuts : List Script.SwapOutReport}, I w →
    I { w with storageBroken, tracing, swapOuts }
  forward : ∀ {w now}, clock → w.now ≤ now → I w → I { w with now := now }
  rings : ∀ {w m}, clock → (w.manager m).timer.isDue w.now = true → I w →
    I (w.updateManager m (·.setTimer .sweeping))
  rewinds : ∀ {w m}, clock → I w → I (w.updateManager m (·.rewindTimer w.now))

/-- Then it is a relation of a world to itself that scripts take along. -/
theorem ScriptInvariant.scripted {clock : Prop} {A : Nat → Prop} {I : World → Prop}
    (inv : ScriptInvariant clock A I) : Scripted clock A fun w v => v = w ∧ I w where
  toLibrary := inv.library
  paced h := inv.paced h.2
  fresh h := inv.fresh h.2
  adds := by
    rintro _ _ _ _ ⟨rfl, h⟩
    exact ⟨rfl, inv.adds h⟩
  stops := by
    rintro _ _ _ ⟨rfl, h⟩
    exact ⟨rfl, inv.stops h⟩
  names admitted := by
    rintro ⟨rfl, h⟩
    exact ⟨rfl, inv.names admitted h⟩
  process admitted vacant := by
    rintro ⟨rfl, h⟩
    exact ⟨rfl, inv.process admitted vacant h⟩
  objects paced := by
    rintro ⟨rfl, h⟩
    exact ⟨rfl, inv.objects paced h⟩
  outside := by
    rintro _ _ _ _ _ ⟨rfl, h⟩
    exact ⟨rfl, inv.outside h⟩
  single _ h := h.1.symm
  forward moves later h := ⟨rfl, inv.forward moves later h.2⟩
  rings moves due h := ⟨rfl, inv.rings moves due h.2⟩
  rewinds moves h := ⟨rfl, inv.rewinds moves h.2⟩

/-- A way of asking objects to swap out takes along whatever scripts do. -/
def Takes (clock : Prop) (ask : ObjectRef → Effect Unit) : Prop :=
  ∀ {A R}, Scripted clock A R → ∀ o w v, R w v → Agrees R (ask o) w v

namespace Script

/-- What is done with a name is done in both worlds. -/
theorem agrees_withName {α : Type} {R : World → World → Prop} {w v : World} {name : String}
    {names : World → Names α} {body : α → Effect Reply} (same : names v = names w)
    (h : ∀ value, (names w).get? name = some value → Agrees R (body value) w v) (related : R w v) :
    Agrees R (withName names name body) w v := by
  refine agrees_get (by simp only [same]) ?_
  split
  · exact agrees_pure related _
  · next value found => exact h value found

variable {shown : String} {x : Effect Reply} {w w' : World}

theorem reporting_of_ok {reply : Reply} (h : x { w with swapOuts := [] } = .ok reply w') :
    reporting shown x w =
      .ok (.mk reply w'.swapOuts (w'.viewOf? shown) (some w'.namedStatistics), true)
        { w' with swapOuts := w.swapOuts } := by
  unfold reporting
  rw [h]

theorem reporting_of_overflow {e : Overflow}
    (h : x { w with swapOuts := [] } = .error (.overflow e) w') :
    reporting shown x w =
      .ok (.mk (.halted e) w'.swapOuts none none, false) { w' with swapOuts := w.swapOuts } := by
  unfold reporting
  rw [h]

theorem reporting_of_exhausted (h : x { w with swapOuts := [] } = .error .exhausted w') :
    reporting shown x w = .error .exhausted w' := by
  unfold reporting
  rw [h]

end Script

namespace Library

open Script

variable {A : Nat → Prop} {R : World → World → Prop} (lib : Library A R) {w v : World} {g : Nat}

include lib

/-! ## Files and guards -/

theorem withFile {body : SwapFile → Effect Reply} (related : R w v)
    (h : ∀ file, Agrees R (body file) w v) : Agrees R (Script.withFile g body) w v := by
  refine agrees_get (by simp only [(lib.alike related).graphic]) ?_
  split
  · exact agrees_pure related _
  · exact h _

theorem changeFile {f : SwapFile → SwapFile} (related : R w v) :
    Agrees R (Script.changeFile g f) w v := by
  refine lib.withFile related fun file => Agrees.answer (agrees_change ?_) _
  exact lib.graphics (fun _ => rfl) related

theorem beginGuarded {guard : String} (related : R w v) :
    Agrees R (Script.beginOperation guard g) w v := by
  refine (lib.beginOperation related).bind fun _ w' v' _ h => ?_
  have alike := lib.alike h
  refine agrees_get (by simp only [alike.namedGuards]) ?_
  refine Agrees.bind (agrees_change ?_) fun _ _ _ _ h => ?_
  · rw [alike.namedGuards]
    exact lib.guards h
  · split
    · exact agrees_pure h _
    · exact (lib.endOperation h).answer _

theorem endGuarded {guard : String} (related : R w v) :
    Agrees R (Script.endOperation guard) w v := by
  have alike := lib.alike related
  refine agrees_get (by simp only [alike.namedGuards]) ?_
  split
  · exact agrees_pure related _
  · refine Agrees.bind (agrees_change ?_) fun _ _ _ _ h => (lib.endOperation h).answer _
    rw [alike.namedGuards]
    exact lib.guards related

end Library

namespace Scripted

open Script

variable {clock : Prop} {A : Nat → Prop} {R : World → World → Prop} (sc : Scripted clock A R)
  {w v : World} {m g o : Nat} {name : String}

include sc

/-! ## Names -/

theorem withManager {body : Nat → Effect Reply} (related : R w v)
    (h : ∀ m, A m → Agrees R (body m) w v) : Agrees R (Script.withManager name body) w v :=
  agrees_withName (sc.alike related).managerNames
    (fun m found => h m (sc.admits related (World.alive_of_name (Names.mem_of_get? found)))) related

theorem withObject {body : Nat → Effect Reply} (related : R w v)
    (h : ∀ o, Agrees R (body o) w v) : Agrees R (Script.withObject name body) w v :=
  agrees_withName (sc.alike related).objectNames (fun o _ => h o) related

theorem withId {body : Nat → Effect Reply} (related : R w v)
    (h : ∀ id, Agrees R (body id) w v) : Agrees R (Script.withId name body) w v :=
  agrees_withName (sc.alike related).ids (fun id _ => h id) related

/-- What has a name is admitted. -/
theorem handle_admitted {handle : Handle} (related : R w v)
    (found : w.handles.get? name = some handle) : A (w.managerOf handle) :=
  sc.handles_admitted related _ (Names.mem_of_get? found)

theorem withGraphic {body : Nat → Effect Reply} (related : R w v)
    (h : ∀ g w' v', A (w'.graphic g).manager → R w' v' → Agrees R (body g) w' v') :
    Agrees R (Script.withGraphic name body) w v := by
  refine agrees_withName (sc.alike related).handles (fun handle found => ?_) related
  have admitted := sc.handle_admitted related found
  cases handle with
  | graphic g => exact sc.withHandle admitted related (h g)
  | registration m id => exact agrees_pure related _

/-! ## Managers -/

/-- A new manager is admitted. -/
theorem addManager {config : Config} {timer : Bool} {α : Type} {f : Nat → Effect α}
    (related : R w v)
    (next : ∀ w' v', A w.managers.size → w'.globalManager = w.globalManager → R w' v' →
      Agrees R (f w.managers.size) w' v') :
    Agrees R (Accounting.addManager config timer >>= f) w v := by
  have alike := sc.alike related
  have added : Agrees R (Accounting.addManager config timer) w v := by
    refine agrees_get (by simp only [alike.now, alike.size]) ?_
    exact (agrees_change (sc.adds related)).answer fun _ => w.managers.size
  refine added.bind fun k w' v' done h => ?_
  cases done
  exact next _ _ (sc.fresh related) rfl h

theorem putName (admitted : A m) (related : R w v) :
    R { w with managerNames := w.managerNames.put name m }
      { v with managerNames := v.managerNames.put name m } := by
  have alike := sc.alike related
  rw [alike.managerNames]
  refine sc.names (fun e he => ?_) related
  rcases Names.mem_put he with rfl | old
  · exact admitted
  · exact sc.admits related (World.alive_of_name old)

theorem newManager {config : Config} {timer : Bool} (related : R w v) :
    Agrees R (Script.newManager name config timer) w v :=
  sc.addManager related fun _ _ admitted _ h =>
    (agrees_change (sc.putName admitted h)).answer fun _ => w.managers.size

theorem onManager {ask : ObjectRef → Effect Unit} (takes : Takes clock ask) (step : ManagerStep)
    (related : R w v) : Agrees R (Script.onManager ask m step) w v := by
  have alike := sc.alike related
  cases step with
  | config => exact agrees_get (by simp only [alike.config]) (agrees_pure related _)
  | describe =>
    have described : (v.manager m).describe = (w.manager m).describe :=
      alike.keeps (fun _ _ => rfl) m
    exact agrees_get (by simp only [described]) (agrees_pure related _)
  | sweep => exact (sc.attempt (takes sc) related).answer _
  | audit => exact (sc.audit related).answer _
  | statistics => exact agrees_get (by simp only [alike.statistics]) (agrees_pure related _)
  | counts =>
    exact agrees_get (by simp only [alike.used, alike.registry, alike.running])
      (agrees_pure related _)
  | shutdown =>
    refine Agrees.bind (agrees_change (sc.stops related)) fun _ _ _ _ h => ?_
    exact agrees_get (by simp only [(sc.alike h).running]) (agrees_pure h _)
  | unregister name =>
    exact sc.withId related fun id => (sc.unregister related).answer _
  | isRegistered name =>
    refine sc.withId related fun id => ?_
    exact agrees_get (by simp only [alike.registry]) (agrees_pure related _)
  | announceIn name size => exact sc.withId related fun id => (sc.credit related).answer _
  | announceOut name size => exact sc.withId related fun id => (sc.debit related).answer _
  | announceResize name oldSize =>
    exact sc.withId related fun id => (sc.announceResize related).answer _

theorem install (admitted : A m) (vacant : w.globalManager = none) (related : R w v) :
    Agrees R (Script.install m) w v := by
  refine agrees_change ?_
  refine sc.process admitted ?_ (sc.putName admitted related)
  exact vacant

theorem onGlobal (step : GlobalStep) (related : R w v) : Agrees R (Script.onGlobal step) w v := by
  have alike := sc.alike related
  cases step with
  | initialise config =>
    refine sc.addManager related fun w' v' admitted _ h => ?_
    refine agrees_get (by simp only [(sc.alike h).globalManager]) ?_
    split
    · exact (agrees_change (sc.stops h)).bind fun _ _ _ _ h => agrees_pure h _
    · next vacant => exact (sc.install admitted vacant h).bind fun _ _ _ _ h => agrees_pure h _
  | get =>
    refine agrees_get (by simp only [alike.globalManager, alike.config, alike.environment]) ?_
    dsimp only
    split
    · next m process =>
      have admitted := sc.admits related (World.alive_of_process process)
      exact (agrees_change (sc.putName admitted related)).bind fun _ _ _ _ h => agrees_pure h _
    · next vacant =>
      refine sc.addManager related fun w' v' admitted kept h => ?_
      have vacant := kept.trans vacant
      exact (sc.install admitted vacant h).bind fun _ _ _ _ h => agrees_pure h _
  | shutdown =>
    refine agrees_get (by simp only [alike.globalManager]) ?_
    split
    · exact agrees_pure related _
    · exact (agrees_change (sc.stops related)).bind fun _ _ _ _ h => agrees_pure h _

/-! ## Graphics -/

theorem contentOf (maker : Maker) (related : R w v) : Agrees R (Script.contentOf maker) w v := by
  have alike := sc.alike related
  cases maker with
  | payload draft =>
    refine (agrees_ofExcept related _).bind fun p w' v' _ h => ?_
    exact agrees_get (by simp only [(sc.alike h).now]) (agrees_pure h _)
  | empty => exact agrees_get (by simp only [alike.now]) (agrees_pure related _)
  | external url => exact agrees_get (by simp only [alike.now]) (agrees_pure related _)
  | link l page => exact agrees_get (by simp only [alike.now]) (agrees_pure related _)

theorem nameGraphic (admitted : A (w.graphic g).manager) (related : R w v) :
    Agrees R (Script.nameGraphic name g) w v := by
  refine agrees_get (by simp only [(sc.alike related).graphic]) ?_
  have named {id : Nat} : Agrees R (Handling.bind name (.graphic g) id) w v :=
    sc.bind admitted related
  exact named.answer _

theorem onGraphic (step : GraphicStep) (related : R w v) :
    Agrees R (Script.onGraphic g step) w v := by
  have alike := sc.alike related
  cases step with
  | swapOut => exact (sc.swapOut related).answer _
  | swapIn => exact (sc.swapIn related).answer _
  | read => exact (sc.use related fun p _ _ h => agrees_pure h p).answer _
  | size => exact (sc.use related fun p _ _ h => agrees_pure h p.size).answer _
  | replace draft =>
    exact (agrees_ofExcept related _).bind fun p _ _ _ h => (sc.replace h).answer _
  | touch => exact agrees_get (by simp only [alike.now]) ((sc.setLastUsed related).answer _)
  | usedBefore age =>
    exact agrees_get (by simp only [alike.now]) ((sc.setLastUsed related).answer _)
  | usedAfter delay =>
    exact agrees_get (by simp only [alike.now]) ((sc.setLastUsed related).answer _)
  | beginOperation guard => exact sc.beginGuarded related
  | fileContents => exact sc.withFile related fun _ => agrees_pure related _
  | fillFile data => exact sc.changeFile related
  | patchFile offset data => exact sc.changeFile related
  | resizeFile length => exact sc.changeFile related

/-! ## Scripted objects -/

/-- What a scripted object runs when it is asked stays the same. -/
theorem updateObject {f : ScriptedObject → ScriptedObject} (same : ∀ x, (f x).hook = x.hook)
    (related : R w v) : R (w.updateObject o f) (v.updateObject o f) := by
  have alike := sc.alike related
  have paced : (w.updateObject o f).Paced clock :=
    w.hooks_updateObject same (sc.paced related)
  unfold World.updateObject
  rw [alike.objects, alike.objectNames]
  exact sc.objects paced related

theorem notify {tell : Nat → Int → Effect Unit}
    (tells : ∀ m size, Agrees R (tell m size) w v) (related : R w v) :
    Agrees R (Script.notify o tell) w v := by
  have alike := sc.alike related
  refine agrees_get (by simp only [alike.object, alike.handles]) ?_
  dsimp only
  split
  · exact tells _ _
  · exact agrees_pure related _

theorem newObject {draft : ObjectDraft} {hook : List Step} (paced : Step.AllPaced clock hook)
    (related : R w v) : Agrees R (Script.newObject name draft hook) w v := by
  have alike := sc.alike related
  refine agrees_get (by simp only [alike.now, alike.objectNames]) ?_
  refine Agrees.answer (agrees_change ?_) fun _ => _
  rw [alike.objects, alike.objectNames]
  refine sc.objects (fun x hx => ?_) related
  rcases Array.mem_push.1 hx with old | rfl
  · exact sc.paced related x old
  · exact paced

theorem onObject {ask : ObjectRef → Effect Unit} (takes : Takes clock ask) (step : ObjectStep)
    (related : R w v) : Agrees R (Script.onObject ask o step) w v := by
  have alike := sc.alike related
  cases step with
  | change c =>
    refine Agrees.answer (agrees_change ?_) _
    rw [alike.now]
    exact sc.updateObject (fun _ => rfl) related
  | state =>
    have viewed : v.objectView o = w.objectView o := by
      unfold World.objectView
      rw [alike.object]
    exact agrees_get (by simp only [viewed]) (agrees_pure related _)
  | swapIn =>
    refine agrees_get (by simp only [alike.object]) ?_
    split
    · refine Agrees.bind (agrees_change (sc.updateObject (fun _ => rfl) related))
        fun _ _ _ _ h => Agrees.answer ?_ _
      exact sc.notify (fun m size => sc.credit h) h
    · exact agrees_pure related _
  | swapOut =>
    refine (takes sc _ w v related).bind fun _ _ _ _ h => ?_
    exact agrees_get (by simp only [(sc.alike h).object]) (agrees_pure h _)

theorem registerObject {ask : ObjectRef → Effect Unit} (takes : Takes clock ask) {handle : String}
    (admitted : A m) (related : R w v) :
    Agrees R (Script.registerObject ask handle o m) w v := by
  refine (sc.freshId related).bind fun id _ _ _ h => ?_
  refine (sc.register (takes sc) h).bind fun _ _ _ _ h => ?_
  refine Agrees.bind (agrees_change (sc.updateObject (fun _ => rfl) h)) fun _ w v _ h => ?_
  have named : Agrees R (Handling.bind handle (.registration m id) id) w v :=
    sc.bind admitted h
  exact named.answer _

/-! ## The clock -/

/-- A timer that is due rings, and is wound anew. -/
theorem tick {ask : ObjectRef → Effect Unit} (moves : clock) (takes : Takes clock ask)
    (due : (w.manager m).timer.isDue w.now = true) (related : R w v) :
    Agrees R (Sweep.tick ask m) w v := by
  obtain rfl := sc.single moves related
  refine Agrees.bind (agrees_change (sc.rings moves due related)) fun _ _ _ _ h => ?_
  refine (sc.attempt (takes sc) h).bind fun _ _ _ _ h => agrees_change ?_
  obtain rfl := sc.single moves h
  exact sc.rewinds moves h

theorem tickAll {ask : ObjectRef → Effect Unit} (moves : clock) (takes : Takes clock ask)
    (managers : List Nat) (related : R w v) : Agrees R (Sweep.tickAll ask managers) w v := by
  induction managers generalizing w v with
  | nil => exact agrees_pure related ()
  | cons m managers ih =>
    obtain rfl := sc.single moves related
    refine agrees_get rfl ?_
    split
    · next due =>
      have rings := (Bool.and_eq_true _ _ ▸ due).2
      exact (sc.tick moves takes rings related).bind fun _ _ _ _ h => ih h
    · exact ih related

theorem advance {ask : ObjectRef → Effect Unit} (moves : clock) (takes : Takes clock ask)
    {span : Span} (related : R w v) : Agrees R (Sweep.advance ask span) w v := by
  obtain rfl := sc.single moves related
  have later : w.now ≤ w.now + span.nanos := Int.le_add_of_nonneg_right (Int.natCast_nonneg _)
  refine Agrees.bind (agrees_change (sc.forward moves later related)) fun _ _ _ _ h => ?_
  obtain rfl := sc.single moves h
  exact agrees_get rfl (sc.tickAll moves takes _ h)

end Scripted

/-! ## What is made has its manager -/

/-- The graphic was made by the manager, and stays with it. -/
structure World.Belongs (clock : Prop) (g m : Nat) (w : World) : Prop where
  made : g < w.graphics.size
  manager : (w.graphic g).manager = m
  paced : w.Paced clock

theorem invariant_belongs (clock : Prop) (g m : Nat) :
    ScriptInvariant clock (fun _ => True) (World.Belongs clock g m) where
  admits _ _ := trivial
  books _ h := ⟨h.made, h.manager, h.paced⟩
  graphics same h := by
    refine ⟨?_, (World.updateGraphic_keeps _ _ _ same).trans h.manager, h.paced⟩
    rw [World.size_updateGraphic]
    exact h.made
  makes _ h := by
    refine ⟨?_, ?_, h.paced⟩
    · rw [World.size_addGraphic]
      exact Nat.lt_succ_of_lt h.made
    · rw [World.graphic_addGraphic, if_neg (Nat.ne_of_lt h.made)]
      exact h.manager
  hands _ _ h := ⟨h.made, h.manager, h.paced⟩
  guards h := ⟨h.made, h.manager, h.paced⟩
  paced h := h.paced
  fresh _ := trivial
  adds h := ⟨h.made, h.manager, h.paced⟩
  stops h := ⟨h.made, h.manager, h.paced⟩
  names _ h := ⟨h.made, h.manager, h.paced⟩
  process _ _ h := ⟨h.made, h.manager, h.paced⟩
  objects paced h := ⟨h.made, h.manager, paced⟩
  outside h := ⟨h.made, h.manager, h.paced⟩
  forward _ _ h := ⟨h.made, h.manager, h.paced⟩
  rings _ _ h := ⟨h.made, h.manager, h.paced⟩
  rewinds _ h := ⟨h.made, h.manager, h.paced⟩

section Made

variable {clock : Prop} {ask : ObjectRef → Effect Unit} {w w' : World} {m g : Nat}

/-- Whatever is asked while room is made for it, what was made belongs to its manager. -/
theorem manager_of_make {content : Content} (takes : Takes clock ask) (paced : w.Paced clock)
    (done : Swapping.make ask m content w = .ok g w') : (w'.graphic g).manager = m := by
  obtain ⟨⟨id, k⟩, v, created, done⟩ := ok_of_bind done
  obtain ⟨_, u, registered, rest⟩ := ok_of_bind done
  cases rest
  obtain ⟨made, graphic, -⟩ := Swapping.graphic_of_create created
  have belongs : v.Belongs clock g m := by
    refine ⟨made, congrArg Graphic.manager graphic, ?_⟩
    obtain ⟨-, -, rfl⟩ := Swapping.create_ok created
    exact paced
  have sc := (invariant_belongs clock g m).scripted
  have register : Agrees _ (Sweep.register ask m id (.graphic g)) v v :=
    sc.register (takes sc) ⟨rfl, belongs⟩
  exact (left_of_ok registered ▸ register.left).2.manager

theorem manager_of_copy {source : Nat} (takes : Takes clock ask) (paced : w.Paced clock)
    (done : Swapping.copy ask m source w = .ok (.ok g) w') : (w'.graphic g).manager = m := by
  unfold Swapping.copy at done
  rw [get_bind_apply] at done
  cases duplicated : (w.graphic source).duplicate w.now with
  | error fault =>
    rw [duplicated] at done
    cases done
  | ok content =>
    rw [duplicated] at done
    obtain ⟨k, u, made, rest⟩ := ok_of_bind done
    cases rest
    exact manager_of_make takes paced made

end Made

/-! ## Steps -/

namespace Scripted

open Script

variable {clock : Prop} {A : Nat → Prop} {R : World → World → Prop} (sc : Scripted clock A R)
  {w v : World} {m g : Nat} {name : String} {ask : ObjectRef → Effect Unit}

include sc

theorem make {maker : Maker} (takes : Takes clock ask) (admitted : A m) (related : R w v) :
    Agrees R (do
      let content ← Script.contentOf maker
      let g ← Swapping.make ask m content
      Script.nameGraphic name g) w v := by
  refine (sc.contentOf maker related).bind fun content w' v' _ h => ?_
  refine (sc.toLibrary.make (takes sc) admitted h).bind fun g u u' made h' => ?_
  exact sc.nameGraphic (manager_of_make takes (sc.paced h) made ▸ admitted) h'

theorem startTracing (related : R w v) : Agrees R Script.startTracing w v := by
  have alike := sc.alike related
  refine agrees_get (by simp only [alike.tracing]) ?_
  split
  · exact agrees_pure related _
  · refine Agrees.answer (agrees_change ?_) _
    rw [alike.storageBroken, alike.swapOuts]
    exact sc.outside related

theorem dropManager (related : R w v) :
    Agrees R (Script.perform ask (.dropManager name)) w v := by
  have alike := sc.alike related
  unfold Script.perform
  refine agrees_get (by simp only [alike.managerNames]) (Agrees.answer (agrees_change ?_) _)
  rw [alike.managerNames]
  exact sc.names (fun e he => sc.admits related (World.alive_of_name (List.mem_filter.1 he).1))
    related

theorem breakStorage {broken : Bool} (related : R w v) :
    Agrees R (change fun w => { w with storageBroken := broken }) w v := by
  have alike := sc.alike related
  refine agrees_change ?_
  rw [alike.tracing, alike.swapOuts]
  exact sc.outside related

theorem setSwapOuts {swapOuts : List SwapOutReport} (related : R w v) :
    R { w with swapOuts := swapOuts } { v with swapOuts := swapOuts } := by
  have alike := sc.alike related
  rw [alike.storageBroken, alike.tracing]
  exact sc.outside related

/-- A step shows the same in both worlds. -/
theorem reporting {shown : String} {x : Effect Reply} (related : R w v)
    (h : ∀ w' v', R w' v' → Agrees R x w' v') : Agrees R (Script.reporting shown x) w v := by
  have swapOuts := (sc.alike related).swapOuts
  have cleared : R { w with swapOuts := [] } { v with swapOuts := [] } := sc.setSwapOuts related
  cases h _ _ cleared with
  | ends first second h =>
    have alike := sc.alike h
    refine .ends (reporting_of_ok first) ((reporting_of_ok second).trans ?_) (sc.setSwapOuts h)
    rw [alike.swapOuts, alike.viewOf?, alike.namedStatistics, swapOuts]
  | @halts e _ _ first second h =>
    cases e with
    | overflow e =>
      refine .ends (reporting_of_overflow first) ((reporting_of_overflow second).trans ?_)
        (sc.setSwapOuts h)
      rw [(sc.alike h).swapOuts, swapOuts]
    | exhausted => exact .halts (reporting_of_exhausted first) (reporting_of_exhausted second) h

end Scripted

namespace Script

mutual

/-- Every instruction takes the two worlds along. -/
theorem agrees_perform {clock : Prop} {A : Nat → Prop} {R : World → World → Prop}
    {ask : ObjectRef → Effect Unit} (sc : Scripted clock A R) (takes : Takes clock ask)
    (instruction : Instruction) (paced : instruction.Paced clock) {w v : World} (related : R w v) :
    Agrees R (perform ask instruction) w v := by
  have alike := sc.alike related
  cases instruction with
  | newManager name config timer => exact (sc.newManager related).answer _
  | dropManager name => exact sc.dropManager related
  | onManager name step =>
    exact sc.withManager related fun m _ => sc.onManager takes step related
  | onGlobal step => exact sc.onGlobal step related
  | startTracing => exact sc.startTracing related
  | advance span => exact (sc.advance paced takes related).answer _
  | breakStorage broken => exact (sc.breakStorage related).answer _
  | make handle manager maker =>
    exact sc.withManager related fun m admitted => sc.make takes admitted related
  | copy handle source manager =>
    refine sc.withGraphic related fun g w v _ related => ?_
    refine sc.withManager related fun m admitted => ?_
    refine (sc.toLibrary.copy (takes sc) admitted related).bind fun r _ _ copied h => ?_
    cases r with
    | error fault => exact agrees_pure h _
    | ok k =>
      exact sc.nameGraphic (manager_of_copy takes (sc.paced related) copied ▸ admitted) h
  | clone handle source =>
    exact sc.withGraphic related fun g w v admitted related => sc.nameGraphic admitted related
  | drop handle =>
    refine (sc.drop related).bind fun dropped _ _ _ h => ?_
    split
    · exact agrees_pure h _
    · exact agrees_pure h _
  | describe handle =>
    refine agrees_withName alike.handles (fun h _ => ?_) related
    exact agrees_get (by simp only [alike.describe, alike.idOf]) (agrees_pure related _)
  | managerOf handle =>
    refine agrees_withName alike.handles (fun h _ => ?_) related
    exact agrees_get (by simp only [alike.statistics, alike.managerOf]) (agrees_pure related _)
  | onGraphic handle step =>
    exact sc.withGraphic related fun g w v _ related => sc.onGraphic step related
  | during handle steps =>
    refine sc.withGraphic related fun g w v _ related => Agrees.answer ?_ _
    exact sc.use related fun p _ _ h => (agrees_performAll sc takes steps paced h).answer _
  | endOperation guard => exact sc.endGuarded related
  | compareIds left right =>
    exact sc.withId related fun a => sc.withId related fun b => agrees_pure related _
  | newObject name draft hook => exact sc.newObject paced related
  | register handle object manager =>
    exact sc.withObject related fun o => sc.withManager related fun m admitted =>
      sc.registerObject takes admitted related
  | onObject name step => exact sc.withObject related fun o => sc.onObject takes step related

/-- So do steps one after the other. -/
theorem agrees_performAll {clock : Prop} {A : Nat → Prop} {R : World → World → Prop}
    {ask : ObjectRef → Effect Unit} (sc : Scripted clock A R) (takes : Takes clock ask)
    (steps : List Step) (paced : Step.AllPaced clock steps) {w v : World} (related : R w v) :
    Agrees R (performAll ask steps) w v := by
  match steps with
  | [] => exact agrees_pure related []
  | .mk shown instruction :: rest =>
    refine (sc.reporting related fun w v related =>
      agrees_perform sc takes instruction paced.1 related).bind fun (report, ended) w v _ h => ?_
    dsimp only
    split
    · exact (agrees_performAll sc takes rest paced.2 h).answer _
    · exact agrees_pure h _

end

/-- However deeply swap-outs may nest, asking an object takes the two worlds along. By induction on
the depth: the steps of an object ask at one less. -/
theorem takes_ask (clock : Prop) (depth : Nat) : Takes clock (ask depth) := by
  induction depth with
  | zero =>
    intro A R sc o w v related
    cases o with
    | graphic g => exact (sc.swapOut related).answer _
    | scripted o => exact agrees_throw related _
  | succ depth ih =>
    intro A R sc o w v related
    cases o with
    | graphic g => exact (sc.swapOut related).answer _
    | scripted o =>
      refine Agrees.bind (agrees_change (sc.updateObject (fun _ => rfl) related))
        fun _ w v _ related => ?_
      refine agrees_get (by simp only [(sc.alike related).object]) ?_
      have hook : Step.AllPaced clock (w.object o).hook :=
        w.hook_of_objects trivial (sc.paced related) o
      refine (agrees_performAll sc ih _ hook related).bind fun reports w v _ related => ?_
      refine Agrees.bind (agrees_change ?_) fun _ w v _ related => ?_
      · rw [(sc.alike related).swapOuts]
        exact sc.setSwapOuts related
      · refine agrees_get (by simp only [(sc.alike related).object]) ?_
        dsimp only
        split
        · exact agrees_pure related ()
        · refine Agrees.bind (agrees_change (sc.updateObject (fun _ => rfl) related))
            fun _ _ _ _ h => ?_
          exact sc.notify (fun m size => sc.debit h) h

end Script

/-! ## Invariants of scripts -/

namespace ScriptInvariant

variable {A : Nat → Prop} {I : World → Prop} {w w' : World} (inv : ScriptInvariant True A I)

include inv

theorem onGlobal {step : Script.GlobalStep} {reply : Script.Reply} (h : I w)
    (done : Script.onGlobal step w = .ok reply w') : I w' :=
  left_of_ok done ▸ (inv.scripted.onGlobal step ⟨rfl, h⟩).left.2

theorem performAll (h : I w) (depth : Nat) (steps : List Script.Step) :
    I (left (Script.performAll (Script.ask depth) steps) w) :=
  (Script.agrees_performAll inv.scripted (Script.takes_ask True depth) steps
    (Script.Step.allPaced_of_free trivial steps) ⟨rfl, h⟩).left.2

end ScriptInvariant

end GraphicCache
