/-
Managers and their timers. Whatever a program does, the settings of a manager stay as they are. Its
timer is set when it is made, and after that only by a tick, which finds it due, and by whoever
stops it; accounting, swapping and sweeping have nothing to do with timers. So what is said of managers
and survives ticks and stops holds in every run, and after every script.
-/
import GraphicCache.Proofs.Run.Frame
import GraphicCache.Proofs.Run.History
import GraphicCache.Proofs.Script.Parallel

namespace GraphicCache.Run

open Effect

variable {environment : Names String} {past later : List Taken} {c d : State} {a : Action}
  {w w' : World} {m : Nat}

/-! ## Invariants of the library in runs -/

section Library

variable {I : World → Prop} (inv : LibraryInvariant (fun _ => True) I)

include inv

/-- An operation preserves what the library preserves, if what is not done by the library does. -/
theorem invariant_effect {o : Op} (ready : o.Ready w) (h : I w)
    (adds : ∀ (config : Config) (timer : Bool), I (w.addManager
      (if timer then (Manager.new config).startTimer w.now else Manager.new config)))
    (sets : ∀ m timer, o = .setTimer m timer → I (w.updateManager m (·.setTimer timer)))
    (later : ∀ now, I { w with now := now })
    (arranges : ∀ f, o = .arrange f → w.Rearranged (f w) → I (f w)) : I (left o.effect w) := by
  have lib := inv.library
  have one : w = w ∧ I w := ⟨rfl, h⟩
  cases o with
  | swapOut g => exact ((lib.swapOut one).answer _).left.2
  | swapIn g => exact ((lib.swapIn one).answer _).left.2
  | peek g => exact ((lib.use one fun p _ _ h => agrees_pure h p).answer _).left.2
  | replace g p => exact (lib.replace one).left.2
  | setLastUsed g lastUsed => exact (lib.setLastUsed one).left.2
  | beginOperation g guard => exact ((lib.beginGuarded one).answer _).left.2
  | endOperation guard => exact ((lib.endGuarded one).answer _).left.2
  | alterFile g f => exact ((lib.changeFile one).answer _).left.2
  | hold g => exact inv.hands (fun _ _ => trivial) (fun _ _ => trivial) h
  | letGo g => exact (lib.letGo one).left.2
  | bind name handle id => exact (lib.bind trivial one).left.2
  | drop name => exact ((lib.drop one).answer _).left.2
  | addManager config timer => exact adds config timer
  | setTimer m timer => exact sets m timer rfl
  | audit m => exact ((lib.audit one).answer _).left.2
  | unregister m id => exact (lib.unregister one).left.2
  | announceIn m size => exact (lib.credit one).left.2
  | announceOut m size => exact (lib.debit one).left.2
  | announceResize m id oldSize => exact (lib.announceResize one).left.2
  | noticeIn m size => exact (lib.credit one).left.2
  | noticeOut m size => exact (lib.debit one).left.2
  | advance span => exact later _
  | arrange f => exact arranges f rfl ready

/-- So does a step. -/
theorem invariant_step (h : I c.world) (step : Step c a d)
    (adds : ∀ (config : Config) (timer : Bool), I (c.world.addManager
      (if timer then (Manager.new config).startTimer c.world.now else Manager.new config)))
    (sets : ∀ m timer, a = .op (.setTimer m timer) →
      I (c.world.updateManager m (·.setTimer timer)))
    (later : ∀ now, I { c.world with now := now })
    (arranges : ∀ f, a = .op (.arrange f) → c.world.Rearranged (f c.world) → I (f c.world)) :
    I d.world := by
  have lib := inv.library
  cases step with
  | op free ready done =>
    exact left_of_ok done ▸ invariant_effect inv ready h adds
      (fun m timer is => sets m timer (congrArg _ is)) later fun f is => arranges f (congrArg _ is)
  | @opHalts s w w' o e free ready halts =>
    refine left_of_error halts ▸ invariant_effect inv ready h adds (fun m timer is => ?_) later
      fun f is => ?_
    -- neither setting a timer nor a change from outside halts
    · subst is
      cases halts
    · subst is
      cases halts
  | make free there fits made =>
    exact left_of_ok made ▸ (lib.create trivial ⟨rfl, h⟩).left.2
  | copy free there held duplicated made =>
    exact left_of_ok made ▸ (lib.create trivial ⟨rfl, h⟩).left.2
  | enlist free there fresh => exact left_of_ok fresh ▸ (lib.freshId ⟨rfl, h⟩).left.2
  | settle done => exact left_of_ok done ▸ (lib.book ⟨rfl, h⟩).left.2
  | settleHalts halts => exact left_of_error halts ▸ (lib.book ⟨rfl, h⟩).left.2
  | enter free held begun fetched =>
    have begun := left_of_ok begun ▸ (lib.beginOperation ⟨rfl, h⟩).left
    exact left_of_ok fetched ▸ (lib.fetch begun).left.2
  | leave done => exact left_of_ok done ▸ (lib.endOperation ⟨rfl, h⟩).left.2
  | call | answer | answerHalts | skip | askScripted | look => exact h
  | sweep => exact inv.books untimed_beginSweep h
  | suppress => exact inv.books untimed_countSuppressed h
  | ask asked done => exact left_of_ok done ▸ (lib.swapOut ⟨rfl, h⟩).left.2
  | askHalts asked halts => exact left_of_error halts ▸ (lib.swapOut ⟨rfl, h⟩).left.2
  | finish ended done => exact left_of_ok done ▸ (lib.finish ⟨rfl, h⟩).left.2
  | finishHalts ended halts => exact left_of_error halts ▸ (lib.finish ⟨rfl, h⟩).left.2

end Library

/-! ## Invariants of managers -/

/-- The invariant is about managers only. It does not mind what concerns neither timers nor
settings, nor new managers. -/
structure OfManagers (I : World → Prop) : Prop where
  same : ∀ {w w' : World}, I w → w'.managers = w.managers → I w'
  books : ∀ {w m} {f : Manager → Manager}, Untimed f → I w → I (w.updateManager m f)
  adds : ∀ {w} {config : Config} {timer : Bool}, I w →
    I (w.addManager (if timer then (Manager.new config).startTimer w.now else Manager.new config))

namespace OfManagers

variable {I : World → Prop} (of : OfManagers I)

include of

/-- The library preserves the invariant. -/
theorem invariant : LibraryInvariant (fun _ => True) I where
  admits _ _ := trivial
  books hf h := of.books hf h
  graphics _ h := of.same h rfl
  makes _ h := of.same h rfl
  hands _ _ h := of.same h rfl
  guards h := of.same h rfl

/-- A step preserves the invariant, if setting a timer does. -/
theorem step (h : I c.world) (step : Step c a d)
    (sets : ∀ m timer, a = .op (.setTimer m timer) →
      I (c.world.updateManager m (·.setTimer timer))) : I d.world :=
  invariant_step of.invariant h step (fun _ _ => of.adds h) sets (fun _ => of.same h rfl)
    fun _ _ arranged => of.same h arranged.managers

end OfManagers

/-! ## Settings -/

/-- The manager has been made, with these settings. -/
def Configured (m : Nat) (config : Config) (w : World) : Prop :=
  m < w.managers.size ∧ (w.manager m).config = config

theorem configured_updateManager {config : Config} {k : Nat} {f : Manager → Manager}
    (hf : ∀ x, (f x).config = x.config) (h : Configured m config w) :
    Configured m config (w.updateManager k f) :=
  ⟨(w.size_updateManager k f).symm ▸ h.1, (w.updateManager_keeps k m hf).trans h.2⟩

theorem ofManagers_configured (m : Nat) (config : Config) : OfManagers (Configured m config) where
  same h managers := by
    unfold Configured World.manager
    rw [managers]
    exact h
  books hf h := configured_updateManager hf.config h
  adds {w _ _} h := by
    refine ⟨w.lt_size_addManager m h.1, ?_⟩
    rw [World.manager_addManager, if_neg (Nat.ne_of_lt h.1)]
    exact h.2

/-- The settings of a manager never change. -/
theorem Step.configured {config : Config} (h : Configured m config c.world) (step : Step c a d) :
    Configured m config d.world :=
  (ofManagers_configured m config).step h step fun _ _ _ =>
    configured_updateManager (fun _ => rfl) h

theorem Onward.configured {config : Config} (h : Configured m config c.world)
    (onward : Onward c later d) : Configured m config d.world := by
  induction onward with
  | refl => exact h
  | snoc onward step ih => exact step.configured ih

/-! ## Timers -/

/-- What the timer of a manager is set to after it was made. -/
inductive Timing (x : Manager) (now : Moment) : Timer → Prop where
  | stop : Timing x now .stopped
  /-- A tick begins. -/
  | ring (due : x.timer.isDue now = true) : Timing x now .sweeping
  /-- A tick ends. -/
  | rewind : Timing x now (x.rewindTimer now).timer

/-- A timer that is stopped stays so. -/
theorem Timing.stopped {x : Manager} {now : Moment} {timer : Timer} (h : Timing x now timer)
    (stopped : x.timer = .stopped) : timer = .stopped := by
  cases h with
  | stop => rfl
  | ring due =>
    rw [stopped] at due
    cases due
  | rewind =>
    unfold Manager.rewindTimer
    rw [stopped]
    exact stopped

/-- If the step sets a timer, then in such a way. -/
def Taken.Timely (t : Taken) : Prop :=
  match t.action with
  | .op (.setTimer m timer) => Timing (t.before.world.manager m) t.before.world.now timer
  | _ => True

/-- The invariant of managers does not mind ticks and stops, either. -/
structure OfTimers (I : World → Prop) : Prop extends OfManagers I where
  times : ∀ {w m timer}, Timing (w.manager m) w.now timer → I w →
    I (w.updateManager m (·.setTimer timer))

namespace OfTimers

variable {I : World → Prop} (of : OfTimers I)

include of

/-- In a run in which timers are set in no other way the invariant holds from the start on. -/
theorem history (start : I (.start environment)) (history : History environment past c)
    (timely : ∀ t ∈ past, t.Timely) : I c.world := by
  induction history with
  | start => exact start
  | next history step ih =>
    obtain ⟨timely, last⟩ := List.forall_mem_append.1 timely
    refine of.step (ih timely) step fun m timer is => of.times ?_ (ih timely)
    subst is
    exact last _ (List.mem_singleton.2 rfl)

theorem rewinds (h : I w) : I (w.updateManager m (·.rewindTimer w.now)) := by
  rw [World.updateManager_rewindTimer]
  exact of.times .rewind h

/-- Scripts set timers in no other way. -/
theorem scripts : ScriptInvariant True (fun _ => True) I where
  toLibraryInvariant := of.invariant
  paced _ := World.paced_of_free trivial _
  fresh _ := trivial
  adds h := of.adds h
  stops h := of.times .stop h
  names _ h := of.same h rfl
  process _ _ h := of.same h rfl
  objects _ h := of.same h rfl
  outside h := of.same h rfl
  forward _ _ h := of.same h rfl
  rings _ due h := of.times (.ring due) h
  rewinds _ h := of.rewinds h

/-- Whatever a script does, also where it halts, the invariant holds after it. -/
theorem script (h : I w) (depth : Nat) (steps : List Script.Step) :
    I (left (Script.performAll (Script.ask depth) steps) w) :=
  of.scripts.performAll h depth steps

end OfTimers

theorem ofTimers_configured (m : Nat) (config : Config) : OfTimers (Configured m config) where
  toOfManagers := ofManagers_configured m config
  times _ := configured_updateManager fun _ => rfl

/-! ## Timers that were stopped -/

/-- The timer of a manager that was made is stopped. -/
def Stopped (m : Nat) (w : World) : Prop :=
  m < w.managers.size ∧ (w.manager m).timer = .stopped

theorem stopped_stopTimer (there : m < w.managers.size) :
    Stopped m (w.updateManager m Manager.stopTimer) := by
  refine ⟨(w.size_updateManager m _).symm ▸ there, ?_⟩
  rw [World.manager_updateManager_self _ _ there]
  rfl

/-- Nothing starts a timer again. -/
theorem ofTimers_stopped (m : Nat) : OfTimers (Stopped m) where
  same h managers := by
    unfold Stopped World.manager
    rw [managers]
    exact h
  books {w k f} hf h :=
    ⟨(w.size_updateManager k f).symm ▸ h.1, (w.updateManager_keeps k m hf.keeps).trans h.2⟩
  adds {w _ _} h := by
    refine ⟨w.lt_size_addManager m h.1, ?_⟩
    rw [World.manager_addManager, if_neg (Nat.ne_of_lt h.1)]
    exact h.2
  times {w k timer} timing h := by
    refine ⟨(w.size_updateManager k _).symm ▸ h.1, ?_⟩
    rw [World.manager_updateManager]
    split
    · next same =>
      obtain ⟨rfl, -⟩ := same
      exact timing.stopped h.2
    · exact h.2

/-- Stopping a timer that is stopped does nothing. -/
theorem Stopped.idempotent (h : Stopped m w) : w.updateManager m Manager.stopTimer = w := by
  refine w.updateManager_eq_self m ?_
  show { w.manager m with timer := .stopped } = w.manager m
  rw [← h.2]

end GraphicCache.Run
