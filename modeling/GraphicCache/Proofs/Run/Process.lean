/-
The manager of the process is made once and never replaced. Whatever else a process does in between,
and in whatever order it asks for the manager, brings one of its own, or shuts it down: the first
call that is no shutdown makes the manager and settles what its settings are. Later calls find the
same manager as it is by then; a manager that comes too late is turned away with its timer stopped;
and a shutdown stops the timer of the manager for good, if there is a manager.

What the calls make of the world is told for each of them once; nothing else sets the manager of the
process, so what becomes of it is followed through the run by invariants of managers.
-/
import GraphicCache.Proofs.Run.Timing

namespace GraphicCache

open Effect

/-! ## What the calls do -/

namespace Script

/-- The settings of the manager that the call makes, if it makes one. -/
def GlobalStep.settings (w : World) : GlobalStep → Config
  | .initialise config => config
  | _ => Config.load w.environment.get?

/-- What the call answers after it has made the manager. -/
def GlobalStep.welcome (w : World) : GlobalStep → Reply
  | .get => .config (Config.load w.environment.get?)
  | _ => .flag true

variable {w : World} {m : Nat}

/-- The world with a manager that was made for the process and turned away. -/
def rejected (config : Config) (w : World) : World :=
  (w.addManager ((Manager.new config).startTimer w.now)).updateManager w.managers.size
    Manager.stopTimer

/-- The world with a manager that was made for the process. -/
def founded (config : Config) (w : World) : World :=
  { w.addManager ((Manager.new config).startTimer w.now) with
    managerNames := w.managerNames.put globalName w.managers.size
    globalManager := some w.managers.size }

theorem addManager_apply (config : Config) (w : World) :
    Accounting.addManager config true w =
      .ok w.managers.size (w.addManager ((Manager.new config).startTimer w.now)) := rfl

theorem onGlobal_of_vacant (step : GlobalStep) (vacant : w.globalManager = none)
    (creates : step ≠ .shutdown) :
    onGlobal step w = .ok (step.welcome w) (founded (step.settings w) w) := by
  have vacant' (x : Manager) : (w.addManager x).globalManager = none := vacant
  cases step with
  | initialise config =>
    simp only [onGlobal, bind_of_ok (addManager_apply config w), get_bind_apply, vacant']
    rfl
  | get =>
    simp only [onGlobal, get_bind_apply, vacant]
    rfl
  | shutdown => exact absurd rfl creates

/-- Without a manager there is nothing to shut down. -/
theorem shutdown_of_vacant (vacant : w.globalManager = none) :
    onGlobal .shutdown w = .ok (.flag true) w := by
  simp only [onGlobal, get_bind_apply, vacant]
  rfl

theorem initialise_of_taken (config : Config) (taken : w.globalManager = some m) :
    onGlobal (.initialise config) w = .ok (.fault .alreadyInitialised) (rejected config w) := by
  have taken' (x : Manager) : (w.addManager x).globalManager = some m := taken
  simp only [onGlobal, bind_of_ok (addManager_apply config w), get_bind_apply, taken']
  rfl

theorem get_of_taken (taken : w.globalManager = some m) :
    onGlobal .get w = .ok (.config (w.manager m).config)
      { w with managerNames := w.managerNames.put globalName m } := by
  obtain ⟨⟩ := w
  dsimp only at taken
  subst taken
  rfl

theorem shutdown_of_taken (taken : w.globalManager = some m) :
    onGlobal .shutdown w = .ok (.flag true) (w.updateManager m Manager.stopTimer) := by
  simp only [onGlobal, get_bind_apply, taken]
  rfl

/-- A call for the manager of the process always answers. -/
theorem onGlobal_returns (step : GlobalStep) (w : World) :
    ∃ reply w', onGlobal step w = .ok reply w' := by
  cases slot : w.globalManager with
  | none =>
    by_cases shutdown : step = .shutdown
    · exact shutdown ▸ ⟨_, _, shutdown_of_vacant slot⟩
    · exact ⟨_, _, onGlobal_of_vacant step slot shutdown⟩
  | some m =>
    cases step with
    | initialise config => exact ⟨_, _, initialise_of_taken config slot⟩
    | get => exact ⟨_, _, get_of_taken slot⟩
    | shutdown => exact ⟨_, _, shutdown_of_taken slot⟩

/-- A manager that comes too late leaves all others as they are. -/
theorem manager_rejected (config : Config) (there : m < w.managers.size) :
    (rejected config w).manager m = w.manager m := by
  unfold rejected
  rw [World.manager_updateManager_ne _ _ _ (Nat.ne_of_gt there), World.manager_addManager,
    if_neg (Nat.ne_of_lt there)]

theorem manager_founded (config : Config) (w : World) (k : Nat) :
    (founded config w).manager k =
      if k = w.managers.size then (Manager.new config).startTimer w.now else w.manager k :=
  w.manager_addManager _ _

end Script

namespace Run

open Script

/-! ## Invariants of the process -/

variable {m : Nat} {config : Config}

/-- A manager that comes too late is left with its timer stopped. -/
theorem stopped_rejected (config : Config) (w : World) :
    Stopped w.managers.size (rejected config w) :=
  stopped_stopTimer (by simp)

/-- The library has nothing to do with the manager of the process. -/
theorem invariant_spared (slot : Option Nat) :
    LibraryInvariant (fun _ => True) fun w => w.globalManager = slot where
  admits _ _ := trivial
  books _ h := h
  graphics _ h := h
  makes _ h := h
  hands _ _ h := h
  guards h := h

/-- No step sets the manager of the process, unless it is a change from outside. -/
theorem Step.spares {c d : State} {a : Action} (step : Step c a d)
    (spares : ∀ f, a = .op (.arrange f) → (f c.world).globalManager = c.world.globalManager) :
    d.world.globalManager = c.world.globalManager :=
  invariant_step (invariant_spared c.world.globalManager) rfl step (fun _ _ => rfl)
    (fun _ _ _ => rfl) (fun _ => rfl) fun f is _ => spares f is

/-- Once the process has a manager, no script replaces it. -/
theorem invariant_slot (m : Nat) :
    ScriptInvariant True (fun _ => True) fun w => w.globalManager = some m where
  toLibraryInvariant := invariant_spared (some m)
  paced _ := World.paced_of_free trivial _
  fresh _ := trivial
  adds h := h
  stops h := h
  names _ h := h
  process _ vacant h := by cases vacant.symm.trans h
  objects _ h := h
  outside h := h
  forward _ _ h := h
  rings _ _ h := h
  rewinds _ h := h

/-! ## Processes -/

/-- A call that was made, the worlds before and after it, and what it answered. -/
structure Deed where
  before : World
  step : GlobalStep
  reply : Reply
  after : World

/-- From a state of a process to a later one, with the calls that were made for its manager, the
first one first. In between the process does anything else; what changes from outside spares its
manager, and timers are set by ticks and stops only. -/
inductive Process (b : State) : List Deed → State → Prop where
  | refl : Process b [] b
  | call {deeds s w w' step reply} (process : Process b deeds ⟨s, w⟩) (free : atProgram s = true)
      (done : onGlobal step w = .ok reply w') :
      Process b (deeds ++ [⟨w, step, reply, w'⟩]) ⟨s, w'⟩
  | step {deeds c a d} (process : Process b deeds c) (step : Step c a d)
      (timely : Taken.Timely ⟨c, a, d⟩)
      (spares : ∀ f, a = .op (.arrange f) →
        (f c.world).globalManager = c.world.globalManager) : Process b deeds d

variable {b c : State} {early deeds late : List Deed} {e : Deed}

namespace Process

/-- A call that was made comes after some calls and before the others. -/
theorem split (process : Process b (early ++ e :: late) c) :
    ∃ s, Process b early ⟨s, e.before⟩ ∧ onGlobal e.step e.before = .ok e.reply e.after ∧
      Process ⟨s, e.after⟩ late c := by
  generalize all : early ++ e :: late = deeds at process
  induction process generalizing late with
  | refl => simp at all
  | @call deeds s w w' step reply process free done ih =>
    rcases List.eq_nil_or_concat late with rfl | ⟨late, last, rfl⟩
    · obtain ⟨rfl, same⟩ := List.append_inj' all rfl
      cases same
      exact ⟨s, process, done, .refl⟩
    · rw [List.concat_eq_append, ← List.cons_append, ← List.append_assoc] at all
      obtain ⟨front, same⟩ := List.append_inj' all rfl
      cases same
      obtain ⟨s', before, made, after⟩ := ih front
      exact ⟨s', before, made, List.concat_eq_append ▸ after.call free done⟩
  | step process step timely spares ih =>
    obtain ⟨s', before, made, after⟩ := ih all
    exact ⟨s', before, made, after.step step timely spares⟩

/-- What is said of managers and survives ticks and stops survives all that a process does. -/
theorem managers {I : World → Prop} (of : OfTimers I) (process : Process b deeds c)
    (h : I b.world) : I c.world := by
  induction process with
  | refl => exact h
  | @call deeds s w w' step reply process free done ih =>
    exact of.scripts.onGlobal ih done
  | step process step timely spares ih =>
    refine of.step ih step fun m timer is => of.times ?_ ih
    subst is
    exact timely

/-- Without a call that makes a manager there is none, and the calls do nothing. -/
theorem vacant (process : Process b deeds c) (vacant : b.world.globalManager = none)
    (shutdowns : ∀ e ∈ deeds, e.step = .shutdown) :
    c.world.globalManager = none ∧ ∀ e ∈ deeds, e.reply = .flag true ∧ e.after = e.before := by
  induction process with
  | refl => exact ⟨vacant, List.forall_mem_nil _⟩
  | @call deeds s w w' step reply process free done ih =>
    obtain ⟨shutdowns, last⟩ := List.forall_mem_append.1 shutdowns
    obtain ⟨still, nothing⟩ := ih shutdowns
    have shutdown : step = .shutdown := last _ (List.mem_singleton.2 rfl)
    subst shutdown
    cases (shutdown_of_vacant still).symm.trans done
    refine ⟨still, List.forall_mem_append.2 ⟨nothing, ?_⟩⟩
    rintro e he
    cases List.mem_singleton.1 he
    exact ⟨rfl, rfl⟩
  | step process step timely spares ih =>
    obtain ⟨still, nothing⟩ := ih shutdowns
    exact ⟨(step.spares spares).trans still, nothing⟩

/-- The manager of the process is never replaced. -/
theorem taken (process : Process b deeds c) (taken : b.world.globalManager = some m) :
    c.world.globalManager = some m := by
  induction process with
  | refl => exact taken
  | @call deeds s w w' step reply process free done ih =>
    exact (invariant_slot m).onGlobal ih done
  | step process step timely spares ih => exact (step.spares spares).trans ih

end Process

/-! ## The manager of the process -/

/-- The call makes the manager of the process, which there was not before. -/
structure Deed.Founds (d : Deed) : Prop where
  vacant : d.before.globalManager = none
  reply : d.reply = d.step.welcome d.before
  after : d.after = founded (d.step.settings d.before) d.before
  manager : d.after.manager d.before.managers.size =
    (Manager.new (d.step.settings d.before)).startTimer d.before.now
  others : ∀ k < d.before.managers.size, d.after.manager k = d.before.manager k

/-- What a later call finds, and what it does. -/
structure Deed.Later (m : Nat) (config : Config) (e : Deed) : Prop where
  found : e.before.globalManager = some m ∧ Configured m config e.before
  left : e.after.globalManager = some m ∧ Configured m config e.after
  /-- The manager is handed out as it is. -/
  get : e.step = .get → e.reply = .config config ∧
    e.after = { e.before with managerNames := e.before.managerNames.put globalName m }
  /-- Another one is made in vain, and its timer is stopped; nothing else happens. -/
  initialise : ∀ given, e.step = .initialise given →
    e.reply = .fault (.configuration "graphic cache manager is already initialised") ∧
      e.after = rejected given e.before ∧
      (∀ k < e.before.managers.size, e.after.manager k = e.before.manager k) ∧
      Stopped e.before.managers.size e.after
  /-- The timer is stopped, if it was not. -/
  shutdown : e.step = .shutdown → e.reply = .flag true ∧
    e.after = e.before.updateManager m Manager.stopTimer ∧ Stopped m e.after ∧
    (Stopped m e.before → e.after = e.before)

/-- What has become of the manager of the process after some calls. -/
structure Lasting (m : Nat) (config : Config) (late : List Deed) (c : State) : Prop where
  slot : c.world.globalManager = some m
  configured : Configured m config c.world
  calls : ∀ e ∈ late, e.Later m config
  /-- The timers of managers that were turned away never run. -/
  rejected : ∀ e ∈ late, ∀ given, e.step = .initialise given →
    Stopped e.before.managers.size c.world
  /-- A shutdown stops the timer for good, and to shut down once more does nothing. -/
  stopped : ∀ mid e rest, late = mid ++ e :: rest → e.step = .shutdown →
    Stopped m c.world ∧
      ∀ f ∈ rest, Stopped m f.before ∧ (f.step = .shutdown → f.after = f.before)

theorem founds_of_vacant (vacant : e.before.globalManager = none) (creates : e.step ≠ .shutdown)
    (done : onGlobal e.step e.before = .ok e.reply e.after) : e.Founds := by
  obtain ⟨reply, after⟩ :=
    EStateM.Result.ok.inj (done.symm.trans (onGlobal_of_vacant e.step vacant creates))
  refine ⟨vacant, reply, after, ?_, fun k there => ?_⟩
  · rw [after, manager_founded, if_pos rfl]
  · rw [after, manager_founded, if_neg (Nat.ne_of_lt there)]

theorem later_of_taken (taken : e.before.globalManager = some m)
    (configured : Configured m config e.before)
    (done : onGlobal e.step e.before = .ok e.reply e.after) : e.Later m config := by
  have slot : e.after.globalManager = some m := (invariant_slot m).onGlobal taken done
  have settings : Configured m config e.after :=
    (ofTimers_configured m config).scripts.onGlobal configured done
  refine ⟨⟨taken, configured⟩, ⟨slot, settings⟩, fun get => ?_, fun given initialise => ?_,
    fun shutdown => ?_⟩
  · rw [get] at done
    obtain ⟨reply, after⟩ := EStateM.Result.ok.inj (done.symm.trans (get_of_taken taken))
    exact ⟨configured.2 ▸ reply, after⟩
  · rw [initialise] at done
    obtain ⟨reply, after⟩ :=
      EStateM.Result.ok.inj (done.symm.trans (initialise_of_taken given taken))
    rw [after]
    exact ⟨reply, rfl, fun k => manager_rejected given, stopped_rejected given e.before⟩
  · rw [shutdown] at done
    obtain ⟨reply, after⟩ := EStateM.Result.ok.inj (done.symm.trans (shutdown_of_taken taken))
    rw [after]
    exact ⟨reply, rfl, stopped_stopTimer configured.1, Stopped.idempotent⟩

/-- From the moment on in which there is a manager of the process. -/
theorem Process.lasting (process : Process b late c) (taken : b.world.globalManager = some m)
    (configured : Configured m config b.world) : Lasting m config late c := by
  have later {mid rest : List Deed} {e : Deed} (parts : late = mid ++ e :: rest) :
      e.Later m config ∧ ∃ s, Process ⟨s, e.after⟩ rest c := by
    subst parts
    obtain ⟨s, before, done, after⟩ := process.split
    have found := before.managers (ofTimers_configured m config) configured
    exact ⟨later_of_taken (before.taken taken) found done, s, after⟩
  refine ⟨process.taken taken, process.managers (ofTimers_configured m config) configured,
    fun e he => ?_, fun e he given step => ?_, fun mid e rest parts step => ?_⟩
  · obtain ⟨mid, rest, parts⟩ := List.append_of_mem he
    exact (later parts).1
  · obtain ⟨mid, rest, parts⟩ := List.append_of_mem he
    obtain ⟨call, s, after⟩ := later parts
    exact after.managers (ofTimers_stopped _) (call.initialise given step).2.2.2
  · obtain ⟨call, s, after⟩ := later parts
    have stops : Stopped m e.after := (call.shutdown step).2.2.1
    refine ⟨after.managers (ofTimers_stopped m) stops, fun f hf => ?_⟩
    obtain ⟨mid', rest', parts'⟩ := List.append_of_mem hf
    subst parts'
    obtain ⟨s', between, done, -⟩ := after.split
    have still : Stopped m f.before := between.managers (ofTimers_stopped m) stops
    have again : late = (mid ++ e :: mid') ++ f :: rest' := by simp [parts]
    exact ⟨still, fun step => ((later again).1.shutdown step).2.2.2 still⟩

/-- The manager of the process is created once and never replaced. In every process there is none,
and shutting it down does nothing, up to the first call that is no shutdown. That call makes it,
with the settings that are given or those of the environment, and every later call finds it. No
script replaces it or changes its settings, or makes its timer run once it is stopped, either. -/
theorem manager_of_process_is_created_once :
    (∀ step w, ∃ reply w', onGlobal step w = .ok reply w') ∧
    (∀ environment deeds c, Process ⟨[], .start environment⟩ deeds c →
      (∀ e ∈ deeds, e.step = .shutdown) →
      c.world.globalManager = none ∧ ∀ e ∈ deeds, e.reply = .flag true ∧ e.after = e.before) ∧
    (∀ environment early d late c, Process ⟨[], .start environment⟩ (early ++ d :: late) c →
      (∀ e ∈ early, e.step = .shutdown) → d.step ≠ .shutdown →
      d.Founds ∧ Lasting d.before.managers.size (d.step.settings d.before) late c) ∧
    ∀ m config w depth steps, w.globalManager = some m → Configured m config w →
      let w' := left (performAll (ask depth) steps) w
      w'.globalManager = some m ∧ Configured m config w' ∧ (Stopped m w → Stopped m w') := by
  refine ⟨onGlobal_returns, fun environment deeds c process shutdowns =>
    process.vacant rfl shutdowns, fun environment early d late c process shutdowns creates => ?_,
    fun m config w depth steps taken configured => ⟨?_, ?_, ?_⟩⟩
  · obtain ⟨s, before, done, after⟩ := process.split
    have founds := founds_of_vacant (before.vacant rfl shutdowns).1 creates done
    have there : d.before.managers.size < d.after.managers.size := by
      rw [founds.after]
      simp [founded]
    refine ⟨founds, after.lasting (founds.after ▸ rfl) ⟨there, ?_⟩⟩
    show (d.after.manager d.before.managers.size).config = _
    obtain ⟨timer, started⟩ :=
      (Manager.new (d.step.settings d.before)).startTimer_eq d.before.now
    rw [founds.manager, started]
    rfl
  · exact (invariant_slot m).performAll taken depth steps
  · exact (ofTimers_configured m config).script configured depth steps
  · exact fun stopped => (ofTimers_stopped m).script stopped depth steps

/-- A process has nothing to shut down, asks for its manager, brings one of its own and is turned
away, and shuts down what it got. -/
theorem second_manager_is_turned_away :
    ∃ early d e f c, Process ⟨[], .start []⟩ ([early] ++ d :: [e, f]) c ∧
      early.step = .shutdown ∧ d.step = .get ∧ e.step = .initialise .builtIn ∧ f.step = .shutdown ∧
      d.Founds ∧ Lasting 0 (d.step.settings d.before) [e, f] c ∧
      e.reply = .fault .alreadyInitialised ∧ Stopped 0 c.world ∧ Stopped 1 c.world := by
  have nothing := (Process.refl : Process ⟨[], .start []⟩ [] _).call rfl (shutdown_of_vacant rfl)
  have made := nothing.call rfl (onGlobal_of_vacant .get rfl nofun)
  have refused := made.call rfl (initialise_of_taken .builtIn rfl)
  have process := refused.call rfl (shutdown_of_taken rfl)
  obtain ⟨-, -, once, -⟩ := manager_of_process_is_created_once
  obtain ⟨founds, lasting⟩ := once [] [_] _ [_, _] _ process
    (by simp only [List.forall_mem_singleton]) nofun
  exact ⟨_, _, _, _, _, process, rfl, rfl, rfl, rfl, founds, lasting, rfl,
    (lasting.stopped [_] _ [] rfl rfl).1, lasting.rejected _ List.mem_cons_self _ rfl⟩

end Run

end GraphicCache
