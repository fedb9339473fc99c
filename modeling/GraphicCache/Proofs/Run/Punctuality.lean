/-
Ticks neither bunch up nor outlive their timer. However far the clock is moved at once, the ticks of
one timer are at least an interval apart: a timer that was wound at a moment waits for an interval
from then on, whatever happens in between, and a tick winds it anew. A timer that is stopped, or
whose manager nobody keeps, never rings again, which sweeps that are asked for do not mind.

Each of these is an invariant of scripts, so it holds at every tick of a timeline.
-/
import GraphicCache.Proofs.Run.Scripts
import GraphicCache.Proofs.Run.Timing
import GraphicCache.Proofs.Run.Triggers
import GraphicCache.Proofs.Script.Ticks

namespace GraphicCache.Run

open Effect Script

variable {depth : Nat} {v w : World} {m k : Nat} {b : Moment} {ticks : List Tick}
  {advances : List Advance}

/-! ## Timers that were wound -/

/-- The timer was not wound since the moment, or later than that: if it waits, then for no less than
an interval from the moment on. -/
structure Wound (b : Moment) (m : Nat) (w : World) : Prop where
  past : b ≤ w.now
  waits : ∀ deadline, (w.manager m).timer = .waiting deadline → b + w.interval m ≤ deadline

/-- A manager that was not made yet has no timer that waits. -/
theorem wound_of_unmade (unmade : w.managers.size ≤ m) : Wound w.now m w := by
  refine ⟨Int.le_refl _, fun deadline waiting => ?_⟩
  rw [w.manager_of_size_le m unmade] at waiting
  cases waiting

/-- The timer is set to nothing earlier than an interval from now. -/
theorem Wound.updateManager (h : Wound b m w) {f : Manager → Manager}
    (config : ∀ x, (f x).config = x.config)
    (timer : ∀ x deadline, (f x).timer = .waiting deadline →
      x.timer = .waiting deadline ∨ deadline = w.now + x.config.swapInterval.nanos) :
    Wound b m (w.updateManager k f) := by
  refine ⟨h.past, fun deadline waiting => ?_⟩
  have kept : (w.updateManager k f).interval m = w.interval m := by
    unfold World.interval
    rw [w.updateManager_keeps k m config]
  rw [kept]
  rw [World.manager_updateManager] at waiting
  have past := h.past
  split at waiting
  · rcases timer _ _ waiting with old | rfl
    · exact h.waits deadline old
    · exact Int.add_le_add_right past _
  · exact h.waits deadline waiting

theorem invariant_wound (b : Moment) (m : Nat) :
    ScriptInvariant True (fun _ => True) (Wound b m) where
  admits _ _ := trivial
  books hf h := h.updateManager hf.config fun x deadline waiting => .inl (hf.keeps x ▸ waiting)
  graphics _ h := ⟨h.past, h.waits⟩
  makes _ h := ⟨h.past, h.waits⟩
  hands _ _ h := ⟨h.past, h.waits⟩
  guards h := ⟨h.past, h.waits⟩
  paced _ := World.paced_of_free trivial _
  fresh _ := trivial
  adds {w config timer} h := by
    refine ⟨h.past, fun deadline waiting => ?_⟩
    have past := h.past
    unfold World.interval
    rw [World.manager_addManager] at waiting ⊢
    split at waiting
    · next new =>
      rw [if_pos new]
      rcases Manager.timer_start config timer w.now with stopped | started
      · rw [stopped] at waiting
        cases waiting
      · rw [started] at waiting
        cases waiting
        exact Int.add_le_add_right past _
    · next other =>
      rw [if_neg other]
      exact h.waits deadline waiting
  stops h := h.updateManager (fun _ => rfl) fun _ _ waiting => nomatch waiting
  names _ h := ⟨h.past, h.waits⟩
  process _ _ h := ⟨h.past, h.waits⟩
  objects _ h := ⟨h.past, h.waits⟩
  outside h := ⟨h.past, h.waits⟩
  forward _ later h := ⟨Int.le_trans h.past later, h.waits⟩
  rings _ _ h := h.updateManager (fun _ => rfl) fun _ _ waiting => nomatch waiting
  rewinds {w k} _ h := by
    refine h.updateManager (fun x => ?_) fun x deadline waiting => ?_
    · obtain ⟨timer, rewound⟩ := x.rewindTimer_eq w.now
      rw [rewound]
      rfl
    · unfold Manager.rewindTimer at waiting
      split at waiting
      · cases waiting
        exact .inr rfl
      · exact .inl waiting

/-- A tick winds the timer anew. -/
theorem wound_tick (depth m : Nat) (w : World) :
    Wound w.now m (left (Sweep.tick (ask depth) m) w) := by
  refine (invariant_wound w.now m).tick_of_rung ⟨Int.le_refl _, fun deadline waiting => ?_⟩
  rw [World.manager_updateManager] at waiting
  split at waiting
  · cases waiting
  -- a manager that was never made has a timer that is stopped
  · next unmade =>
    rw [w.manager_of_size_le m (by omega)] at waiting
    cases waiting

/-- A timer that rings has waited for an interval. -/
theorem Wound.due (h : Wound b m w) (due : (w.manager m).timer.isDue w.now = true) :
    b + w.interval m ≤ w.now := by
  cases waiting : (w.manager m).timer with
  | stopped | sweeping =>
    rw [waiting] at due
    cases due
  | waiting deadline =>
    rw [waiting] at due
    have reached : deadline ≤ w.now := of_decide_eq_true due
    exact Int.le_trans (h.waits deadline waiting) reached

theorem made_of_due (due : (w.manager m).timer.isDue w.now = true) : m < w.managers.size := by
  by_contra unmade
  rw [w.manager_of_size_le m (by omega)] at due
  cases due

/-! ## Managers that nobody keeps -/

/-- The manager was made, and nobody has it any more. -/
structure Unkept (m : Nat) (w : World) : Prop where
  made : m < w.managers.size
  names : ∀ e ∈ w.managerNames, e.2 ≠ m
  process : w.globalManager ≠ some m
  handles : ∀ e ∈ w.handles, w.managerOf e.2 ≠ m
  held : ∀ g ∈ w.held, (w.graphic g).manager ≠ m

theorem unkept_iff : Unkept m w ↔ m < w.managers.size ∧ w.isAlive m = false := by
  unfold World.isAlive
  simp only [Bool.or_eq_false_iff, List.any_eq_false, beq_iff_eq, beq_eq_false_iff_ne]
  constructor
  · intro h
    exact ⟨h.made, ⟨⟨h.names, h.process⟩, h.handles⟩, h.held⟩
  · rintro ⟨made, ⟨⟨names, process⟩, handles⟩, held⟩
    exact ⟨made, names, process, handles, held⟩

theorem Unkept.updateManager (h : Unkept m w) (f : Manager → Manager) :
    Unkept m (w.updateManager k f) :=
  ⟨(w.size_updateManager k f).symm ▸ h.made, h.names, h.process, h.handles, h.held⟩

/-- Nobody comes to have the manager again: what is made, and what is given a name, has a manager
that somebody has. -/
theorem invariant_unkept (m : Nat) : ScriptInvariant True (fun k => k ≠ m) (Unkept m) where
  admits {w k} h alive := by
    rintro rfl
    rw [(unkept_iff.1 h).2] at alive
    cases alive
  books _ h := h.updateManager _
  graphics {w g f} same h := by
    have kept (k : Nat) : ((w.updateGraphic g f).graphic k).manager = (w.graphic k).manager :=
      w.updateGraphic_keeps g k same
    refine ⟨h.made, h.names, h.process, fun e he => ?_, fun k hk => ?_⟩
    · have named := h.handles e he
      cases handle : e.2 with
      | graphic k =>
        rw [handle] at named
        exact fun is => named ((kept k).symm.trans is)
      | registration k id =>
        rw [handle] at named
        exact named
    · rw [kept]
      exact h.held k hk
  makes {w x} admitted h := by
    have kept (k : Nat) (hk : (w.graphic k).manager ≠ m) :
        ((w.addGraphic x).graphic k).manager ≠ m := by
      rw [World.graphic_addGraphic]
      split
      · exact admitted
      · exact hk
    refine ⟨h.made, h.names, h.process, fun e he => ?_, fun k hk => kept k (h.held k hk)⟩
    have named := h.handles e he
    cases handle : e.2 with
    | graphic k =>
      rw [handle] at named
      exact kept k named
    | registration k id =>
      rw [handle] at named
      exact named
  hands handles held h := ⟨h.made, h.names, h.process, handles, held⟩
  guards h := ⟨h.made, h.names, h.process, h.handles, h.held⟩
  paced _ := World.paced_of_free trivial _
  fresh h := Nat.ne_of_gt h.made
  adds {w config timer} h :=
    ⟨w.lt_size_addManager m h.made, h.names, h.process, h.handles, h.held⟩
  stops h := h.updateManager _
  names named h := ⟨h.made, named, h.process, h.handles, h.held⟩
  process admitted _ h :=
    ⟨h.made, h.names, fun is => admitted (Option.some.inj is), h.handles, h.held⟩
  objects _ h := ⟨h.made, h.names, h.process, h.handles, h.held⟩
  outside h := ⟨h.made, h.names, h.process, h.handles, h.held⟩
  forward _ _ h := ⟨h.made, h.names, h.process, h.handles, h.held⟩
  rings _ _ h := h.updateManager _
  rewinds _ h := h.updateManager _

/-! ## Ticks are apart -/

/-- The ticks of one timer are an interval apart. By induction on the ticks: what is known since a
tick is that its timer was wound then, and so it has waited for an interval when it rings again. -/
theorem spaced_of_ringing (ringing : Ringing (ask depth) v ticks w) (paced : v.Paced False) :
    (∀ t ∈ ticks, Wound t.now t.manager w ∧
      Configured t.manager (t.world.manager t.manager).config w) ∧
    ticks.Pairwise fun s t => s.manager = t.manager → s.now + t.interval ≤ t.now := by
  induction ringing with
  | start => exact ⟨List.forall_mem_nil _, .nil⟩
  | still ringing still ih =>
    have quiet := ringing.paced paced
    refine ⟨fun t ht => ?_, ih.2⟩
    obtain ⟨wound, configured⟩ := ih.1 t ht
    exact ⟨still.keeps (invariant_wound _ _) quiet wound,
      still.keeps (ofTimers_configured _ _).scripts quiet configured⟩
  | pass ringing later ih =>
    refine ⟨fun t ht => ?_, ih.2⟩
    obtain ⟨wound, configured⟩ := ih.1 t ht
    exact ⟨(invariant_wound _ _).forward trivial later wound, configured⟩
  | @ring ticks w k ringing alive due ih =>
    constructor
    · intro t ht
      rcases List.mem_append.1 ht with old | new
      · obtain ⟨wound, configured⟩ := ih.1 t old
        exact ⟨(invariant_wound _ _).tick due wound,
          (ofTimers_configured _ _).scripts.tick due configured⟩
      · cases List.mem_singleton.1 new
        exact ⟨wound_tick depth k w,
          (ofTimers_configured _ _).scripts.tick due ⟨made_of_due due, rfl⟩⟩
    · refine List.pairwise_append.2 ⟨ih.2, List.pairwise_singleton _ _, fun s hs t ht same => ?_⟩
      cases List.mem_singleton.1 ht
      have wound := (ih.1 s hs).1
      rw [same] at wound
      exact wound.due due

/-- Ticks that are an interval apart, the first one from a moment on, need as many intervals. -/
theorem needs_of_spaced {interval : Int} {e : Moment} (first : ∀ t ∈ ticks, b + interval ≤ t.now)
    (apart : ticks.Pairwise fun s t => s.now + interval ≤ t.now) (ends : ∀ t ∈ ticks, t.now ≤ e)
    (start : b ≤ e) : b + ticks.length * interval ≤ e := by
  induction ticks generalizing b with
  | nil => simpa using start
  | cons t rest ih =>
    obtain ⟨next, apart⟩ := List.pairwise_cons.1 apart
    have after := ih next apart (fun s hs => ends s (List.mem_cons_of_mem t hs))
      (ends t List.mem_cons_self)
    have soonest := first t List.mem_cons_self
    calc b + ((t :: rest).length : Int) * interval
        = (b + interval) + rest.length * interval := by
          rw [List.length_cons, Int.natCast_succ, Int.add_mul, Int.one_mul, Int.add_assoc,
            Int.add_comm interval]
      _ ≤ t.now + rest.length * interval := Int.add_le_add_right soonest _
      _ ≤ e := after

/-! ## Punctuality -/

/-- The ticks of one manager in some moves of the clock. -/
def ticksOfManager (ask : ObjectRef → Effect Unit) (m : Nat) (advances : List Advance) :
    List Tick :=
  (ticksOf ask advances).filter fun t => t.manager == m

theorem mem_ticksOfManager {ask : ObjectRef → Effect Unit} {t : Tick} :
    t ∈ ticksOfManager ask m advances ↔ t ∈ ticksOf ask advances ∧ t.manager = m := by
  simp [ticksOfManager]

/-- The ticks of a manager from one world to a later one, and what they need. -/
structure Punctual (ask : ObjectRef → Effect Unit) (m : Nat) (v : World) (advances : List Advance)
    (w : World) : Prop where
  /-- The ticks, one after the other, are all that timers do on the way. -/
  ringing : Ringing ask v (ticksOf ask advances) w
  /-- There is at most one in a move of the clock. -/
  once : ∀ a ∈ advances, ((a.ticks ask).filter fun t => t.manager == m).length ≤ 1
  /-- It comes when the clock was moved all the way. -/
  moment : ∀ a ∈ advances, ∀ t ∈ a.ticks ask, t.now = a.world.now + a.span.nanos
  /-- It does what a request to sweep would do. -/
  sweeps : ∀ t ∈ ticksOfManager ask m advances, t.Sweeps ask
  settings : ∀ t ∈ ticksOfManager ask m advances, t.interval = w.interval m
  apart : (ticksOfManager ask m advances).Pairwise fun s t => s.now + w.interval m ≤ t.now
  /-- If the manager is made only afterwards, its first tick is an interval later, too. -/
  first : v.managers.size ≤ m → ∀ t ∈ ticksOfManager ask m advances, v.now + w.interval m ≤ t.now
  needs : v.managers.size ≤ m →
    v.now + (ticksOfManager ask m advances).length * w.interval m ≤ w.now
  /-- A timer that is stopped never rings again. -/
  stopped : Stopped m v → ticksOfManager ask m advances = [] ∧ Stopped m w
  /-- Neither does the timer of a manager that nobody keeps, and nobody comes to keep it. -/
  unkept : m < v.managers.size → v.isAlive m = false →
    ticksOfManager ask m advances = [] ∧ w.isAlive m = false

theorem once_of_advance (a : Advance) :
    ((a.ticks (ask depth)).filter fun t => t.manager == m).length ≤ 1 := by
  have nodup : ((a.ticks (ask depth)).map Tick.manager).Nodup :=
    (Sweep.managers_of_ticks _ _ a.late).nodup List.nodup_range
  have count := List.nodup_iff_count_le_one.1 nodup m
  rw [List.count, List.countP_map, List.countP_eq_length_filter] at count
  exact count

/-- Nothing starts a timer that is stopped, and where it rings it would be due. -/
theorem ticks_of_stopped (timeline : Timeline (ask depth) v advances w) (paced : v.Paced False)
    (stopped : Stopped m v) : ticksOfManager (ask depth) m advances = [] ∧ Stopped m w := by
  obtain ⟨still, everywhere⟩ :=
    timeline.ringing.invariant paced (ofTimers_stopped m).scripts stopped
  refine ⟨List.eq_nil_iff_forall_not_mem.2 fun t ht => ?_, still⟩
  obtain ⟨listed, rfl⟩ := mem_ticksOfManager.1 ht
  have due := (timeline.ringing.rings paced t listed).2.2
  rw [(everywhere t listed).2] at due
  cases due

/-- A timer rings only as long as somebody keeps its manager. -/
theorem ticks_of_unkept (timeline : Timeline (ask depth) v advances w) (paced : v.Paced False)
    (unkept : Unkept m v) : ticksOfManager (ask depth) m advances = [] ∧ Unkept m w := by
  obtain ⟨still, everywhere⟩ := timeline.ringing.invariant paced (invariant_unkept m) unkept
  refine ⟨List.eq_nil_iff_forall_not_mem.2 fun t ht => ?_, still⟩
  obtain ⟨listed, rfl⟩ := mem_ticksOfManager.1 ht
  have alive := (timeline.ringing.rings paced t listed).2.1
  rw [(unkept_iff.1 (everywhere t listed)).2] at alive
  cases alive

theorem punctual_of_timeline (timeline : Timeline (ask depth) v advances w)
    (paced : v.Paced False) : Punctual (ask depth) m v advances w := by
  have ringing := timeline.ringing
  have rings := ringing.rings paced
  obtain ⟨since, apart⟩ := spaced_of_ringing ringing paced
  have wound (unmade : v.managers.size ≤ m) :=
    ringing.invariant paced (invariant_wound v.now m) (wound_of_unmade unmade)
  have settings : ∀ t ∈ ticksOfManager (ask depth) m advances,
      t.interval = w.interval m := by
    intro t ht
    obtain ⟨listed, rfl⟩ := mem_ticksOfManager.1 ht
    unfold Tick.interval World.interval
    rw [(since t listed).2.2]
  have spaced : (ticksOfManager (ask depth) m advances).Pairwise fun s t =>
      s.now + w.interval m ≤ t.now := by
    refine (apart.filter _).imp_of_mem fun {s t} hs ht h => ?_
    have later := h ((mem_ticksOfManager.1 hs).2.trans (mem_ticksOfManager.1 ht).2.symm)
    rwa [settings t ht] at later
  have first (unmade : v.managers.size ≤ m) : ∀ t ∈ ticksOfManager (ask depth) m advances,
      v.now + w.interval m ≤ t.now := by
    intro t ht
    rw [← settings t ht]
    obtain ⟨listed, rfl⟩ := mem_ticksOfManager.1 ht
    exact ((wound unmade).2 t listed).due (rings t listed).2.2
  refine ⟨ringing, fun a _ => once_of_advance a, fun a ha t ht => ?_, fun t ht => ?_, settings,
    spaced, first, fun unmade => ?_, fun stopped => ?_, fun made dead => ?_⟩
  · have late : a.late.Paced False := timeline.paced_of_mem paced a ha
    exact Sweep.now_of_mem_ticks late _ t ht
  · obtain ⟨quiet, -, due⟩ := rings t (mem_ticksOfManager.1 ht).1
    exact tick_sweeps quiet due
  · have ends : ∀ t ∈ ticksOfManager (ask depth) m advances, t.now ≤ w.now :=
      fun t ht => (since t (mem_ticksOfManager.1 ht).1).1.past
    exact needs_of_spaced (first unmade) spaced ends (wound unmade).1.past
  · exact ticks_of_stopped timeline paced stopped
  · obtain ⟨silent, unkept⟩ := ticks_of_unkept timeline paced (unkept_iff.2 ⟨made, dead⟩)
    exact ⟨silent, (unkept_iff.1 unkept).2⟩

/-! ## After a shutdown -/

theorem shutdown_apply (there : m < w.managers.size) :
    onManager (ask depth) m .shutdown w =
      .ok (.flag false) (w.updateManager m Manager.stopTimer) := by
  have stopped := (stopped_stopTimer there).2
  simp only [onManager, change_bind_apply, get_bind_apply, stopped]
  rfl

/-- The timer has no part in sweeps that are asked for. -/
structure SweepsOnRequest (depth m : Nat) (w : World) : Prop where
  request : Due w m → (w.manager m).reducing = false →
    Sweep.attempt (ask depth) m w = Sweep.complete (ask depth) m w
  registration : ∀ id o, (w.manager m).config.memoryLimit < (w.manager m).used →
    Sweep.register (ask depth) m id o w =
      (Sweep.attempt (ask depth) m >>= fun _ => Accounting.book m id o) w
  counted : w.Proper → Due w m → (w.manager m).reducing = false →
    ∀ u, Sweep.attempt (ask depth) m w = .ok () u →
      (u.manager m).counters.sweeps = (w.manager m).counters.sweeps + 1 ∧
        (u.manager m).counters.lastSweep = some u.now

theorem sweepsOnRequest (depth m : Nat) (w : World) : SweepsOnRequest depth m w where
  request due idle := Sweep.attempt_of_idle _ due idle
  registration _ _ above := register_of_above above
  counted proper due idle u done := by
    obtain ⟨n, recorded⟩ := (lawful_ask depth).attempt_completes proper due idle done
    exact ⟨congrArg Record.sweeps recorded, congrArg Record.lastSweep recorded⟩

/-- Ticks neither bunch up nor outlive their timer. Every script whose objects leave the clock alone
when they are asked to swap out is a timeline; without a move of the clock no timer rings; and
wherever a timeline starts, the ticks of a manager come at most once in a move of the clock and an
interval apart, do what a request to sweep does, and end when the timer is stopped or nobody keeps
the manager. A shutdown stops the timer, another one does nothing, and sweeps that are asked for go
on as before. -/
theorem ticks_neither_bunch_up_nor_outlive_their_timer :
    (∀ depth steps w, Step.AllQuiet steps → World.Paced False w →
      ∃ advances, Timeline (ask depth) w advances (left (performAll (ask depth) steps) w)) ∧
    (∀ w w' : World, w.Still w' → w.Paced False → w.Settled w') ∧
    (∀ depth v advances w, v.Paced False → Timeline (ask depth) v advances w →
      ∀ m, Punctual (ask depth) m v advances w) ∧
    (∀ depth m w, m < w.managers.size →
      onManager (ask depth) m .shutdown w =
        .ok (.flag false) (w.updateManager m Manager.stopTimer) ∧
      Stopped m (w.updateManager m Manager.stopTimer)) ∧
    ∀ depth m w, Stopped m w →
      onManager (ask depth) m .shutdown w = .ok (.flag false) w ∧ SweepsOnRequest depth m w := by
  refine ⟨fun depth steps w quiet paced => timed_performAll depth steps quiet paced,
    fun w w' still paced => still.settled paced,
    fun depth v advances w paced timeline m => punctual_of_timeline timeline paced,
    fun depth m w there => ⟨shutdown_apply there, stopped_stopTimer there⟩,
    fun depth m w stopped => ⟨?_, sweepsOnRequest depth m w⟩⟩
  rw [shutdown_apply stopped.1, stopped.idempotent]

/-- A manager with an interval of ten seconds is left alone for an hour, shut down, and left alone
for another one: its timer rings once. -/
theorem timer_rings_once_in_two_hours :
    ∃ advances w, Timeline (ask 0) (.start []) advances w ∧ advances.length = 2 ∧
      Punctual (ask 0) 0 (.start []) advances w ∧
      (ticksOfManager (ask 0) 0 advances).map Tick.now = [3600000000000] ∧
      onManager (ask 0) 0 .shutdown w = .ok (.flag false) w := by
  obtain ⟨-, -, punctual, -, again⟩ := ticks_neither_bunch_up_nor_outlive_their_timer
  have nothing : Timeline (ask 0) (.start []) [] (.start []) := .start
  have made := nothing.still (still_perform 0 (.newManager "main" .builtIn true) trivial _)
  have hour := made.advance (.ofSeconds 3600)
  have stopped := hour.still (still_perform 0 (.onManager "main" .shutdown) trivial _)
  have timeline := stopped.advance (.ofSeconds 3600)
  exact ⟨_, _, timeline, rfl, punctual 0 _ _ _ (World.paced_start False []) timeline 0, by rfl,
    (again 0 0 _ ⟨by decide, by rfl⟩).1⟩

end GraphicCache.Run
