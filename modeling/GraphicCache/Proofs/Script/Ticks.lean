/-
What a tick does. While no time passes, the clock and the timers of managers stay as they are, but
for timers that are stopped; a new manager has its timer stopped, or waiting for one interval. So all
ticks that one move of the clock brings about come at the same moment. A tick does to the world what
a request to sweep would do, its own timer apart: a sweep cannot tell a timer that has rung from one
that is waiting, since only the clock makes a difference between them.
-/
import GraphicCache.Proofs.Script.Timeline

namespace GraphicCache

open Effect Script

/-! ## While no time passes -/

/-- What has become of the clock and the timers of managers while no time passed. -/
structure World.Settled (w w' : World) : Prop where
  now : w'.now = w.now
  made : w.managers.size ≤ w'.managers.size
  /-- A timer stays as it is, or is stopped, or is the one of a new manager. -/
  timer : ∀ m, (w'.manager m).timer = (w.manager m).timer ∨ (w'.manager m).timer = .stopped ∨
    w.managers.size ≤ m ∧ (w'.manager m).timer = .waiting (w.now + w'.interval m)

/-- A new timer is stopped, or waits for one interval. -/
theorem Manager.timer_start (config : Config) (timer : Bool) (now : Moment) :
    let x := if timer then (Manager.new config).startTimer now else Manager.new config
    x.timer = .stopped ∨ x.timer = .waiting (now + x.config.swapInterval.nanos) := by
  cases timer with
  | false => exact .inl rfl
  | true =>
    show ((Manager.new config).startTimer now).timer = _ ∨ _
    unfold startTimer
    split
    · exact .inr rfl
    · exact .inl rfl

theorem World.Settled.updateManager {w u : World} {k : Nat} {f : Manager → Manager}
    (h : w.Settled u) (config : ∀ x, (f x).config = x.config)
    (timer : ∀ x, (f x).timer = x.timer ∨ (f x).timer = .stopped) :
    w.Settled (u.updateManager k f) := by
  refine ⟨h.now, (u.size_updateManager k f).symm ▸ h.made, fun m => ?_⟩
  have kept : (u.updateManager k f).interval m = u.interval m := by
    unfold World.interval
    rw [u.updateManager_keeps k m config]
  have changed : ((u.updateManager k f).manager m).timer = (u.manager m).timer ∨
      ((u.updateManager k f).manager m).timer = .stopped := by
    rw [World.manager_updateManager]
    split
    · exact timer _
    · exact .inl rfl
  rw [kept]
  rcases changed with same | stopped
  · rw [same]
    exact h.timer m
  · exact .inr (.inl stopped)

theorem invariant_settled (w : World) :
    ScriptInvariant False (fun _ => True) fun u => w.Settled u ∧ u.Paced False where
  admits _ _ := trivial
  books hf h := ⟨h.1.updateManager hf.config fun x => .inl (hf.keeps x), h.2⟩
  graphics _ h := ⟨⟨h.1.now, h.1.made, h.1.timer⟩, h.2⟩
  makes _ h := ⟨⟨h.1.now, h.1.made, h.1.timer⟩, h.2⟩
  hands _ _ h := ⟨⟨h.1.now, h.1.made, h.1.timer⟩, h.2⟩
  guards h := ⟨⟨h.1.now, h.1.made, h.1.timer⟩, h.2⟩
  paced h := h.2
  fresh _ := trivial
  adds {u config timer} h := by
    obtain ⟨h, paced⟩ := h
    refine ⟨⟨h.now, ?_, fun m => ?_⟩, paced⟩
    · rw [World.size_addManager]
      exact Nat.le_succ_of_le h.made
    · unfold World.interval
      rw [World.manager_addManager]
      split
      · next new =>
        rcases Manager.timer_start config timer u.now with stopped | waiting
        · exact .inr (.inl stopped)
        · rw [← h.now]
          exact .inr (.inr ⟨new ▸ h.made, waiting⟩)
      · exact h.timer m
  stops h := ⟨h.1.updateManager (fun _ => rfl) fun _ => .inr rfl, h.2⟩
  names _ h := ⟨⟨h.1.now, h.1.made, h.1.timer⟩, h.2⟩
  process _ _ h := ⟨⟨h.1.now, h.1.made, h.1.timer⟩, h.2⟩
  objects paced h := ⟨⟨h.1.now, h.1.made, h.1.timer⟩, paced⟩
  outside h := ⟨⟨h.1.now, h.1.made, h.1.timer⟩, h.2⟩
  forward moves := moves.elim
  rings moves := moves.elim
  rewinds moves := moves.elim

theorem World.Still.settled {w w' : World} (still : w.Still w') (paced : w.Paced False) :
    w.Settled w' :=
  (still.holds (invariant_settled w) ⟨⟨rfl, Nat.le_refl _, fun _ => .inl rfl⟩, paced⟩).1

/-! ## The moment of a tick -/

section Moment

variable {depth : Nat} {w : World} {m : Nat}

/-- A tick takes no time. -/
theorem now_tick (depth m : Nat) (paced : w.Paced False) :
    (left (Sweep.tick (ask depth) m) w).now = w.now := by
  have rung : (w.updateManager m (·.setTimer .sweeping)).Paced False := paced
  have settled := (still_attempt depth m _).settled rung
  exact Sweep.left_tick (P := fun v => v.now = w.now) settled.now fun _ swept => swept

/-- The ticks of one move of the clock come at one moment. -/
theorem Sweep.now_of_mem_ticks (paced : w.Paced False) (managers : List Nat) :
    ∀ t ∈ Sweep.ticks (ask depth) managers w, t.now = w.now := by
  induction managers generalizing w with
  | nil => exact List.forall_mem_nil _
  | cons m managers ih =>
    unfold Sweep.ticks
    split
    · rw [List.forall_mem_cons]
      refine ⟨rfl, ?_⟩
      cases ticked : Sweep.tick (ask depth) m w with
      | ok a v =>
        have now := now_tick depth m paced
        have paced := paced_tick depth m paced
        rw [left_of_ok ticked] at now paced
        intro t ht
        exact (ih paced t ht).trans now
      | error e v => exact List.forall_mem_nil _
    · exact ih paced

end Moment

/-! ## The effect of a tick -/

namespace Manager

/-- The timer waits, if it has rung. -/
def unring (deadline : Moment) (x : Manager) : Manager :=
  if x.timer = .sweeping then x.setTimer (.waiting deadline) else x

/-- The timer has rung, unless it is stopped. -/
def rung (x : Manager) : Manager :=
  if x.timer = .stopped then x else x.setTimer .sweeping

/-- The timer waits for one interval from now, unless it is stopped. -/
def rewound (now : Moment) (x : Manager) : Manager :=
  if x.timer = .stopped then x else x.windTimer now

theorem unring_comm {f : Manager → Manager} (hf : Untimed f) (deadline : Moment) (x : Manager) :
    f (x.unring deadline) = (f x).unring deadline := by
  unfold unring
  rw [hf.keeps]
  split
  · exact hf.timer x _
  · rfl

theorem unring_of_stopped {x : Manager} (stopped : x.timer = .stopped) (deadline : Moment) :
    x.unring deadline = x := by
  unfold unring
  rw [stopped]
  rfl

theorem unring_stopTimer (deadline : Moment) (x : Manager) :
    (x.unring deadline).stopTimer = x.stopTimer.unring deadline := by
  have stopped : x.stopTimer.timer = .stopped := rfl
  rw [unring_of_stopped stopped]
  unfold unring
  split <;> rfl

theorem unring_eq_setTimer (deadline : Moment) (x : Manager) :
    x.unring deadline = x.setTimer (x.unring deadline).timer := by
  unfold unring
  split <;> rfl

theorem isRunning_unring (deadline : Moment) (x : Manager) :
    (x.unring deadline).timer.isRunning = x.timer.isRunning := by
  unfold unring
  split
  · next sweeping =>
    rw [sweeping]
    rfl
  · rfl

end Manager

/-- Two worlds that differ in nothing but the timer of one manager: it waits in the one where it has
rung in the other. -/
structure Unrung (m : Nat) (deadline : Moment) (w v : World) : Prop where
  made : m < w.managers.size
  paced : w.Paced False
  same : v = w.updateManager m (Manager.unring deadline)

theorem Unrung.alike {m : Nat} {deadline : Moment} {w v : World} (h : Unrung m deadline w v) :
    w.Alike v := by
  obtain ⟨-, -, rfl⟩ := h
  refine ⟨rfl, w.size_updateManager m _, fun k => ?_, fun k => ?_⟩
  · rw [World.manager_updateManager]
    split
    · exact Manager.unring_eq_setTimer deadline _
    · rfl
  · exact w.updateManager_keeps m k (q := fun x => x.timer.isRunning)
      (Manager.isRunning_unring deadline)

/-- Nothing that takes no time can tell such worlds apart. -/
theorem scripted_unrung (m : Nat) (deadline : Moment) :
    Scripted False (fun _ => True) (Unrung m deadline) where
  alike := Unrung.alike
  admits _ _ := trivial
  books {w v k f} hf h := by
    obtain ⟨made, paced, rfl⟩ := h
    refine ⟨(w.size_updateManager k f).symm ▸ made, paced, ?_⟩
    exact w.updateManager_comm m k (Manager.unring_comm hf deadline)
  graphics _ h := by
    obtain ⟨made, paced, rfl⟩ := h
    exact ⟨made, paced, rfl⟩
  makes _ h := by
    obtain ⟨made, paced, rfl⟩ := h
    exact ⟨made, paced, rfl⟩
  hands _ _ h := by
    obtain ⟨made, paced, rfl⟩ := h
    exact ⟨made, paced, rfl⟩
  guards h := by
    obtain ⟨made, paced, rfl⟩ := h
    exact ⟨made, paced, rfl⟩
  paced h := h.paced
  fresh _ := trivial
  adds {w v config timer} h := by
    obtain ⟨made, paced, rfl⟩ := h
    exact ⟨w.lt_size_addManager m made, paced, w.addManager_updateManager m _ made⟩
  stops {w v k} h := by
    obtain ⟨made, paced, rfl⟩ := h
    refine ⟨(w.size_updateManager k _).symm ▸ made, paced, ?_⟩
    exact w.updateManager_comm m k (Manager.unring_stopTimer deadline)
  names _ h := by
    obtain ⟨made, paced, rfl⟩ := h
    exact ⟨made, paced, rfl⟩
  process _ _ h := by
    obtain ⟨made, paced, rfl⟩ := h
    exact ⟨made, paced, rfl⟩
  objects hooks h := by
    obtain ⟨made, paced, rfl⟩ := h
    exact ⟨made, hooks, rfl⟩
  outside h := by
    obtain ⟨made, paced, rfl⟩ := h
    exact ⟨made, paced, rfl⟩
  single moves := moves.elim
  forward moves := moves.elim
  rings moves := moves.elim
  rewinds moves := moves.elim

section Effect

variable {depth : Nat} {w u v : World} {m : Nat} {deadline : Moment}

/-- A manager whose timer waits was made. -/
theorem made_of_waiting (waits : (w.manager m).timer = .waiting deadline) :
    m < w.managers.size := by
  by_contra unmade
  rw [w.manager_of_size_le m (by omega)] at waits
  cases waits

/-- The timer that has rung is wound where the sweep left it, or is stopped there. -/
theorem Unrung.rewind (h : Unrung m deadline u v)
    (timer : (u.manager m).timer = .sweeping ∨ (u.manager m).timer = .stopped) :
    u.updateManager m (·.rewindTimer u.now) = v.updateManager m (·.rewound v.now) ∧
      u = v.updateManager m Manager.rung := by
  obtain ⟨made, -, rfl⟩ := h
  rw [World.updateManager_updateManager, World.updateManager_updateManager]
  constructor
  · refine u.updateManager_congr m ?_
    show (u.manager m).rewindTimer u.now = ((u.manager m).unring deadline).rewound u.now
    unfold Manager.rewindTimer Manager.rewound Manager.unring
    rcases timer with sweeping | stopped
    · simp [sweeping, Manager.setTimer, Manager.windTimer]
    · simp [stopped]
  · refine (u.updateManager_eq_self m ?_).symm
    show ((u.manager m).unring deadline).rung = u.manager m
    unfold Manager.rung Manager.unring
    rcases timer with sweeping | stopped
    · simp only [sweeping, if_pos, Manager.setTimer]
      rw [if_neg (by simp), ← sweeping]
    · simp [stopped]

/-- A tick does what a request to sweep does, its own timer apart: after the sweep the timer waits
for one interval, unless it was stopped meanwhile. Where the request would halt the tick halts, and
the timer is not wound. -/
structure Tick.Sweeps (ask : ObjectRef → Effect Unit) (t : Tick) : Prop where
  completes : ∀ v, Sweep.attempt ask t.manager t.world = .ok () v →
    Sweep.tick ask t.manager t.world = .ok () (v.updateManager t.manager (·.rewound v.now))
  halts : ∀ e v, Sweep.attempt ask t.manager t.world = .error e v →
    Sweep.tick ask t.manager t.world = .error e (v.updateManager t.manager Manager.rung)

theorem tick_sweeps (paced : w.Paced False) (due : (w.manager m).timer.isDue w.now = true) :
    Tick.Sweeps (ask depth) ⟨m, w⟩ := by
  cases waits : (w.manager m).timer with
  | stopped | sweeping =>
    rw [waits] at due
    cases due
  | waiting deadline =>
    have made := made_of_waiting waits
    -- the two worlds in which the sweep runs: where the timer has rung, and where it waits
    have unrung : Unrung m deadline (w.updateManager m (·.setTimer .sweeping)) w := by
      refine ⟨(w.size_updateManager m _).symm ▸ made, paced, ?_⟩
      rw [World.updateManager_updateManager]
      refine (w.updateManager_eq_self m ?_).symm
      show { w.manager m with timer := .waiting deadline } = w.manager m
      rw [← waits]
    have settled := (still_attempt depth m (w.updateManager m (·.setTimer .sweeping))).settled
      unrung.paced
    have timer : ∀ u, left (Sweep.attempt (ask depth) m)
        (w.updateManager m (·.setTimer .sweeping)) = u →
        (u.manager m).timer = .sweeping ∨ (u.manager m).timer = .stopped := by
      rintro u rfl
      rcases settled.timer m with same | stopped | ⟨unmade, -⟩
      · rw [World.manager_updateManager_self _ _ made] at same
        exact .inl same
      · exact .inr stopped
      · rw [World.size_updateManager] at unmade
        omega
    have sc := scripted_unrung m deadline
    constructor
    · intro v done
      cases sc.attempt (takes_ask False depth sc) unrung with
      | @ends _ u _ first second related =>
        cases second.symm.trans done
        obtain ⟨rewound, -⟩ := related.rewind (timer u (left_of_ok first))
        rw [← rewound]
        exact Sweep.tick_of_ok first
      | halts first second related => cases second.symm.trans done
    · intro e v halts
      cases sc.attempt (takes_ask False depth sc) unrung with
      | ends first second related => cases second.symm.trans halts
      | @halts _ u _ first second related =>
        cases second.symm.trans halts
        obtain ⟨-, rung⟩ := related.rewind (timer u (left_of_error first))
        rw [← rung]
        exact Sweep.tick_of_error first

end Effect

end GraphicCache
