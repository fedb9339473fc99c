/-
Triggers of sweeps and what becomes of them: a program asks for a sweep, a registration finds the
usage above the limit, or a timer ticks. A trigger finds a sweep due, and then it runs one or counts
itself, or it does not, and then nothing is recorded.
-/
import GraphicCache.Proofs.Run.Nesting

namespace GraphicCache

open Effect Run

/-! ## Attempts -/

namespace Sweep

variable {ask : ObjectRef → Effect Unit} {m : Nat} {w : World}

theorem attempt_of_not_due (ask : ObjectRef → Effect Unit) (h : ¬ Due w m) :
    attempt ask m w = .ok () w := by
  unfold attempt
  rw [get_bind_apply]
  split
  · rfl
  · next enabled =>
    split
    · rfl
    · next above => exact absurd ⟨by simpa using enabled, by omega⟩ h

theorem attempt_of_busy (ask : ObjectRef → Effect Unit) (due : Due w m)
    (busy : (w.manager m).reducing = true) :
    attempt ask m w = .ok () (w.updateManager m Manager.countSuppressed) := by
  obtain ⟨enabled, above⟩ := due
  unfold attempt
  rw [get_bind_apply]
  rw [if_neg (by simp [enabled]), if_neg (by omega), if_pos busy]
  rfl

theorem attempt_of_idle (ask : ObjectRef → Effect Unit) (due : Due w m)
    (idle : (w.manager m).reducing = false) : attempt ask m w = complete ask m w := by
  obtain ⟨enabled, above⟩ := due
  unfold attempt
  rw [get_bind_apply]
  rw [if_neg (by simp [enabled]), if_neg (by omega), if_neg (by simp [idle])]

end Sweep

namespace Run

/-! ## Triggers -/

/-- What can bring about a sweep of a manager. -/
inductive Trigger where
  | request
  /-- An object is registered under its id. -/
  | registration (id : Nat) (o : ObjectRef)
  | tick

namespace Trigger

def effect (ask : ObjectRef → Effect Unit) (m : Nat) : Trigger → Effect Unit
  | .request => Sweep.attempt ask m
  | .registration id o => Sweep.register ask m id o
  | .tick => Sweep.tick ask m

/-- The trigger finds a sweep due; a registration only if the usage is above the limit. -/
def Finds (w : World) (m : Nat) : Trigger → Prop
  | .registration _ _ =>
    (w.manager m).config.swapEnabled = true ∧ (w.manager m).config.memoryLimit < (w.manager m).used
  | _ => Due w m

/-- What a trigger does next to sweeping: a registration books its object, and a tick winds the
timer. -/
def Otherwise (m : Nat) (v w' : World) : Trigger → Prop
  | .request => w' = v
  | .registration id o => Accounting.book m id o v = .ok () w'
  | .tick => w' = v.updateManager m (·.windTimer v.now)

/-- What a trigger runs if no sweep is due. -/
def withoutSweep (m : Nat) : Trigger → Effect Unit
  | .request => pure ()
  | .registration id o => Accounting.book m id o
  | .tick => change fun w => w.updateManager m (·.windTimer w.now)

end Trigger

variable {m : Nat} {w w' : World}

/-! ## What a trigger runs -/

variable {ask : ObjectRef → Effect Unit}

/-- Above the limit a registration attempts a sweep, and then it books its object. -/
theorem register_of_above {id : Nat} {o : ObjectRef}
    (above : (w.manager m).config.memoryLimit < (w.manager m).used) :
    Sweep.register ask m id o w =
      (Sweep.attempt ask m >>= fun _ => Accounting.book m id o) w := by
  unfold Sweep.register
  rw [get_bind_apply, if_pos above]

theorem register_of_below {id : Nat} {o : ObjectRef}
    (below : ¬ (w.manager m).config.memoryLimit < (w.manager m).used) :
    Sweep.register ask m id o w = Accounting.book m id o w := by
  unfold Sweep.register
  rw [get_bind_apply, if_neg below]

theorem now_book {id : Nat} {o : ObjectRef} (booked : Accounting.book m id o w = .ok () w') :
    w'.now = w.now := by
  have enters : Preserves (fun v => v.now = w.now) (Accounting.enter m id o) := fun _ hv => hv
  exact (Accounting.preserves_book (fun _ hv => hv) enters).ok booked rfl

/-- Booking an object has no part in sweeps. -/
theorem sweepPart_book {id : Nat} {o : ObjectRef} (booked : Accounting.book m id o w = .ok () w')
    (k : Nat) : (w'.manager k).sweepPart = (w.manager k).sweepPart := by
  have change {v : World} {f : Manager → Manager} (hf : ∀ x, (f x).sweepPart = x.sweepPart)
      (hv : (v.manager k).sweepPart = (w.manager k).sweepPart) :
      ((v.updateManager m f).manager k).sweepPart = (w.manager k).sweepPart :=
    (v.updateManager_keeps m k hf).trans hv
  have enters : Preserves (fun v => (v.manager k).sweepPart = (w.manager k).sweepPart)
      (Accounting.enter m id o) := preserves_change fun v hv => change (fun _ => rfl) hv
  exact (Accounting.preserves_book (fun hf hv => change (fun x => (hf x).1) hv) enters).ok booked rfl

/-- A tick attempts a sweep between two changes of the timer. -/
theorem tick_apply (ask : ObjectRef → Effect Unit) (m : Nat) (w : World) :
    Sweep.tick ask m w =
      (Sweep.attempt ask m >>= fun _ => change fun w => w.updateManager m (·.rewindTimer w.now))
        (w.updateManager m (·.setTimer .sweeping)) := rfl

/-- The timer has no part in whether a sweep is due. -/
theorem due_setTimer (w : World) (m : Nat) (timer : Timer) :
    Due (w.updateManager m (·.setTimer timer)) m ↔ Due w m := by
  have config : ((w.updateManager m (·.setTimer timer)).manager m).config =
      (w.manager m).config := w.updateManager_keeps m m fun _ => rfl
  have used : ((w.updateManager m (·.setTimer timer)).manager m).used =
      (w.manager m).used := w.updateManager_keeps m m fun _ => rfl
  unfold Due
  rw [config, used]

theorem rewind_sweepPart (x : Manager) (now : Moment) :
    (x.rewindTimer now).sweepPart = x.sweepPart := by
  unfold Manager.rewindTimer
  split <;> rfl

/-- The timer that was set for a sweep is wound after it, whatever happens to the rest. -/
theorem rewind_setTimer (w : World) (m : Nat) {f : Manager → Manager}
    (hf : ∀ x timer, f (x.setTimer timer) = (f x).setTimer timer) :
    ((w.updateManager m (·.setTimer .sweeping)).updateManager m f).updateManager m
        (·.rewindTimer w.now) =
      (w.updateManager m f).updateManager m (·.windTimer w.now) := by
  rw [World.updateManager_updateManager, World.updateManager_updateManager,
    World.updateManager_updateManager]
  congr 1
  funext x
  rw [hf]
  rfl

/-! ## Triggers that find no sweep due -/

/-- No object is asked. -/
theorem Trigger.effect_of_missed {t : Trigger} (ask : ObjectRef → Effect Unit)
    (missed : ¬ t.Finds w m) : t.effect ask m w = t.withoutSweep m w := by
  cases t with
  | request => exact Sweep.attempt_of_not_due ask missed
  | registration id o =>
    by_cases above : (w.manager m).config.memoryLimit < (w.manager m).used
    · refine (register_of_above above).trans ?_
      exact bind_of_ok (Sweep.attempt_of_not_due ask fun due => missed ⟨due.1, above⟩)
    · exact register_of_below above
  | tick =>
    refine (tick_apply ask m w).trans ?_
    rw [bind_of_ok (Sweep.attempt_of_not_due ask fun due => missed ((due_setTimer w m _).1 due))]
    exact congrArg _ (World.updateManager_updateManager _ _ _ _)

theorem Trigger.otherwise_of_ok {t : Trigger} (done : t.withoutSweep m w = .ok () w') :
    (w'.manager m).sweepPart = (w.manager m).sweepPart ∧ t.Otherwise m w w' := by
  cases t with
  | request =>
    cases done
    exact ⟨rfl, rfl⟩
  | registration id o => exact ⟨sweepPart_book done m, done⟩
  | tick =>
    cases done
    exact ⟨World.updateManager_keeps _ _ _ fun _ => rfl, rfl⟩

/-! ## What becomes of a trigger -/

/-- An account of what a trigger made of the world in which it came. -/
structure Trigger.Accounted (t : Trigger) (m : Nat) (c : State) (w' : World) : Prop where
  /-- No sweep was running: one more came to its end. -/
  completes : t.Finds c.world m → m ∉ swept c.calls →
    (w'.manager m).counters.sweeps = (c.world.manager m).counters.sweeps + 1 ∧
      (w'.manager m).counters.lastSweep = some w'.now ∧ (w'.manager m).reducing = false
  /-- A sweep was running: the trigger counts itself, and nothing else becomes of it; no object is
  asked, whatever objects do. -/
  suppressed : t.Finds c.world m → m ∈ swept c.calls →
    (w'.manager m).counters.suppressedReentries =
        (c.world.manager m).counters.suppressedReentries + 1 ∧
      (w'.manager m).record = (c.world.manager m).record ∧
      t.Otherwise m (c.world.updateManager m Manager.countSuppressed) w' ∧
      ∀ ask, t.effect ask m c.world = .ok () w'
  /-- No sweep was due: nothing is recorded. -/
  passes : ¬ t.Finds c.world m →
    (w'.manager m).sweepPart = (c.world.manager m).sweepPart ∧ t.Otherwise m c.world w' ∧
      ∀ ask, t.effect ask m c.world = .ok () w'

section Becomes

variable {environment : Names String} {acts : List Action} {c : State}

theorem Trigger.passes {t : Trigger} (done : t.effect ask m c.world = .ok () w')
    (missed : ¬ t.Finds c.world m) :
    (w'.manager m).sweepPart = (c.world.manager m).sweepPart ∧ t.Otherwise m c.world w' ∧
      ∀ ask, t.effect ask m c.world = .ok () w' := by
  have alone (ask : ObjectRef → Effect Unit) := t.effect_of_missed ask missed
  rw [alone] at done
  obtain ⟨kept, otherwise⟩ := otherwise_of_ok done
  exact ⟨kept, otherwise, fun ask => (alone ask).trans done⟩

/-- A due attempt that no sweep is in the way of completes one. -/
theorem Lawful.attempt_completes (lawful : Lawful ask) (proper : w.Proper) (due : Due w m)
    (idle : (w.manager m).reducing = false) (done : Sweep.attempt ask m w = .ok () w') :
    ∃ n, (w'.manager m).record = (w.manager m).record.next n w'.now := by
  rw [Sweep.attempt_of_idle ask due idle] at done
  exact lawful.record_complete proper due.there done

theorem accounted_request (lawful : Lawful ask) (nested : Nested c) (proper : c.world.Proper)
    (done : Sweep.attempt ask m c.world = .ok () w') :
    Trigger.request.Accounted m c w' where
  completes due absent := by
    have idle : (c.world.manager m).reducing = false :=
      Bool.eq_false_iff.2 fun up => absent ((nested.flag m).1 up)
    obtain ⟨n, recorded⟩ := lawful.attempt_completes proper due idle done
    exact ⟨congrArg Record.sweeps recorded, congrArg Record.lastSweep recorded,
      congrArg Record.running recorded⟩
  suppressed due present := by
    have busy (ask : ObjectRef → Effect Unit) :=
      Sweep.attempt_of_busy ask due ((nested.flag m).2 present)
    cases (busy ask).symm.trans done
    refine ⟨?_, World.updateManager_keeps _ _ _ fun _ => rfl, rfl, busy⟩
    rw [World.manager_updateManager_self _ _ due.there]
    rfl
  passes := Trigger.passes (t := .request) done

theorem accounted_registration {id : Nat} {o : ObjectRef} (lawful : Lawful ask)
    (nested : Nested c) (proper : c.world.Proper)
    (done : Sweep.register ask m id o c.world = .ok () w') :
    (Trigger.registration id o).Accounted m c w' where
  completes finds absent := by
    obtain ⟨enabled, above⟩ := finds
    rw [register_of_above above] at done
    obtain ⟨_, v, attempted, booked⟩ := ok_of_bind done
    have idle : (c.world.manager m).reducing = false :=
      Bool.eq_false_iff.2 fun up => absent ((nested.flag m).1 up)
    obtain ⟨n, recorded⟩ :=
      lawful.attempt_completes proper ⟨enabled, Int.le_of_lt above⟩ idle attempted
    have now : w'.now = v.now := now_book booked
    have kept := left_of_ok booked ▸ record_book m id o v m
    rw [now]
    rw [recorded] at kept
    exact ⟨congrArg Record.sweeps kept, congrArg Record.lastSweep kept,
      congrArg Record.running kept⟩
  suppressed finds present := by
    obtain ⟨enabled, above⟩ := finds
    have due : Due c.world m := ⟨enabled, Int.le_of_lt above⟩
    have busy (ask : ObjectRef → Effect Unit) : Sweep.register ask m id o c.world =
        Accounting.book m id o (c.world.updateManager m Manager.countSuppressed) := by
      rw [register_of_above above]
      exact bind_of_ok (Sweep.attempt_of_busy ask due ((nested.flag m).2 present))
    have booked := (busy ask).symm.trans done
    have kept := sweepPart_book booked m
    rw [World.manager_updateManager_self _ _ due.there] at kept
    have record := Manager.record_congr kept
    simp only [Manager.sweepPart, Prod.mk.injEq] at kept
    exact ⟨kept.2.2.2.2.1, record, booked, fun ask => (busy ask).trans booked⟩
  passes := Trigger.passes (t := .registration id o) done

theorem accounted_tick (lawful : Lawful ask) (nested : Nested c) (proper : c.world.Proper)
    (done : Sweep.tick ask m c.world = .ok () w') : Trigger.tick.Accounted m c w' := by
  have flag : ((c.world.updateManager m (·.setTimer .sweeping)).manager m).record =
      (c.world.manager m).record := World.updateManager_keeps _ _ _ fun _ => rfl
  have rewound (v : World) (now : Moment) :
      ((v.updateManager m (·.rewindTimer now)).manager m).sweepPart = (v.manager m).sweepPart :=
    v.updateManager_keeps m m fun x => rewind_sweepPart x now
  refine ⟨?_, ?_, ?_⟩
  -- the timer is set before the sweep and wound after it; neither touches what is recorded
  · intro due absent
    rw [tick_apply] at done
    obtain ⟨_, v, attempted, rest⟩ := ok_of_bind done
    cases rest
    have idle : (c.world.manager m).reducing = false :=
      Bool.eq_false_iff.2 fun up => absent ((nested.flag m).1 up)
    obtain ⟨n, recorded⟩ := lawful.attempt_completes
      ((Grows.updateManager c.world m _).proper proper) ((due_setTimer _ m _).2 due)
      ((congrArg Record.running flag).trans idle) attempted
    have kept := (Manager.record_congr (rewound v v.now)).trans recorded
    rw [flag] at kept
    exact ⟨congrArg Record.sweeps kept, congrArg Record.lastSweep kept,
      congrArg Record.running kept⟩
  · intro due present
    have busy (ask : ObjectRef → Effect Unit) : Sweep.tick ask m c.world = .ok ()
        ((c.world.updateManager m Manager.countSuppressed).updateManager m
          (·.windTimer c.world.now)) := by
      rw [tick_apply, bind_of_ok (Sweep.attempt_of_busy ask ((due_setTimer _ m _).2 due)
        ((congrArg Record.running flag).trans ((nested.flag m).2 present)))]
      have wound := rewind_setTimer c.world m (f := Manager.countSuppressed) fun _ _ => rfl
      rw [← wound]
      rfl
    cases (busy ask).symm.trans done
    refine ⟨?_, ?_, rfl, busy⟩
    · rw [World.updateManager_updateManager, World.manager_updateManager_self _ _ due.there]
      rfl
    · rw [World.updateManager_updateManager]
      exact World.updateManager_keeps _ _ _ fun _ => rfl
  · exact Trigger.passes (t := .tick) done

/-- Sweeps of one manager never nest, and every trigger is accounted for. In every state of a run
without halts, in the middle of readings, swap-outs and sweeps too, at most one sweep of a manager
did not return, and the flag of a manager is up exactly while one did not. A trigger that comes in
such a state and finds a sweep due completes one, however the objects behave that it asks, or counts
itself and does nothing else, which is so exactly if a sweep of its manager did not return; and a
trigger that finds no sweep due records nothing. -/
theorem sweeps_never_nest (reached : Reached environment acts c)
    (runs : ∀ a ∈ acts, ∀ o, a ≠ .halt o) :
    (swept c.calls).Nodup ∧ (∀ m, (c.world.manager m).reducing = true ↔ m ∈ swept c.calls) ∧
      ∀ ask, Lawful ask → ∀ m (t : Trigger) w', t.effect ask m c.world = .ok () w' →
        t.Accounted m c w' := by
  have nested := reached.nested runs
  have grows : Grows (.start environment) c.world := Path.grows reached
  have proper := grows.proper (proper_start environment)
  refine ⟨nested.once, nested.flag, ?_⟩
  intro ask lawful m t w' done
  cases t with
  | request => exact accounted_request lawful nested proper done
  | registration id o => exact accounted_registration lawful nested proper done
  | tick => exact accounted_tick lawful nested proper done

end Becomes

/-! ## Objects of a program -/

/-- A scripted object in memory that does nothing when it is asked to swap out. -/
def bulk (size : Int) : ScriptedObject where
  name := ""
  size := size
  swappedOut := false
  available := true
  active := false
  refuses := false
  lastUsed := 0
  notice := .silent
  hook := []
  calls := 0
  binding := none

/-- The program brings objects of these sizes into the world, in the place of all others. -/
def bulks (sizes : List Int) (w : World) : World :=
  { w with objects := (sizes.map bulk).toArray }

theorem rearranged_bulks (sizes : List Int) (w : World) : w.Rearranged (bulks sizes w) where
  now := rfl
  managers := rfl
  graphics := rfl
  handles := rfl
  held := rfl
  guards := rfl
  proper proper := by
    refine ⟨proper.names, proper.process, fun x hx => ?_⟩
    obtain ⟨size, -, rfl⟩ := List.mem_map.1 (Array.mem_def.1 hx)
    exact trivial

/-- A way of asking in which scripted objects do nothing. -/
def askQuietly : ObjectRef → Effect Unit
  | .graphic g => do let _ ← Swapping.swapOut g
  | .scripted _ => pure ()

theorem lawful_askQuietly : Lawful askQuietly where
  graphic _ := rfl
  scripted _ asked := by
    cases asked
    exact ⟨[], .refl (List.suffix_refl _)⟩

/-- A way of asking in which scripted objects are out of memory when they return. -/
def askToLeave : ObjectRef → Effect Unit
  | .graphic g => do let _ ← Swapping.swapOut g
  | .scripted o => change (·.updateObject o fun x => { x with swappedOut := true })

theorem lawful_askToLeave : Lawful askToLeave where
  graphic _ := rfl
  scripted {o s w w'} proper asked := by
    cases asked
    have leaves : Step ⟨.swappingOut o :: s, w⟩ _ ⟨.swappingOut o :: s, _⟩ :=
      .op (o := .arrange (·.updateObject o fun x => { x with swappedOut := true })) rfl
        (w.rearranged_updateObject o fun _ => rfl) rfl
    exact ⟨_, .one leaves List.suffix_rfl List.suffix_rfl⟩

/-- An object is asked to swap out by a sweep of its manager, and before it answers, the program
requests sweeps. A request to the same manager counts itself. A request to another manager completes
a sweep, in which an object leaves memory, while the sweep of the first manager still waits. -/
theorem requests_inside_a_swap_out :
    ∃ acts c v w, Reached [] acts c ∧ (∀ a ∈ acts, ∀ o, a ≠ .halt o) ∧
      c.calls.head? = some (.swappingOut 0) ∧ swept c.calls = [0] ∧
      Trigger.request.effect askToLeave 0 c.world = .ok () v ∧
      (v.manager 0).counters.suppressedReentries = 1 ∧ (v.manager 0).counters.sweeps = 0 ∧
      Trigger.request.effect askToLeave 1 c.world = .ok () w ∧
      (w.manager 1).counters.sweeps = 1 ∧ (w.manager 1).counters.evictions = 1 ∧
      (w.manager 1).used = 0 ∧ (w.manager 1).reducing = false ∧ (w.manager 0).reducing = true := by
  have managed := ((reached_start []).next
    (.op (o := .addManager { Config.builtIn with memoryLimit := 1000 } false) rfl trivial rfl)).next
    (.op (o := .addManager { Config.builtIn with memoryLimit := 1000 } false) rfl trivial rfl)
  have arranged := managed.next
    (.op (o := .arrange (bulks [200000, 300000])) rfl (rearranged_bulks _ _) rfl)
  have first := (arranged.next (.enlist (m := 0) (o := 0) rfl (by decide) rfl)).next (.settle rfl)
  have second := (first.next (.enlist (m := 1) (o := 1) rfl (by decide) rfl)).next (.settle rfl)
  have later := second.next (.op (o := .advance (.ofSeconds 20)) rfl trivial rfl)
  have swept := later.next (.sweep (m := 0) (.inl rfl) (by decide) rfl)
  have asked := swept.next
    (.askScripted (o := 0) ⟨by decide +kernel, by decide +kernel, by decide +kernel⟩)
  obtain ⟨-, -, accounted⟩ := sweeps_never_nest asked (by simp)
  have same := accounted askToLeave lawful_askToLeave 0 .request _ rfl
  have other := accounted askToLeave lawful_askToLeave 1 .request _ rfl
  obtain ⟨counted, kept, -⟩ := same.suppressed (show Due _ 0 by decide) (by decide)
  obtain ⟨swept, -, down⟩ := other.completes (show Due _ 1 by decide) (by decide)
  exact ⟨_, _, _, _, asked, by simp, rfl, rfl, rfl, counted, congrArg Record.sweeps kept, rfl, swept,
    by decide +kernel, by decide +kernel, down, by decide +kernel⟩

end Run

end GraphicCache
