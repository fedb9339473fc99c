/-
Swapping can be switched off. A manager whose settings say so is never swept, whichever way a sweep
could come about, at whatever depth and from whatever callback: nothing of it is asked to swap out,
no sweep is counted, not even as suppressed, and its timer never runs. Its graphics are swapped out
by the program alone. Registering objects and auditing account for them as ever.

A sweep begins and counts itself only where one is due, and none is due where swapping is off; a
graphic leaves memory only when the program swaps it out or a sweep of its manager asks it.
-/
import GraphicCache.Proofs.Run.Healing
import GraphicCache.Proofs.Run.Recency
import GraphicCache.Proofs.Run.Timing

namespace GraphicCache.Run

open Effect

variable {environment : Names String} {past later : List Taken} {t : Taken} {c d : State} {a : Action}
  {w w' : World} {m g k : Nat}

/-! ## Managers that are switched off -/

/-- The manager does not sweep. -/
def Off (m : Nat) (w : World) : Prop := (w.manager m).config.swapEnabled = false

theorem not_due_of_off (off : Off m w) : ¬ Due w m :=
  fun due => Bool.false_ne_true (off.symm.trans due.1)

/-- What sweeps change of managers that are switched off is as when they were made. -/
def Unswept (w : World) : Prop :=
  ∀ m, Off m w → (w.manager m).sweepPart = (Manager.new (w.manager m).config).sweepPart

theorem Unswept.congr (h : Unswept w) (same : ∀ m, (w'.manager m).sweepPart = (w.manager m).sweepPart) :
    Unswept w' := by
  intro m off
  have config : (w'.manager m).config = (w.manager m).config := congrArg Prod.fst (same m)
  unfold Off at off
  rw [config] at off
  rw [same m, config]
  exact h m off

theorem Unswept.updateManager (h : Unswept w) {f : Manager → Manager}
    (hf : ∀ x, (f x).sweepPart = x.sweepPart) : Unswept (w.updateManager k f) :=
  h.congr fun m => w.updateManager_keeps k m hf

/-- A manager that is not switched off may change, but for its settings. -/
theorem Unswept.sweeps (h : Unswept w) (on : (w.manager k).config.swapEnabled = true)
    {f : Manager → Manager} (hf : ∀ x, (f x).config = x.config) :
    Unswept (w.updateManager k f) := by
  intro m off
  have config : ((w.updateManager k f).manager m).config = (w.manager m).config :=
    w.updateManager_keeps k m hf
  unfold Off at off
  rw [config] at off
  have other : k ≠ m := by
    rintro rfl
    rw [on] at off
    cases off
  rw [config, w.manager_updateManager_ne k m other]
  exact h m off

/-- Accounts, swapping and the use of graphics have no part in sweeps. -/
theorem stable_unswept : Stable Unswept where
  manager hf h := h.updateManager fun x => (hf x).1
  content _ h := h.congr fun _ => rfl
  busy _ h := h.congr fun _ => rfl
  hands _ _ h := h.congr fun _ => rfl
  clock _ h := h.congr fun _ => rfl

namespace Unswept

theorem effect (h : Unswept w) {o : Op} (ready : o.Ready w) : Unswept (left o.effect w) := by
  refine stable_unswept.effect ready h (fun _ _ _ => h.congr fun _ => rfl)
    (fun _ _ _ _ _ => h.congr fun _ => rfl) (fun _ _ => h.congr fun _ => rfl)
    (fun _ _ _ _ => h.congr fun _ => rfl) (fun config timer => ?_) fun f arranges => ?_
  · intro m off
    unfold Off at off
    rw [World.manager_addManager] at off ⊢
    split
    · rfl
    · next other =>
      rw [if_neg other] at off
      exact h m off
  · subst arranges
    have managers : (f w).managers = w.managers := ready.managers
    refine h.congr fun m => ?_
    unfold World.manager
    rw [managers]

theorem create (h : Unswept w) {content : Content} {id : Nat}
    (made : Swapping.create m content w = .ok (id, g) w') : Unswept w' := by
  obtain ⟨-, -, rfl⟩ := Swapping.create_ok made
  exact (h.updateManager (k := m) (f := Manager.takeId) fun _ => rfl).congr fun _ => rfl

theorem book (h : Unswept w) {id : Nat} {o : ObjectRef} :
    Unswept (left (Accounting.book m id o) w) :=
  Accounting.preserves_book stable_unswept.usable.counts
    (preserves_change fun _ h => h.updateManager fun _ => rfl) w h

theorem finish (h : Unswept w) (on : (w.manager m).config.swapEnabled = true) {n : Nat}
    (done : Sweep.finish m n w = .ok () w') : Unswept w' := by
  obtain ⟨total, -, rfl⟩ := Sweep.finish_ok done
  have kept : ((w.updateManager m (·.correct total)).manager m).config = (w.manager m).config :=
    w.updateManager_keeps m m (untimed_correct total).config
  have before : Unswept (w.updateManager m (·.correct total)) :=
    h.updateManager fun x => x.sweepPart_correct total
  exact before.sweeps (kept ▸ on) fun _ => rfl

end Unswept

/-- Only managers that sweep are swept, and the others were never. -/
structure Dormant (c : State) : Prop where
  unswept : Unswept c.world
  enabled : ∀ k ∈ swept c.calls, k < c.world.managers.size ∧ ¬ Off k c.world

theorem dormant_start (environment : Names String) : Dormant ⟨[], .start environment⟩ where
  unswept m off := by
    unfold Off at off
    rw [World.manager_start] at off
    cases off
  enabled k listed := by cases listed

/-- A manager that sweeps does so for good. -/
theorem Step.enabled (step : Step c a d) (there : k < c.world.managers.size)
    (on : ¬ Off k c.world) : k < d.world.managers.size ∧ ¬ Off k d.world := by
  obtain ⟨there', config⟩ := step.configured (m := k) ⟨there, rfl⟩
  unfold Off
  rw [config]
  exact ⟨there', on⟩

theorem Dormant.step (h : Dormant c) (step : Step c a d) : Dormant d := by
  have st := stable_unswept
  have unswept := h.unswept
  constructor
  · cases step with
    | op free ready done => exact left_of_ok done ▸ unswept.effect ready
    | opHalts free ready halts => exact left_of_error halts ▸ unswept.effect ready
    | make free there fits made => exact unswept.create made
    | copy free there held duplicated made => exact unswept.create made
    | enlist free there fresh =>
      exact left_of_ok fresh ▸ Accounting.preserves_freshId st.manager _ unswept
    | settle done => exact left_of_ok done ▸ unswept.book
    | settleHalts halts => exact left_of_error halts ▸ unswept.book
    | enter free held begun fetched =>
      have begun := left_of_ok begun ▸ st.beginOperation _ unswept
      exact left_of_ok fetched ▸ st.fetch _ begun
    | leave done => exact left_of_ok done ▸ st.endOperation _ unswept
    | call | answer | answerHalts | skip | askScripted | look => exact unswept
    | sweep triggered due idle => exact unswept.sweeps due.1 fun _ => rfl
    | suppress triggered due busy => exact unswept.sweeps due.1 fun _ => rfl
    | ask asked done => exact left_of_ok done ▸ st.swapOut _ unswept
    | askHalts asked halts => exact left_of_error halts ▸ st.swapOut _ unswept
    | @finish s w w' m target rest n ended done =>
      obtain ⟨-, on⟩ := h.enabled m List.mem_cons_self
      exact unswept.finish (by simpa [Off] using on) done
    | finishHalts ended halts => exact Sweep.finish_error halts ▸ unswept
  · intro k listed
    have before : k < c.world.managers.size ∧ ¬ Off k c.world := by
      rcases step.bearing with ⟨-, calls, -⟩ | ⟨m, due, idle, calls, -⟩ | ⟨m, n, calls, -, -⟩
      · exact h.enabled k (calls.subset listed)
      · rw [calls] at listed
        rcases List.mem_cons.1 listed with rfl | old
        · exact ⟨due.there, fun off => not_due_of_off off due⟩
        · exact h.enabled k old
      · exact h.enabled k (calls ▸ List.mem_cons_of_mem m listed)
    exact step.enabled before.1 before.2

theorem History.dormant (history : History environment past c) : Dormant c := by
  induction history with
  | start => exact dormant_start environment
  | next history step ih => exact ih.step step

/-- What is switched off was so since it was made. -/
theorem Onward.off (onward : Onward c later d) (off : Off m d.world)
    (there : m < c.world.managers.size) : Off m c.world := by
  obtain ⟨-, config⟩ := onward.configured (m := m) ⟨there, rfl⟩
  unfold Off at off
  rwa [config] at off

/-- So at no moment was it swept, and no attempt of a sweep was counted. -/
theorem History.unswept (history : History environment past c) (off : Off m c.world)
    (taken : t ∈ past) : m ∉ swept t.before.calls ∧ t.action ≠ .suppress m := by
  obtain ⟨earlier, later, before, step, onward⟩ := history.step_of_mem taken
  constructor
  · intro listed
    obtain ⟨there, on⟩ := before.dormant.enabled m listed
    exact on (onward.off off there)
  · intro suppresses
    obtain ⟨b, a, e⟩ := t
    subst suppresses
    cases step with
    | suppress triggered due busy => exact not_due_of_off (onward.off off due.there) due

/-! ## How a graphic leaves memory -/

/-- No operation of the program takes a graphic out of memory but the one that swaps it out. -/
theorem Inside.effect_of_ne (h : Inside g w) {o : Op} (ready : o.Ready w)
    (made : g < w.graphics.size) (other : o ≠ .swapOut g) : Inside g (left o.effect w) := by
  by_cases subject : g ∈ o.subjects w
  · cases o with
    | swapOut k =>
      cases List.mem_singleton.1 subject
      exact absurd rfl other
    | swapIn k => exact (left_bind_pure (Swapping.swapIn k) () w).symm ▸ h.swapIn k
    | peek k => exact left_peek k w ▸ h.peek k
    | replace k p =>
      have replaced : Inside g (w.setContent k ((w.graphic k).toContent.replace p w.now)) :=
        h.setContent fun _ => rfl
      exact Accounting.preserves_announceResize (fun _ h => h.congr rfl) _ replaced
    | setLastUsed k lastUsed => exact h.updateGraphic k fun _ => rfl
    | beginOperation k guard => exact left_guard k guard w ▸ h.guard k guard
    | endOperation guard => exact left_unguard guard w ▸ h.unguard guard
    | alterFile k f =>
      rw [left_changeFile]
      split
      · exact h
      · exact h.updateGraphic k fun _ => rfl
    | hold k => exact h.congr rfl
    | letGo k =>
      have released : Inside g (left (Handling.release (.graphic k))
          { w with held := w.held.erase k }) := by
        rw [Handling.left_release_graphic]
        split
        · exact h.congr rfl
        · exact Accounting.preserves_unregister (fun _ h => h.congr rfl) _ (h.congr rfl)
      exact released
    | _ => cases subject
  · unfold Inside
    rw [(confined_effect ready).graphic g made subject]
    exact h

/-- The program swaps the graphic out. -/
def Taken.SwapsOut (g : Nat) (t : Taken) : Prop :=
  t.action = .op (.swapOut g) ∨ t.action = .halt (some (.swapOut g))

/-- A graphic that leaves memory is swept out, or the program swaps it out. -/
theorem Step.sweptOut_or_swapsOut (step : Step c a d) (made : g < c.world.graphics.size)
    (inside : (c.world.graphic g).swappedOut = false)
    (out : (d.world.graphic g).swappedOut = true) :
    SweptOut g ⟨c, a, d⟩ ∨ Taken.SwapsOut g ⟨c, a, d⟩ := by
  by_cases operates : ∃ o, a = .op o ∨ a = .halt (some o)
  · obtain ⟨o, is⟩ := operates
    obtain ⟨ready, world⟩ := step.of_op is
    by_cases swaps : o = .swapOut g
    · subst swaps
      exact .inr is
    · have stays : (d.world.graphic g).swappedOut = false :=
        world ▸ Inside.effect_of_ne inside ready made swaps
      rw [stays] at out
      cases out
  · exact .inl ⟨fun o => ⟨fun is => operates ⟨o, .inl is⟩, fun is => operates ⟨o, .inr is⟩⟩,
      made, inside, out⟩

/-- So it leaves memory in a sweep of its manager, unless the program swaps it out. -/
theorem Step.swept_or_swapsOut (homely : Homely c) (step : Step c a d)
    (made : g < c.world.graphics.size) (inside : (c.world.graphic g).swappedOut = false)
    (out : (d.world.graphic g).swappedOut = true) :
    (c.world.graphic g).manager ∈ swept c.calls ∨ Taken.SwapsOut g ⟨c, a, d⟩ :=
  (step.sweptOut_or_swapsOut made inside out).imp_left fun sweeps =>
    (step.asked_of_sweptOut homely sweeps).1

/-- In both ways what is done to the world is that the graphic is swapped out. -/
theorem Step.movesOut (homely : Homely c) (step : Step c a d) (made : g < c.world.graphics.size)
    (inside : (c.world.graphic g).swappedOut = false)
    (out : (d.world.graphic g).swappedOut = true) : Taken.MovesOut g ⟨c, a, d⟩ := by
  rcases step.sweptOut_or_swapsOut made inside out with sweeps | is | is
  · exact (step.asked_of_sweptOut homely sweeps).2.1
  · cases is
    cases step with
    | op free ready done =>
      obtain ⟨r, v, moved, rest⟩ := ok_of_bind done
      cases rest
      exact .inl ⟨r, moved⟩
  · cases is
    cases step with
    | opHalts free ready halts =>
      rcases error_of_bind halts with failed | ⟨r, v, -, rest⟩
      · exact .inr ⟨⟨_, rfl⟩, _, failed⟩
      · cases rest

/-! ## Switched off -/

/-- All that there is to say about a manager that is switched off, from its beginning up to now. -/
structure SwitchedOff (m : Nat) (past : List Taken) (c : State) : Prop where
  /-- No sweep of it was ever in progress, so none has asked an object; none was even suppressed. -/
  unswept : ∀ t ∈ past, m ∉ swept t.before.calls ∧ t.action ≠ .suppress m
  idle : m ∉ swept c.calls
  reducing : (c.world.manager m).reducing = false
  sweeps : (c.world.manager m).counters.sweeps = 0
  evictions : (c.world.manager m).counters.evictions = 0
  suppressed : (c.world.manager m).counters.suppressedReentries = 0
  lastSweep : (c.world.manager m).counters.lastSweep = none
  /-- A request to sweep does nothing, however objects are asked. -/
  requests : ∀ ask, Sweep.attempt ask m c.world = .ok () c.world
  /-- A registration books its object and does nothing else. -/
  registrations : ∀ ask id o,
    Sweep.register ask m id o c.world = Accounting.book m id o c.world
  /-- Where one of its graphics was swapped out, the program did it. -/
  graphics : ∀ t ∈ past, ∀ g < t.before.world.graphics.size,
    (t.before.world.graphic g).manager = m →
      (t.before.world.graphic g).swappedOut = false →
      (t.after.world.graphic g).swappedOut = true → t.SwapsOut g
  /-- An audit puts the count right, if no sum on the way leaves the range. -/
  audits : (∀ usage w', Accounting.audit m c.world = .ok usage w' →
      usage = Accounting.literalUsage w' m ∧ Accounting.Healed m c.world w') ∧
    (Accounting.InRange c.world m → ∃ usage w', Accounting.audit m c.world = .ok usage w')
  /-- So does a registration, which books its object first. -/
  bookings : ∀ id o,
    (∀ w', Accounting.book m id o c.world = .ok () w' →
      Accounting.Healed m (Accounting.booked c.world m id o) w') ∧
    (Amount.fits ((c.world.manager m).used + c.world.accounted o) = true →
      Accounting.InRange (Accounting.booked c.world m id o) m →
      ∃ w', Accounting.book m id o c.world = .ok () w')
  /-- The timer does not run, if timers are set by nothing but ticks and stops. -/
  timer : (∀ t ∈ past, t.Timely) → (c.world.manager m).timer = .stopped

/-! ## Timers that do not run -/

/-- The timers of managers that are switched off do not run. -/
def Obedient (w : World) : Prop := ∀ m, Off m w → (w.manager m).timer = .stopped

theorem obedient_start (environment : Names String) : Obedient (.start environment) := by
  intro m _
  rw [World.manager_start]
  rfl

/-- No timer is started where swapping is off, and a tick needs one that is due. -/
theorem ofTimers_obedient : OfTimers Obedient where
  same h managers := by
    unfold Obedient Off World.manager
    rw [managers]
    exact h
  books {w k f} hf h := by
    intro m off
    have config : ((w.updateManager k f).manager m).config = (w.manager m).config :=
      w.updateManager_keeps k m hf.config
    unfold Off at off
    rw [config] at off
    exact (w.updateManager_keeps k m hf.keeps).trans (h m off)
  adds {w config timer} h := by
    intro m off
    unfold Off at off
    rw [World.manager_addManager] at off ⊢
    split
    · next new =>
      rw [if_pos new] at off
      cases timer with
      | false => rfl
      | true =>
        have unstarted : (Manager.new config).startTimer w.now = .new config := by
          cases enabled : config.swapEnabled with
          | false => exact if_neg (by simp [Manager.new, enabled])
          | true =>
            obtain ⟨t, started⟩ := (Manager.new config).startTimer_eq w.now
            rw [if_pos rfl, started] at off
            exact absurd off (by simp [Manager.setTimer, Manager.new, enabled])
        rw [if_pos rfl, unstarted]
        rfl
    · next other =>
      rw [if_neg other] at off
      exact h m off
  times {w k timer} timing h := by
    intro m off
    have config : ((w.updateManager k (·.setTimer timer)).manager m).config =
        (w.manager m).config := w.updateManager_keeps k m fun _ => rfl
    unfold Off at off
    rw [config] at off
    have stopped := h m off
    rw [World.manager_updateManager]
    split
    · next same =>
      obtain ⟨rfl, -⟩ := same
      exact timing.stopped stopped
    · exact stopped

/-! ## The switch -/

/-- The master switch is absolute. In every run, whatever is registered, however much is in use and
whatever the limit is, a manager that is switched off is never swept, records nothing, and leaves its
graphics in memory unless the program swaps them out; its accounts are kept and put right as ever, and
its timer does not run. No script makes a timer run that is switched off, at whatever depth objects
swap out. -/
theorem master_switch_is_absolute :
    (∀ environment past c, History environment past c → ∀ m, Off m c.world →
      SwitchedOff m past c) ∧
    ∀ environment depth steps,
      Obedient (left (Script.performAll (Script.ask depth) steps) (.start environment)) := by
  refine ⟨fun environment past c history m off => ?_, fun environment depth steps =>
    ofTimers_obedient.script (obedient_start environment) depth steps⟩
  have recorded := history.dormant.unswept m off
  simp only [Manager.sweepPart, Prod.mk.injEq] at recorded
  obtain ⟨-, reducing, sweeps, evictions, suppressed, lastSweep⟩ := recorded
  have requests (ask : ObjectRef → Effect Unit) : Sweep.attempt ask m c.world = .ok () c.world :=
    Sweep.attempt_of_not_due ask (not_due_of_off off)
  have idle : m ∉ swept c.calls := fun listed => (history.dormant.enabled m listed).2 off
  have timer : (∀ t ∈ past, t.Timely) → (c.world.manager m).timer = .stopped := fun timely =>
    ofTimers_obedient.history (obedient_start environment) history timely m off
  refine ⟨fun t => history.unswept off, idle, reducing, sweeps, evictions, suppressed, lastSweep,
    requests, fun ask id o => ?registrations, fun t taken g made own inside out => ?graphics,
    ⟨fun usage w' audited => ?_, fun sums => ?_⟩, fun id o => ⟨fun w' booked => ?_, fun fits sums => ?_⟩,
    timer⟩
  case registrations =>
    by_cases above : (c.world.manager m).config.memoryLimit < (c.world.manager m).used
    · rw [register_of_above above]
      exact bind_of_ok (requests ask)
    · exact register_of_below above
  case graphics =>
    obtain ⟨earlier, later, before, step, -⟩ := history.step_of_mem taken
    rcases step.swept_or_swapsOut before.homely made inside out with swept | swaps
    · exact absurd (own ▸ swept) (history.unswept off taken).1
    · exact swaps
  · obtain ⟨-, rfl, rfl⟩ := Accounting.audit_iff.1 audited
    exact ⟨rfl, Accounting.healed_corrected c.world m⟩
  · exact ⟨_, _, Accounting.audit_iff.2 ⟨sums, rfl, rfl⟩⟩
  · obtain ⟨-, -, rfl⟩ := Accounting.book_iff.1 booked
    exact Accounting.healed_corrected _ m
  · exact ⟨_, Accounting.book_iff.2 ⟨fits, sums, rfl⟩⟩

set_option maxRecDepth 20000 in
/-- A manager without room holds a film that has lain idle for an hour. Any sweep would evict it; with
swapping off there is none, and the film stays. -/
theorem film_stays_with_swapping_off :
    ∃ past c, History [] past c ∧ (∀ t ∈ past, t.Timely) ∧ SwitchedOff 0 past c ∧
      (c.world.manager 0).config.memoryLimit < (c.world.manager 0).used ∧
      (c.world.profile (.graphic 0)).decide (c.world.manager 0).config c.world.now = .evict ∧
      (c.world.graphic 0).swappedOut = false := by
  have managed := History.next (.start : History [] _ _)
    (.op (o := .addManager { Config.builtIn with memoryLimit := 0, swapEnabled := false } true)
      rfl trivial rfl)
  have made := managed.next (.make (m := 0) (o := .payload film) rfl (by decide) fits_film rfl)
  have bound := (made.next (.settle rfl)).next
    (.op (o := .bind "film" (.graphic 0) 1) rfl (.inr (by decide)) rfl)
  have idle := bound.next (.op (o := .advance (.ofSeconds 3600)) rfl trivial rfl)
  refine ⟨_, _, idle, ?_, master_switch_is_absolute.1 _ _ _ idle 0 rfl, by decide +kernel,
    by decide +kernel, rfl⟩
  simp only [List.nil_append, List.cons_append, List.forall_mem_cons]
  exact ⟨trivial, trivial, trivial, trivial, trivial, List.forall_mem_nil _⟩

end GraphicCache.Run
