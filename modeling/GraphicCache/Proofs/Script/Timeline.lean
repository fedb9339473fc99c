/-
Scripts told by the clock. From one move of the clock to the next a script does what takes no time;
where it moves the clock, on its own or inside of a reading, the timers that are due ring one after
the other. If objects leave the clock alone when they are asked to swap out, every script is such a
timeline, and what survives the single changes that scripts make is known at every tick of it.
-/
import GraphicCache.Proofs.Script.Parallel

namespace GraphicCache

open Effect Script

/-! ## What takes no time -/

/-- No time passes from one world to the other: what survives the single changes that scripts make,
other than those of the clock, and holds in the one, holds in the other. -/
structure World.Still (w w' : World) : Prop where
  holds : ∀ {A : Nat → Prop} {I : World → Prop}, ScriptInvariant False A I → I w → I w'

/-- Objects come to leave the clock alone only if they are made so. -/
theorem invariant_paced : ScriptInvariant False (fun _ => True) (World.Paced False) where
  admits _ _ := trivial
  books _ h := h
  graphics _ h := h
  makes _ h := h
  hands _ _ h := h
  guards h := h
  paced h := h
  fresh _ := trivial
  adds h := h
  stops h := h
  names _ h := h
  process _ _ h := h
  objects paced _ := paced
  outside h := h
  forward moves := moves.elim
  rings moves := moves.elim
  rewinds moves := moves.elim

/-- What survives moves of the clock survives where it stands still. -/
theorem ScriptInvariant.standing {A : Nat → Prop} {I : World → Prop}
    (inv : ScriptInvariant True A I) : ScriptInvariant False A fun w => I w ∧ w.Paced False where
  admits h := inv.admits h.1
  books hf h := ⟨inv.books hf h.1, h.2⟩
  graphics same h := ⟨inv.graphics same h.1, h.2⟩
  makes admitted h := ⟨inv.makes admitted h.1, h.2⟩
  hands handles held h := ⟨inv.hands handles held h.1, h.2⟩
  guards h := ⟨inv.guards h.1, h.2⟩
  paced h := h.2
  fresh h := inv.fresh h.1
  adds h := ⟨inv.adds h.1, h.2⟩
  stops h := ⟨inv.stops h.1, h.2⟩
  names admitted h := ⟨inv.names admitted h.1, h.2⟩
  process admitted vacant h := ⟨inv.process admitted vacant h.1, h.2⟩
  objects paced h := ⟨inv.objects (fun x _ => Step.allPaced_of_free trivial x.hook) h.1, paced⟩
  outside h := ⟨inv.outside h.1, h.2⟩
  forward moves := moves.elim
  rings moves := moves.elim
  rewinds moves := moves.elim

namespace World.Still

variable {w w' : World} {A : Nat → Prop} {I : World → Prop} {α : Type} {x : Effect α}

theorem of_agrees
    (h : ∀ {A I}, ScriptInvariant False A I → I w → Agrees (fun w v => v = w ∧ I w) x w w) :
    w.Still (left x w) :=
  ⟨fun inv holds => (h inv holds).left.2⟩

theorem paced (still : w.Still w') (paced : w.Paced False) : w'.Paced False :=
  still.holds invariant_paced paced

theorem keeps (still : w.Still w') (inv : ScriptInvariant True A I) (paced : w.Paced False)
    (h : I w) : I w' :=
  (still.holds inv.standing ⟨h, paced⟩).1

theorem outside (w : World) (storageBroken tracing : Bool) (swapOuts : List SwapOutReport) :
    w.Still { w with storageBroken, tracing, swapOuts } :=
  ⟨fun inv h => inv.outside h⟩

end World.Still

section Effects

variable {w : World} {g m : Nat} (depth : Nat)

theorem still_perform (instruction : Instruction) (paced : instruction.Paced False) (w : World) :
    w.Still (left (perform (ask depth) instruction) w) :=
  .of_agrees fun inv h =>
    agrees_perform inv.scripted (takes_ask False depth) instruction paced ⟨rfl, h⟩

theorem still_attempt (m : Nat) (w : World) : w.Still (left (Sweep.attempt (ask depth) m) w) :=
  .of_agrees fun inv h => inv.scripted.attempt (takes_ask False depth inv.scripted) ⟨rfl, h⟩

theorem still_hold (known : w.isAlive (w.graphic g).manager = true) :
    w.Still { w with held := g :: w.held } := by
  constructor
  intro A I inv h
  have lib := inv.library
  refine inv.hands (lib.handles_admitted ⟨rfl, h⟩) (fun k hk => ?_) h
  rcases List.mem_cons.1 hk with rfl | old
  · exact inv.admits h known
  · exact lib.held_admitted ⟨rfl, h⟩ k old

theorem still_letGo (g : Nat) (w : World) : w.Still (left (Handling.letGo g) w) :=
  .of_agrees fun inv h => inv.library.letGo ⟨rfl, h⟩

theorem still_beginOperation (g : Nat) (w : World) :
    w.Still (left (Swapping.beginOperation g) w) :=
  .of_agrees fun inv h => inv.library.beginOperation ⟨rfl, h⟩

theorem still_endOperation (g : Nat) (w : World) : w.Still (left (Swapping.endOperation g) w) :=
  .of_agrees fun inv h => inv.library.endOperation ⟨rfl, h⟩

theorem still_fetch (g : Nat) (w : World) : w.Still (left (Swapping.fetch g) w) :=
  .of_agrees fun inv h => inv.library.fetch ⟨rfl, h⟩

end Effects

/-! ## Ticks -/

/-- The interval of the timer of a manager. -/
def World.interval (w : World) (m : Nat) : Int := (w.manager m).config.swapInterval.nanos

/-- The timer of a manager rings; the world it rings in. -/
structure Tick where
  manager : Nat
  world : World

namespace Tick

def now (t : Tick) : Moment := t.world.now

/-- The interval of the timer that rings. -/
def interval (t : Tick) : Int := t.world.interval t.manager

end Tick

section Tick

variable {ask : ObjectRef → Effect Unit} {m : Nat} {w v : World}

theorem Sweep.tick_of_ok
    (h : Sweep.attempt ask m (w.updateManager m (·.setTimer .sweeping)) = .ok () v) :
    Sweep.tick ask m w = .ok () (v.updateManager m (·.rewindTimer v.now)) :=
  bind_of_ok h

/-- A halt keeps the timer from being wound. -/
theorem Sweep.tick_of_error {e : Halt}
    (h : Sweep.attempt ask m (w.updateManager m (·.setTimer .sweeping)) = .error e v) :
    Sweep.tick ask m w = .error e v := by
  unfold Sweep.tick
  rw [change_bind_apply]
  exact bind_of_error h

/-- What holds after the sweep of a tick, and when a timer is wound, holds after the tick. -/
theorem Sweep.left_tick {P : World → Prop}
    (swept : P (left (Sweep.attempt ask m) (w.updateManager m (·.setTimer .sweeping))))
    (winds : ∀ v, P v → P (v.updateManager m (·.rewindTimer v.now))) :
    P (left (Sweep.tick ask m) w) := by
  cases attempted : Sweep.attempt ask m (w.updateManager m (·.setTimer .sweeping)) with
  | ok a v =>
    rw [left_of_ok attempted] at swept
    rw [left_of_ok (Sweep.tick_of_ok attempted)]
    exact winds v swept
  | error e v =>
    rw [left_of_error attempted] at swept
    rwa [left_of_error (Sweep.tick_of_error attempted)]

end Tick

/-- The ticks that come when the timers of managers are looked at one after the other. A halt is the
end of them. -/
def Sweep.ticks (ask : ObjectRef → Effect Unit) : List Nat → World → List Tick
  | [], _ => []
  | m :: rest, w =>
    if w.isAlive m && (w.manager m).timer.isDue w.now then
      ⟨m, w⟩ :: match Sweep.tick ask m w with
        | .ok _ w' => ticks ask rest w'
        | .error _ _ => []
    else ticks ask rest w

/-- No timer is looked at twice. -/
theorem Sweep.managers_of_ticks (ask : ObjectRef → Effect Unit) (managers : List Nat) (w : World) :
    ((Sweep.ticks ask managers w).map Tick.manager).Sublist managers := by
  induction managers generalizing w with
  | nil => exact .slnil
  | cons m managers ih =>
    unfold Sweep.ticks
    split
    · rw [List.map_cons]
      apply List.Sublist.cons_cons
      split
      · exact ih _
      · exact List.nil_sublist _
    · exact (ih w).cons m

/-- A move of the clock, and the world in which it is moved. -/
structure Advance where
  world : World
  span : Span

namespace Advance

/-- The world in which timers are looked at. -/
def late (a : Advance) : World := { a.world with now := a.world.now + a.span.nanos }

def ticks (ask : ObjectRef → Effect Unit) (a : Advance) : List Tick :=
  Sweep.ticks ask (List.range a.world.managers.size) a.late

end Advance

/-! ## Timelines -/

/-- From one world to a later one, with the moves of the clock in between, the first one first. -/
inductive Timeline (ask : ObjectRef → Effect Unit) (v : World) : List Advance → World → Prop where
  | start : Timeline ask v [] v
  | still {advances w w'} (timeline : Timeline ask v advances w) (still : w.Still w') :
      Timeline ask v advances w'
  | advance {advances w} (timeline : Timeline ask v advances w) (span : Span) :
      Timeline ask v (advances ++ [⟨w, span⟩]) (left (Sweep.advance ask span) w)

/-- The ticks of some moves of the clock, the first one first. -/
def ticksOf (ask : ObjectRef → Effect Unit) (advances : List Advance) : List Tick :=
  advances.flatMap (Advance.ticks ask)

theorem Timeline.trans {ask : ObjectRef → Effect Unit} {u v w : World} {early late : List Advance}
    (first : Timeline ask u early v) (second : Timeline ask v late w) :
    Timeline ask u (early ++ late) w := by
  induction second with
  | start => rwa [List.append_nil]
  | still timeline still ih => exact ih.still still
  | advance timeline span ih =>
    rw [← List.append_assoc]
    exact ih.advance span

/-- From one world to a later one, told tick by tick. -/
inductive Ringing (ask : ObjectRef → Effect Unit) (v : World) : List Tick → World → Prop where
  | start : Ringing ask v [] v
  | still {ticks w w'} (ringing : Ringing ask v ticks w) (still : w.Still w') :
      Ringing ask v ticks w'
  | pass {ticks w now} (ringing : Ringing ask v ticks w) (later : w.now ≤ now) :
      Ringing ask v ticks { w with now := now }
  | ring {ticks w m} (ringing : Ringing ask v ticks w) (alive : w.isAlive m = true)
      (due : (w.manager m).timer.isDue w.now = true) :
      Ringing ask v (ticks ++ [⟨m, w⟩]) (left (Sweep.tick ask m) w)

section Ringing

variable {ask : ObjectRef → Effect Unit} {v w : World} {ticks : List Tick} {advances : List Advance}

/-- What the timers make of a move of the clock is one tick after the other. -/
theorem Ringing.tickAll (ringing : Ringing ask v ticks w) (managers : List Nat) :
    Ringing ask v (ticks ++ Sweep.ticks ask managers w) (left (Sweep.tickAll ask managers) w) := by
  induction managers generalizing ticks w with
  | nil =>
    rw [Sweep.ticks, List.append_nil]
    exact ringing
  | cons m managers ih =>
    unfold Sweep.ticks Sweep.tickAll left
    rw [get_bind_apply]
    split
    · next rings =>
      obtain ⟨alive, due⟩ := Bool.and_eq_true_iff.1 rings
      have rung := ringing.ring alive due
      rw [bind_apply]
      cases ticked : Sweep.tick ask m w with
      | ok a w' =>
        rw [left_of_ok ticked] at rung
        simpa [left] using ih rung
      | error e w' =>
        rw [left_of_error ticked] at rung
        exact rung
    · exact ih ringing

/-- A timeline is told tick by tick, too. -/
theorem Timeline.ringing (timeline : Timeline ask v advances w) :
    Ringing ask v (ticksOf ask advances) w := by
  induction timeline with
  | start => exact .start
  | still timeline still ih => exact ih.still still
  | @advance advances w timeline span ih =>
    have later : w.now ≤ w.now + span.nanos := Int.le_add_of_nonneg_right (Int.natCast_nonneg _)
    have rung := (ih.pass later).tickAll (List.range w.managers.size)
    simp only [ticksOf, List.flatMap_append, List.flatMap_singleton]
    exact rung

end Ringing

/-! ## What is known at a tick -/

section Known

variable {depth : Nat} {v w : World} {ticks : List Tick} {m : Nat} {A : Nat → Prop}
  {I : World → Prop}

theorem paced_tick (depth m : Nat) (paced : w.Paced False) :
    (left (Sweep.tick (ask depth) m) w).Paced False := by
  have rung : (w.updateManager m (·.setTimer .sweeping)).Paced False := paced
  exact Sweep.left_tick ((still_attempt depth m _).paced rung) fun _ swept => swept

/-- What survives a tick need only hold once its timer has rung. -/
theorem ScriptInvariant.tick_of_rung (inv : ScriptInvariant True A I)
    (h : I (w.updateManager m (·.setTimer .sweeping))) :
    I (left (Sweep.tick (ask depth) m) w) := by
  have sc := inv.scripted
  refine Sweep.left_tick ?_ fun v swept => inv.rewinds trivial swept
  exact (sc.attempt (takes_ask True depth sc) ⟨rfl, h⟩).left.2

theorem ScriptInvariant.tick (inv : ScriptInvariant True A I)
    (due : (w.manager m).timer.isDue w.now = true) (h : I w) :
    I (left (Sweep.tick (ask depth) m) w) :=
  inv.tick_of_rung (inv.rings trivial due h)

namespace Ringing

theorem paced (ringing : Ringing (ask depth) v ticks w) (paced : v.Paced False) :
    w.Paced False := by
  induction ringing with
  | start => exact paced
  | still ringing still ih => exact still.paced ih
  | pass ringing later ih => exact ih
  | ring ringing alive due ih => exact paced_tick _ _ ih

/-- A timer rings if it is due and its manager is kept. -/
theorem rings (ringing : Ringing (ask depth) v ticks w) (paced : v.Paced False) :
    ∀ t ∈ ticks, t.world.Paced False ∧ t.world.isAlive t.manager = true ∧
      (t.world.manager t.manager).timer.isDue t.now = true := by
  induction ringing with
  | start => exact List.forall_mem_nil _
  | still ringing still ih => exact ih
  | pass ringing later ih => exact ih
  | ring ringing alive due ih =>
    refine List.forall_mem_append.2 ⟨ih, ?_⟩
    rw [List.forall_mem_singleton]
    exact ⟨ringing.paced paced, alive, due⟩

/-- What scripts preserve holds at the end, and where timers ring. -/
theorem invariant (ringing : Ringing (ask depth) v ticks w) (paced : v.Paced False)
    (inv : ScriptInvariant True A I) (h : I v) : I w ∧ ∀ t ∈ ticks, I t.world := by
  induction ringing with
  | start => exact ⟨h, List.forall_mem_nil _⟩
  | still ringing still ih => exact ⟨still.keeps inv (ringing.paced paced) ih.1, ih.2⟩
  | pass ringing later ih => exact ⟨inv.forward trivial later ih.1, ih.2⟩
  | ring ringing alive due ih =>
    refine ⟨inv.tick due ih.1, List.forall_mem_append.2 ⟨ih.2, ?_⟩⟩
    rw [List.forall_mem_singleton]
    exact ih.1

end Ringing

theorem Timeline.paced_of_mem {advances : List Advance}
    (timeline : Timeline (ask depth) v advances w) (paced : v.Paced False) :
    ∀ a ∈ advances, a.world.Paced False := by
  induction timeline with
  | start => exact List.forall_mem_nil _
  | still timeline still ih => exact ih
  | advance timeline span ih =>
    refine List.forall_mem_append.2 ⟨ih, ?_⟩
    rw [List.forall_mem_singleton]
    exact timeline.ringing.paced paced

end Known

/-! ## Scripts -/

namespace Script

mutual

/-- The objects that the instruction makes leave the clock alone when they are asked to swap out. -/
def Instruction.Quiet : Instruction → Prop
  | .during _ steps => Step.AllQuiet steps
  | .newObject _ _ hook => Step.AllPaced False hook
  | _ => True

def Step.AllQuiet : List Step → Prop
  | [] => True
  | .mk _ instruction :: rest => instruction.Quiet ∧ Step.AllQuiet rest

end

end Script

/-- The effect is told by the clock. -/
def Timed {α : Type} (ask : ObjectRef → Effect Unit) (x : Effect α) (w : World) : Prop :=
  ∃ advances, Timeline ask w advances (left x w)

section Rules

variable {α β : Type} {ask : ObjectRef → Effect Unit} {x : Effect α} {f : α → Effect β} {w : World}

theorem World.Still.timed (still : w.Still (left x w)) : Timed ask x w := ⟨[], .still .start still⟩

theorem timed_pure (a : α) (w : World) : Timed ask (pure a : Effect α) w := ⟨[], .start⟩

namespace Timed

theorem get {f : World → Effect α} (h : Timed ask (f w) w) : Timed ask (get >>= f) w := h

theorem bind (first : Timed ask x w) (next : ∀ a v, x w = .ok a v → Timed ask (f a) v) :
    Timed ask (x >>= f) w := by
  obtain ⟨early, timeline⟩ := first
  cases done : x w with
  | ok a v =>
    rw [left_of_ok done] at timeline
    obtain ⟨late, after⟩ := next a v done
    refine ⟨early ++ late, ?_⟩
    have same : left (x >>= f) w = left (f a) v := by
      unfold left
      rw [bind_of_ok done]
    rw [same]
    exact timeline.trans after
  | error e v =>
    refine ⟨early, ?_⟩
    rw [left_of_error (bind_of_error done)]
    rwa [left_of_error done] at timeline

theorem answer (h : Timed ask x w) (f : α → β) : Timed ask (do return f (← x)) w :=
  h.bind fun a v _ => timed_pure (f a) v

theorem ensuring {cleanup : Effect Unit} (h : Timed ask x w)
    (cleans : ∀ v : World, v.Still (left cleanup v)) : Timed ask (ensuring x cleanup) w := by
  obtain ⟨advances, timeline⟩ := h
  refine ⟨advances, ?_⟩
  have same : left (Effect.ensuring x cleanup) w = left cleanup (left x w) := by
    cases done : x w with
    | ok a v =>
      rw [left_of_ok done, ← left_bind_pure cleanup a v]
      unfold left
      rw [ensuring_of_ok done]
    | error e v => rw [left_of_error done, left_of_error (ensuring_of_error done)]
  rw [same]
  exact timeline.still (cleans _)

end Timed

end Rules

section Scripts

variable {depth : Nat} {w : World}

theorem Timed.paced {α : Type} {x : Effect α} {a : α} {w' : World} (h : Timed (ask depth) x w)
    (paced : w.Paced False) (done : x w = .ok a w') : w'.Paced False := by
  obtain ⟨advances, timeline⟩ := h
  exact left_of_ok done ▸ timeline.ringing.paced paced

theorem timed_advance (span : Span) (w : World) :
    Timed (ask depth) (Sweep.advance (ask depth) span) w :=
  ⟨_, Timeline.start.advance span⟩

theorem timed_reporting {shown : String} {x : Effect Reply} (paced : w.Paced False)
    (h : ∀ v : World, v.Paced False → Timed (ask depth) x v) :
    Timed (ask depth) (reporting shown x) w := by
  have cleared : w.Still { w with swapOuts := [] } := .outside w _ _ _
  obtain ⟨advances, timeline⟩ := h _ (cleared.paced paced)
  have before := (Timeline.start.still cleared).trans timeline
  refine ⟨advances, ?_⟩
  cases done : x { w with swapOuts := [] } with
  | ok reply v =>
    rw [left_of_ok (reporting_of_ok done)]
    rw [left_of_ok done] at before
    exact before.still (.outside v _ _ _)
  | error e v =>
    rw [left_of_error done] at before
    cases e with
    | overflow e =>
      rw [left_of_ok (reporting_of_overflow done)]
      exact before.still (.outside v _ _ _)
    | exhausted =>
      rw [left_of_error (reporting_of_exhausted done)]
      exact before

/-- What is done with the payload of a graphic is told by the clock if all else takes no time. -/
theorem timed_use {α : Type} {g : Nat} {body : Payload → Effect α} (paced : w.Paced False)
    (inside : ∀ p v, World.Paced False v → Timed (ask depth) (body p) v) :
    Timed (ask depth) (Swapping.use g body) w := by
  have begun : Timed (ask depth) (Swapping.beginOperation g) w := (still_beginOperation g w).timed
  refine begun.bind fun _ v done => Timed.ensuring ?_ (still_endOperation g)
  have fetched : Timed (ask depth) (Swapping.fetch g) v := (still_fetch g v).timed
  refine fetched.bind fun r u got => ?_
  cases r with
  | error fault => exact timed_pure _ u
  | ok p => exact (inside p u (fetched.paced (begun.paced paced done) got)).answer _

theorem timed_withGraphic {name : String} {body : Nat → Effect Reply} (paced : w.Paced False)
    (h : ∀ g v, World.Paced False v → Timed (ask depth) (body g) v) :
    Timed (ask depth) (withGraphic name body) w := by
  refine Timed.get ?_
  dsimp only
  split
  · exact timed_pure _ w
  · next handle found =>
    cases handle with
    | graphic g =>
      have known : w.isAlive (w.graphic g).manager = true :=
        World.alive_of_handle (Names.mem_of_get? found)
      have held : Timed (ask depth) (change fun w => { w with held := g :: w.held }) w :=
        World.Still.timed (still_hold known)
      refine held.bind fun _ v done => Timed.ensuring (h g v ?_) (still_letGo g)
      exact held.paced paced done
    | registration m id => exact timed_pure _ w

mutual

/-- Every instruction is told by the clock. -/
theorem timed_perform (depth : Nat) (instruction : Instruction) (quiet : instruction.Quiet)
    {w : World} (paced : w.Paced False) :
    Timed (ask depth) (perform (ask depth) instruction) w := by
  cases instruction with
  | advance span => exact (timed_advance span w).answer _
  | during handle steps =>
    refine timed_withGraphic paced fun g v paced => Timed.answer (timed_use paced ?_) _
    intro p u paced
    exact (timed_performAll depth steps quiet paced).answer _
  | newObject name draft hook =>
    exact (still_perform depth (.newObject name draft hook) quiet w).timed
  | _ =>
    refine World.Still.timed (still_perform depth _ ?_ w)
    exact trivial

/-- So is every script. -/
theorem timed_performAll (depth : Nat) (steps : List Step) (quiet : Step.AllQuiet steps) {w : World}
    (paced : w.Paced False) : Timed (ask depth) (performAll (ask depth) steps) w := by
  match steps with
  | [] => exact timed_pure _ w
  | .mk shown instruction :: rest =>
    have reported : Timed (ask depth) (reporting shown (perform (ask depth) instruction)) w :=
      timed_reporting paced fun v paced => timed_perform depth instruction quiet.1 paced
    refine reported.bind fun (report, ended) v done => ?_
    dsimp only
    split
    · exact (timed_performAll depth rest quiet.2 (reported.paced paced done)).answer _
    · exact timed_pure _ v

end

end Scripts

end GraphicCache
