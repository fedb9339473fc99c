/-
Operations that hold graphics. At every moment of every run the count of a graphic's operations is
the number of its guards and of the readings of it that are in progress. Each beginning is paired
with one end, also where a reading fails or halts, where a guard takes the name of another, and
where all handles of the graphic are gone. And while the count is above zero no step takes the
graphic out of memory, for a graphic is swapped out only when no operation holds it.
-/
import GraphicCache.Proofs.Content
import GraphicCache.Proofs.Run.Owners

namespace GraphicCache.Run

open Effect

variable {w w' : World} {m g id : Nat} {c d : State} {a : Action} {acts : List Action}

/-! ## The tally -/

/-- The graphic that a call reads. -/
def Call.reads? : Call → Option Nat
  | .reading g => some g
  | _ => none

/-- The graphics that are read, one entry for each reading in progress. -/
def readings (calls : List Call) : List Nat := calls.filterMap Call.reads?

/-- The guards have different names, and the count of a graphic's operations is the number of its
guards and of its entries in a list of further operations. -/
structure Tallied (further : List Nat) (w : World) : Prop where
  distinct : (w.guards.map Prod.fst).Nodup
  counted : ∀ g, (w.graphic g).operations = (w.guards.map Prod.snd).count g + further.count g

namespace Tallied

variable {further : List Nat}

theorem congr (h : Tallied further w) (graphics : w'.graphics = w.graphics)
    (guards : w'.guards = w.guards) : Tallied further w' := by
  refine ⟨guards ▸ h.distinct, fun g => ?_⟩
  have same : w'.graphic g = w.graphic g := by
    unfold World.graphic
    rw [graphics]
  rw [same, guards]
  exact h.counted g

theorem updateGraphic (h : Tallied further w) (g : Nat) {f : Graphic → Graphic}
    (hf : ∀ x, (f x).operations = x.operations) : Tallied further (w.updateGraphic g f) :=
  ⟨h.distinct, fun k => (w.updateGraphic_keeps (q := Graphic.operations) g k hf).trans (h.counted k)⟩

theorem addGraphic (h : Tallied further w) {x : Graphic} (free : x.operations = 0) :
    Tallied further (w.addGraphic x) := by
  refine ⟨h.distinct, fun k => ?_⟩
  have before := h.counted k
  rw [World.graphic_addGraphic]
  split
  -- what was not made before had no operations either
  · next new =>
    rw [w.graphic_of_size_le k (Nat.le_of_eq new.symm)] at before
    exact free.trans before
  · exact before

/-- An operation that ends is counted, and so it is one of a graphic that was made. -/
theorem made (h : Tallied (g :: further) w) : g < w.graphics.size := by
  by_contra absent
  have counted := h.counted g
  rw [w.graphic_of_size_le g (by omega), List.count_cons_self] at counted
  simp at counted

theorem begins (h : Tallied further w) (made : g < w.graphics.size) :
    Tallied (g :: further) (left (Swapping.beginOperation g) w) := by
  refine ⟨h.distinct, fun k => ?_⟩
  have before := h.counted k
  show ((w.updateGraphic g _).graphic k).operations = (w.guards.map Prod.snd).count k + _
  rw [World.graphic_updateGraphic, List.count_cons]
  by_cases same : g = k
  · subst same
    rw [if_pos ⟨rfl, made⟩]
    simp only [beq_self_eq_true, if_true]
    omega
  · rw [if_neg fun both => same both.1]
    simpa [same] using before

theorem ends (h : Tallied (g :: further) w) :
    Tallied further (left (Swapping.endOperation g) w) := by
  refine ⟨h.distinct, fun k => ?_⟩
  have before := h.counted k
  show ((w.updateGraphic g _).graphic k).operations = (w.guards.map Prod.snd).count k + _
  rw [World.graphic_updateGraphic]
  rw [List.count_cons] at before
  by_cases same : g = k
  · subst same
    rw [if_pos ⟨rfl, h.made⟩]
    simp only [beq_self_eq_true, if_true] at before
    show (w.graphic g).operations - 1 = _
    omega
  · rw [if_neg fun both => same both.1]
    simpa [same] using before

end Tallied

/-- Swapping and the rest have no part in the tally. -/
theorem everyday_tallied (further : List Nat) : Everyday (Tallied further) where
  manager _ h := h.congr rfl rfl
  out _ _ h := h.updateGraphic _ fun _ => rfl
  back _ h := h.updateGraphic _ fun _ => rfl
  used h := h.updateGraphic _ fun _ => rfl
  hands _ _ h := h.congr rfl rfl
  clock _ h := h.congr rfl rfl

namespace Tallied

variable {further : List Nat}

/-! ## Operations that come and go -/

/-- Whether a reading fails, halts or comes to its end, its operation ends with it. -/
theorem peek (h : Tallied further w) (made : g < w.graphics.size) :
    Tallied further (left (Swapping.use g pure) w) := by
  rw [Swapping.left_use]
  exact ends ((everyday_tallied _).fetch _ (h.begins made))

/-- A guard begins an operation, and ends that of a guard whose name it takes. -/
theorem guard (h : Tallied further w) (made : g < w.graphics.size) (guard : String) :
    Tallied further (left (Script.beginOperation guard g) w) := by
  have begun := h.begins made
  generalize hv : left (Swapping.beginOperation g) w = v at begun
  have distinct := Names.distinct_put begun.distinct guard g
  have begins : Swapping.beginOperation g w = .ok () v := hv ▸ rfl
  rw [left_beginOperation guard begins]
  cases found : v.guards.get? guard with
  | none =>
    refine ⟨distinct, fun k => ?_⟩
    have counted := begun.counted k
    show (v.graphic k).operations = ((v.guards.put guard g).map Prod.snd).count k + _
    rw [Names.put, Names.erase_of_unused found, List.map_cons]
    simp only [List.count_cons] at counted ⊢
    omega
  | some old =>
    have replaced : Tallied (old :: further) { v with guards := v.guards.put guard g } := by
      refine ⟨distinct, fun k => ?_⟩
      have counted := begun.counted k
      have others := ((Names.perm_erase begun.distinct found).map Prod.snd).count_eq k
      show (v.graphic k).operations = ((v.guards.put guard g).map Prod.snd).count k + _
      rw [others] at counted
      rw [Names.put]
      simp only [List.map_cons, List.count_cons] at counted ⊢
      omega
    exact replaced.ends

/-- The end of a guard is the end of its operation. -/
theorem unguard (h : Tallied further w) (guard : String) :
    Tallied further (left (Script.endOperation guard) w) := by
  rw [left_endOperation]
  cases found : w.guards.get? guard with
  | none => exact h
  | some g =>
    have ended : Tallied (g :: further) { w with guards := w.guards.erase guard } := by
      refine ⟨Names.distinct_erase h.distinct guard, fun k => ?_⟩
      have counted := h.counted k
      rw [((Names.perm_erase h.distinct found).map Prod.snd).count_eq k] at counted
      show (w.graphic k).operations = ((w.guards.erase guard).map Prod.snd).count k + _
      simp only [List.map_cons, List.count_cons] at counted ⊢
      omega
    exact ended.ends

/-- No operation of a program leaves the tally wrong. -/
theorem effect (h : Tallied further w) (rooted : Rooted w) {o : Op} (ready : o.Ready w) :
    Tallied further (left o.effect w) := by
  refine (everyday_tallied further).effect ready h (fun pins => ?_) (fun g lastUsed _ => ?_)
    (fun g p _ => ?_) (fun g f _ _ _ => ?_) (fun g _ => ?_) (fun name handle id _ => ?_)
    (fun config timer => ?_) fun f is => ?_
  · cases o with
    | peek g => exact left_peek g w ▸ h.peek (rooted.held ready)
    | beginOperation g guard => exact left_guard g guard w ▸ h.guard (rooted.held ready) guard
    | endOperation guard => exact left_unguard guard w ▸ h.unguard guard
    | _ => exact pins.elim
  · exact h.updateGraphic g fun _ => rfl
  · exact h.updateGraphic g fun _ => rfl
  · exact h.updateGraphic g fun _ => rfl
  · exact h.congr rfl rfl
  · exact h.congr rfl rfl
  · exact h.congr rfl rfl
  · subst is
    exact h.congr ready.graphics ready.guards

end Tallied

/-! ## The tally along runs -/

/-- After a halt the readings go on that were in progress. -/
theorem readings_home (s : List Call) : readings (home s) = readings s := by
  induction s with
  | nil => rfl
  | cons call s ih =>
    cases call with
    | entering | sweeping => exact ih
    | reading | swappingOut => rfl

/-- What a step does to graphics and to their operations: it is an operation of the program, it
makes a graphic, a reading begins or ends, or it is a step of sweeps, calls and accounts, which swap
out and book at most. -/
inductive Conduct (c : State) (a : Action) (d : State) : Prop
  | operates {o : Op} (done : a = .op o ∨ a = .halt (some o)) (ready : o.Ready c.world)
      (world : d.world = left o.effect c.world)
      (same : readings d.calls = readings c.calls)
  | makes {m id g : Nat} {content : Content}
      (source : (∃ o : Origin, (∀ p, o.gift = some p → p.Fits) ∧ content = o.content c.world.now) ∨
        ∃ h, (c.world.graphic h).duplicate c.world.now = .ok content)
      (made : Swapping.create m content c.world = .ok (id, g) d.world)
      (same : readings d.calls = readings c.calls)
  | begins {g : Nat} (held : c.world.isHeld g = true)
      (world : d.world = left (Swapping.fetch g) (left (Swapping.beginOperation g) c.world))
      (more : readings d.calls = g :: readings c.calls)
  | ends {g : Nat} (world : d.world = left (Swapping.endOperation g) c.world)
      (fewer : readings c.calls = g :: readings d.calls)
  | rest (keeps : ∀ {I : World → Prop}, Everyday I →
        (∀ {w : World} {m : Nat} {f : Manager → Manager}, I w → I (w.updateManager m f)) →
        I c.world → I d.world)
      (same : readings d.calls = readings c.calls)

theorem Step.conduct (step : Step c a d) : Conduct c a d := by
  cases step with
  | op free ready done => exact .operates (.inl rfl) ready (left_of_ok done).symm rfl
  | opHalts free ready halts => exact .operates (.inr rfl) ready (left_of_error halts).symm rfl
  | make free there fits made => exact .makes (.inl ⟨_, fits, rfl⟩) made rfl
  | copy free there held duplicated made => exact .makes (.inr ⟨_, duplicated⟩) made rfl
  | enlist free there fresh =>
    exact .rest (fun ev _ => (Accounting.preserves_freshId ev.manager).ok fresh) rfl
  | settle done => exact .rest (fun ev blind => (ev.book blind).ok done) rfl
  | settleHalts halts =>
    exact .rest (fun ev blind => (ev.book blind).error halts) (readings_home _)
  | @enter s w v w' g p free held begun fetched =>
    refine .begins held ?_ rfl
    rw [left_of_ok begun, left_of_ok fetched]
  | leave done => exact .ends (left_of_ok done).symm rfl
  | call | answer | skip | askScripted | look => exact .rest (fun _ _ => id) rfl
  | answerHalts => exact .rest (fun _ _ => id) (readings_home _)
  | sweep | suppress => exact .rest (fun _ blind => blind) rfl
  | ask asked done => exact .rest (fun ev _ => ev.swapOut.ok done) rfl
  | askHalts asked halts => exact .rest (fun ev _ => ev.swapOut.error halts) (readings_home _)
  | finish ended done => exact .rest (fun ev blind => (ev.finish blind).ok done) rfl
  | finishHalts ended halts =>
    exact .rest (fun ev blind => (ev.finish blind).error halts) (readings_home _)

theorem Tallied.step (h : Tallied (readings c.calls) c.world) (orderly : Orderly c)
    (step : Step c a d) : Tallied (readings d.calls) d.world := by
  cases step.conduct with
  | operates _ ready world same =>
    rw [same, world]
    exact h.effect orderly.world ready
  | makes _ made same =>
    obtain ⟨-, -, created⟩ := Swapping.create_ok made
    rw [same, created]
    exact ((everyday_tallied _).manager Accounting.tame_takeId h).addGraphic rfl
  | begins held world more =>
    rw [more, world]
    exact (everyday_tallied _).fetch _ (h.begins (orderly.world.held held))
  | ends world fewer =>
    rw [fewer] at h
    rw [world]
    exact h.ends
  | rest keeps same =>
    rw [same]
    exact keeps (everyday_tallied _) (fun h => h.congr rfl rfl) h

theorem tallied_start (environment : Names String) : Tallied [] (World.start environment) := by
  refine ⟨List.nodup_nil, fun g => ?_⟩
  rw [World.graphic_of_size_le (World.start environment) g (Nat.zero_le g)]
  rfl

/-- In every run operations are counted as they are. -/
theorem Reached.tallied {environment : Names String} (reached : Reached environment acts c) :
    Tallied (readings c.calls) c.world := by
  have both : Orderly c ∧ Tallied (readings c.calls) c.world := by
    refine reached.invariant (P := fun c => Orderly c ∧ Tallied (readings c.calls) c.world)
      ⟨orderly_start environment, tallied_start environment⟩ ?_
    rintro c a d ⟨orderly, tallied⟩ step
    exact ⟨orderly.step step, tallied.step orderly step⟩
  exact both.2

/-! ## What is in use stays in memory -/

/-- The graphic is not swapped out. -/
def Inside (g : Nat) (w : World) : Prop := (w.graphic g).swappedOut = false

/-- An operation holds the graphic, which is not swapped out. -/
def InUse (g : Nat) (w : World) : Prop := 0 < (w.graphic g).operations ∧ Inside g w

theorem Inside.congr (h : Inside g w) (graphics : w'.graphics = w.graphics) : Inside g w' := by
  unfold Inside World.graphic
  rw [graphics]
  exact h

theorem Inside.updateGraphic (h : Inside g w) (k : Nat) {f : Graphic → Graphic}
    (hf : ∀ x : Graphic, (f x).swappedOut = x.swappedOut) : Inside g (w.updateGraphic k f) :=
  (w.updateGraphic_keeps (q := fun x => x.swappedOut) k g hf).trans h

theorem InUse.congr (h : InUse g w) (graphics : w'.graphics = w.graphics) : InUse g w' := by
  refine ⟨?_, h.2.congr graphics⟩
  unfold World.graphic
  rw [graphics]
  exact h.1

theorem InUse.updateGraphic (h : InUse g w) (k : Nat) {f : Graphic → Graphic}
    (operations : ∀ x : Graphic, x.operations ≤ (f x).operations)
    (inside : ∀ x : Graphic, (f x).swappedOut = x.swappedOut) : InUse g (w.updateGraphic k f) := by
  refine ⟨?_, h.2.updateGraphic k inside⟩
  rw [World.graphic_updateGraphic]
  split
  · exact Nat.lt_of_lt_of_le h.1 (operations _)
  · exact h.1

/-- The content of some graphic changes; of one in use only to a content in memory. -/
theorem InUse.setContent (h : InUse g w) {k : Nat} {content : Content}
    (inside : k = g → content.swappedOut = false) : InUse g (w.setContent k content) := by
  unfold InUse Inside World.setContent
  rw [World.graphic_updateGraphic]
  split
  · next same => exact ⟨h.1, inside same.1⟩
  · exact h

/-- A graphic is swapped out only while no operation holds it, so what is in use stays so. -/
theorem everyday_inUse (g : Nat) : Everyday (InUse g) where
  manager _ h := h.congr rfl
  out {w k canStore content freed} free out h := by
    refine h.setContent ?_
    rintro rfl
    exact absurd free (Nat.ne_of_gt h.1)
  back {w k id content restored} back h := by
    obtain ⟨p, -, -, -, -, inside, -⟩ := Content.restore_ok back
    exact h.setContent fun _ => inside
  used h := h.updateGraphic _ (fun _ => Nat.le_refl _) fun _ => rfl
  hands _ _ h := h.congr rfl
  clock _ h := h.congr rfl

namespace Inside

/-- The content of some graphic changes; of one in memory only to a content in memory. -/
theorem setContent (h : Inside g w) {k : Nat} {content : Content}
    (inside : k = g → content.swappedOut = false) : Inside g (w.setContent k content) := by
  unfold Inside World.setContent
  rw [World.graphic_updateGraphic]
  split
  · next same => exact inside same.1
  · exact h

/-- Nothing is taken out of memory where something comes back. -/
theorem swapIn (h : Inside g w) (k : Nat) : Inside g (left (Swapping.swapIn k) w) := by
  rcases Swapping.left_swapIn k w with stays | ⟨content, restored, back, moves⟩
  · rwa [stays]
  · obtain ⟨p, -, -, -, -, inside, -⟩ := Content.restore_ok back
    rw [moves]
    exact Accounting.preserves_credit (fun _ h => h.congr rfl) _ (h.setContent fun _ => inside)

theorem fetch (h : Inside g w) (k : Nat) : Inside g (left (Swapping.fetch k) w) := by
  have used : Inside g (w.updateGraphic k fun x => { x with lastUsed := w.now }) :=
    h.updateGraphic k fun _ => rfl
  rw [Swapping.left_fetch]
  exact used.swapIn k

/-- An operation that begins takes nothing out of memory. -/
theorem begins (h : Inside g w) (k : Nat) : Inside g (left (Swapping.beginOperation k) w) :=
  h.updateGraphic k fun _ => rfl

/-- Neither does one that ends. -/
theorem ends (h : Inside g w) (k : Nat) : Inside g (left (Swapping.endOperation k) w) :=
  h.updateGraphic k fun _ => rfl

theorem peek (h : Inside g w) (k : Nat) : Inside g (left (Swapping.use k pure) w) := by
  rw [Swapping.left_use]
  exact ((h.begins k).fetch k).ends k

theorem guard (h : Inside g w) (k : Nat) (guard : String) :
    Inside g (left (Script.beginOperation guard k) w) := by
  have begun := h.begins k
  generalize hv : left (Swapping.beginOperation k) w = v at begun
  have begins : Swapping.beginOperation k w = .ok () v := hv ▸ rfl
  rw [left_beginOperation guard begins]
  cases v.guards.get? guard with
  | none => exact begun.congr rfl
  | some old => exact Inside.ends (begun.congr rfl) old

theorem unguard (h : Inside g w) (guard : String) :
    Inside g (left (Script.endOperation guard) w) := by
  rw [left_endOperation]
  cases w.guards.get? guard with
  | none => exact h
  | some k => exact Inside.ends (h.congr rfl) k

end Inside

namespace InUse

/-- No operation of a program swaps out what is in use, though it may end its use. -/
theorem effect (h : InUse g w) {o : Op} (ready : o.Ready w) : Inside g (left o.effect w) := by
  by_cases pins : o.Pins
  · cases o with
    | peek k => exact left_peek k w ▸ h.2.peek k
    | beginOperation k guard => exact left_guard k guard w ▸ h.2.guard k guard
    | endOperation guard => exact left_unguard guard w ▸ h.2.unguard guard
    | _ => exact pins.elim
  · refine And.right ((everyday_inUse g).effect ready h (fun pinned => absurd pinned pins)
      (fun k lastUsed _ => ?_) (fun k p _ => ?_) (fun k f _ _ _ => ?_) (fun k _ => ?_)
      (fun name handle id _ => ?_) (fun config timer => ?_) fun f is => ?_)
    · exact h.updateGraphic k (fun _ => Nat.le_refl _) fun _ => rfl
    · exact h.setContent fun _ => rfl
    · exact h.updateGraphic k (fun _ => Nat.le_refl _) fun _ => rfl
    · exact h.congr rfl
    · exact h.congr rfl
    · exact h.congr rfl
    · subst is
      exact h.congr ready.graphics

/-- Making a graphic leaves those in use where they are. -/
theorem create (h : InUse g w) {content : Content} {k : Nat}
    (made : Swapping.create m content w = .ok (id, k) w') : InUse g w' := by
  obtain ⟨rfl, rfl, rfl⟩ := Swapping.create_ok made
  have old : g ≠ w.graphics.size := by
    rintro rfl
    have used := h.1
    rw [w.graphic_of_size_le _ (Nat.le_refl _)] at used
    exact Nat.lt_irrefl 0 used
  have same : ((w.updateManager m Manager.takeId).addGraphic
      ⟨content, (w.manager m).nextId, m, 0⟩).graphic g = w.graphic g := by
    rw [World.graphic_addGraphic]
    exact if_neg old
  unfold InUse Inside
  rw [same]
  exact h

end InUse

/-- No step swaps out a graphic that is in use. -/
theorem Step.stays (step : Step c a d) (h : InUse g c.world) : Inside g d.world := by
  have ev := everyday_inUse g
  cases step.conduct with
  | operates _ ready world same =>
    rw [world]
    exact h.effect ready
  | makes _ made same => exact (h.create made).2
  | begins held world more =>
    rw [world]
    exact (h.2.begins _).fetch _
  | ends world fewer =>
    rw [world]
    exact h.2.ends _
  | rest keeps same => exact (keeps ev (fun h => h.congr rfl) h).2

/-- While a reading of a graphic is in progress an operation holds the graphic. -/
theorem Reached.held_by_reading {environment : Names String} (reached : Reached environment acts c)
    (reading : .reading g ∈ c.calls) : 0 < (c.world.graphic g).operations := by
  have listed : g ∈ readings c.calls := List.mem_filterMap.2 ⟨_, reading, rfl⟩
  have counted := reached.tallied.counted g
  have positive := List.count_pos_iff.2 listed
  omega

/-- So does a guard. -/
theorem Reached.held_by_guard {environment : Names String} (reached : Reached environment acts c)
    {name : String} (guard : (name, g) ∈ c.world.guards) : 0 < (c.world.graphic g).operations := by
  have listed : g ∈ c.world.guards.map Prod.snd := List.mem_map.2 ⟨_, guard, rfl⟩
  have counted := reached.tallied.counted g
  have positive := List.count_pos_iff.2 listed
  omega

/-- Whatever happens above a reading, the graphic that is read stays in memory. -/
theorem Reached.stays_while_read {environment : Names String} (reached : Reached environment acts c)
    {base : List Call} {acts' : List Action} (path : Path base c acts' d)
    (reading : .reading g ∈ base) (inside : Inside g c.world) : Inside g d.world := by
  induction path with
  | refl => exact inside
  | snoc path step above ih =>
    have before : Reached environment _ _ := Path.trans reached (path.lower List.nil_suffix)
    exact step.stays ⟨before.held_by_reading (path.above.subset reading), ih⟩

/-- At every moment of every run the guards have different names, and the count of a graphic's
operations is the number of its guards and of its readings in progress: whatever ends an operation
finds the count above zero. No step of any kind takes a graphic out of memory while the count is
above zero, and nothing that happens inside of a reading takes out what is read. -/
theorem busy_graphics_stay {environment : Names String} (reached : Reached environment acts c)
    (g : Nat) :
    (c.world.guards.map Prod.fst).Nodup ∧
    (c.world.graphic g).operations =
      (c.world.guards.map Prod.snd).count g + (readings c.calls).count g ∧
    ((∃ name, (name, g) ∈ c.world.guards) ∨ .reading g ∈ c.calls →
      0 < (c.world.graphic g).operations) ∧
    (∀ a d, Step c a d → 0 < (c.world.graphic g).operations →
      (c.world.graphic g).swappedOut = false → (d.world.graphic g).swappedOut = false) ∧
    ∀ base acts' d, Path base c acts' d → .reading g ∈ base →
      (c.world.graphic g).swappedOut = false → (d.world.graphic g).swappedOut = false := by
  obtain ⟨distinct, counted⟩ := reached.tallied
  refine ⟨distinct, counted g, ?_, ?_, ?_⟩
  · rintro (⟨name, guard⟩ | reading)
    · exact reached.held_by_guard guard
    · exact reached.held_by_reading reading
  · intro a d step positive inside
    exact step.stays ⟨positive, inside⟩
  · intro base acts' d path reading inside
    exact reached.stays_while_read path reading inside

/-- A bitmap that has a guard and is read is asked to swap out, and stays in memory. -/
theorem guarded_bitmap_stays :
    ∃ acts c d, Reached [] acts c ∧ Step c (.op (.swapOut 0)) d ∧
      c.world.guards = [("guard", 0)] ∧ c.calls = [.reading 0] ∧
      (c.world.graphic 0).operations = 2 ∧ (c.world.graphic 0).swappedOut = false ∧
      (d.world.graphic 0).swappedOut = false := by
  have managed := (reached_start []).next (.op (o := .addManager .builtIn false) rfl trivial rfl)
  have made := managed.next (.make (m := 0) (o := .payload (.bitmap ⟨1, 1, 8, ⟨#[7]⟩⟩))
    rfl (by decide) (by rintro p ⟨⟩; decide) rfl)
  have settled := made.next (.settle rfl)
  have bound := settled.next (.op (o := .bind "picture" (.graphic 0) 1) rfl (.inr (by decide)) rfl)
  have guarded := bound.next (.op (o := .beginOperation 0 "guard") rfl rfl rfl)
  have read := guarded.next (.enter (g := 0) rfl rfl rfl rfl)
  obtain ⟨-, counted, -, stays, -⟩ := busy_graphics_stay read 0
  refine ⟨_, _, _, read, .op (o := .swapOut 0) rfl rfl rfl, rfl, rfl, counted, rfl, ?_⟩
  exact stays _ _ (.op (o := .swapOut 0) rfl rfl rfl) (by rw [counted]; decide) rfl

end GraphicCache.Run
