/-
Recent use protects a graphic. Every way to a payload notes the time: making a graphic, reading it,
bringing it back into memory, giving it another payload, and touching it. Nothing but a program that
marks a graphic as used at some other time takes that back, so for all that happens in between no
sweep swaps a graphic out that was used within the allowed time, however short of memory its manager
is.
-/
import GraphicCache.Proofs.Run.Operations
import GraphicCache.Proofs.Run.Sites
import GraphicCache.Proofs.Sweep.Course

namespace GraphicCache

namespace Run

open Effect

/-! ## Use -/

/-- The step uses a graphic: it makes it, reads it, brings it back into memory, gives it a payload, or
touches it. An operation that comes to a halt has used the graphic before. -/
inductive Refreshes (g : Nat) : Taken → Prop
  | made {c d origin} (new : g = c.world.graphics.size) : Refreshes g ⟨c, .make origin, d⟩
  | copied {c d source} (new : g = c.world.graphics.size) : Refreshes g ⟨c, .copy source, d⟩
  | read {c d} : Refreshes g ⟨c, .enter g, d⟩
  | peeked {c a d} (peeks : a = .op (.peek g) ∨ a = .halt (some (.peek g))) : Refreshes g ⟨c, a, d⟩
  | restored {c a d} (swaps : a = .op (.swapIn g) ∨ a = .halt (some (.swapIn g)))
      (out : (c.world.graphic g).swappedOut = true)
      (back : (d.world.graphic g).swappedOut = false) : Refreshes g ⟨c, a, d⟩
  | replaced {c a d p} (replaces : a = .op (.replace g p) ∨ a = .halt (some (.replace g p))) :
      Refreshes g ⟨c, a, d⟩
  | touched {c d} : Refreshes g ⟨c, .op (.setLastUsed g c.world.now), d⟩

variable {environment : Names String} {past later : List Taken} {t : Taken} {c d e : State}
  {a : Action} {w v w' : World} {m g k : Nat} {since : Moment}

/-- The graphic is marked as used at another time than now. -/
def Taken.Marks (g : Nat) (t : Taken) : Prop :=
  ∃ lastUsed, t.action = .op (.setLastUsed g lastUsed) ∧ lastUsed ≠ t.before.world.now

/-- The graphic was used at a moment that is over, or later. -/
structure Fresh (g : Nat) (since : Moment) (w : World) : Prop where
  made : g < w.graphics.size
  past : since ≤ w.now
  used : since ≤ (w.graphic g).lastUsed

namespace Fresh

theorem congr (h : Fresh g since w) (now : w.now ≤ w'.now) (graphics : w'.graphics = w.graphics) :
    Fresh g since w' := by
  refine ⟨graphics ▸ h.made, Int.le_trans h.past now, ?_⟩
  unfold World.graphic
  rw [graphics]
  exact h.used

theorem updateGraphic (h : Fresh g since w) (k : Nat) {f : Graphic → Graphic}
    (hf : ∀ x : Graphic, since ≤ x.lastUsed → since ≤ (f x).lastUsed) :
    Fresh g since (w.updateGraphic k f) := by
  refine ⟨(w.size_updateGraphic k f).symm ▸ h.made, h.past, ?_⟩
  rw [World.graphic_updateGraphic]
  split
  · exact hf _ h.used
  · exact h.used

/-- Some graphic changes; the graphic itself only to a content that was used since, too. -/
theorem setContent (h : Fresh g since w) {content : Content}
    (used : k = g → since ≤ content.lastUsed) : Fresh g since (w.setContent k content) := by
  refine ⟨(w.size_updateGraphic k _).symm ▸ h.made, h.past, ?_⟩
  unfold World.setContent
  rw [World.graphic_updateGraphic]
  split
  · next same => exact used same.1
  · exact h.used

end Fresh

/-- What has nothing to do with the time of use, or notes the time, leaves what was used fresh. -/
theorem everyday_fresh (g : Nat) (since : Moment) : Everyday (Fresh g since) where
  manager _ h := h.congr (Int.le_refl _) rfl
  out {w k canStore content freed} _ out h := by
    refine h.setContent ?_
    rintro rfl
    exact Content.lastUsed_swapOut out ▸ h.used
  back {w k id content restored} back h :=
    h.setContent fun _ => Content.lastUsed_restore back ▸ h.past
  used h := h.updateGraphic _ fun _ _ => h.past
  hands _ _ h := h.congr (Int.le_refl _) rfl
  clock forward h := h.congr forward rfl

theorem usable_fresh (g : Nat) (since : Moment) : Usable (Fresh g since) where
  toInner := (everyday_fresh g since).inner
  busy h := h.updateGraphic _ fun _ used => used
  guards h := h.congr (Int.le_refl _) rfl

namespace Fresh

/-- No operation makes a graphic look idle, but the one that marks it. -/
theorem effect (h : Fresh g since w) {o : Op} (ready : o.Ready w)
    (unmarked : ∀ lastUsed, o = .setLastUsed g lastUsed → lastUsed = w.now) :
    Fresh g since (left o.effect w) := by
  have usable := usable_fresh g since
  refine (everyday_fresh g since).effect ready h (fun pins => ?_) (fun k lastUsed is => ?_)
    (fun k p _ => ?_) (fun k f _ _ _ => ?_) (fun k _ => ?_) (fun name handle id _ => ?_)
    (fun config timer => ?_) fun f is => ?_
  · cases o with
    | peek k => exact left_peek k w ▸ usable.peek w h
    | beginOperation k guard => exact left_guard k guard w ▸ usable.guard guard w h
    | endOperation guard => exact left_unguard guard w ▸ usable.unguard guard w h
    | _ => exact pins.elim
  · by_cases same : k = g
    · subst same
      exact unmarked lastUsed is ▸ usable.used h
    · refine ⟨(w.size_updateGraphic k _).symm ▸ h.made, h.past, ?_⟩
      rw [World.graphic_updateGraphic_ne _ _ _ same]
      exact h.used
  · exact h.setContent fun _ => h.past
  · exact h.updateGraphic k fun _ used => used
  · exact h.congr (Int.le_refl _) rfl
  · exact h.congr (Int.le_refl _) rfl
  · exact h.congr (Int.le_refl _) rfl
  · subst is
    exact h.congr (Int.le_of_eq ready.now.symm) ready.graphics

theorem create (h : Fresh g since w) {content : Content} {id : Nat}
    (made : Swapping.create m content w = .ok (id, k) w') : Fresh g since w' := by
  obtain ⟨-, -, rfl⟩ := Swapping.create_ok made
  have old : g < (w.updateManager m Manager.takeId).graphics.size := h.made
  refine ⟨?_, h.past, ?_⟩
  · rw [World.size_addGraphic]
    exact Nat.lt_succ_of_lt old
  · rw [World.graphic_addGraphic, if_neg (Nat.ne_of_lt old)]
    exact h.used

/-- No step makes a graphic look idle, but one that marks it. -/
theorem step (h : Fresh g since c.world) (step : Step c a d)
    (unmarked : ¬ Taken.Marks g ⟨c, a, d⟩) : Fresh g since d.world := by
  have usable := usable_fresh g since
  cases step.conduct with
  | operates done ready world same =>
    rw [world]
    refine h.effect ready fun lastUsed is => ?_
    subst is
    by_contra other
    rcases done with rfl | rfl
    · exact unmarked ⟨lastUsed, rfl, other⟩
    · cases step with
      | opHalts free ready halts => cases halts
  | makes _ made same => exact h.create made
  | begins held world more =>
    rw [world]
    exact usable.fetch _ (usable.beginOperation _ h)
  | ends world fewer =>
    rw [world]
    exact usable.endOperation _ h
  | rest keeps same =>
    exact keeps (everyday_fresh g since) (fun h => h.congr (Int.le_refl _) rfl) h

end Fresh

/-! ## What a use leaves -/

/-- A graphic is changed and its use noted. -/
theorem fresh_update (made : g < w.graphics.size) {f : Graphic → Graphic}
    (used : (f (w.graphic g)).lastUsed = w.now) : Fresh g w.now (w.updateGraphic g f) := by
  refine ⟨(w.size_updateGraphic g _).symm ▸ made, Int.le_refl _, ?_⟩
  rw [World.graphic_updateGraphic_self _ _ made]
  exact Int.le_of_eq used.symm

theorem lastUsed_content (o : Origin) (now : Moment) : (o.content now).lastUsed = now := by
  cases o <;> rfl

theorem fresh_create {content : Content} {id : Nat} (used : content.lastUsed = w.now)
    (made : Swapping.create m content w = .ok (id, g) w') : Fresh g w.now w' := by
  obtain ⟨there, graphic, -⟩ := Swapping.graphic_of_create made
  obtain ⟨-, -, rfl⟩ := Swapping.create_ok made
  refine ⟨there, Int.le_refl _, ?_⟩
  rw [graphic]
  exact Int.le_of_eq used.symm

/-- Fetching the payload of a graphic is a use, even if there is none. -/
theorem fresh_fetch (made : g < w.graphics.size) :
    Fresh g w.now (left (Swapping.fetch g) w) := by
  rw [Swapping.left_fetch]
  exact (usable_fresh g w.now).swapIn _ (fresh_update made rfl)

theorem fresh_peek (made : g < w.graphics.size) :
    Fresh g w.now (left (Swapping.use g pure) w) := by
  have begun : g < (left (Swapping.beginOperation g) w).graphics.size :=
    (w.size_updateGraphic g _).symm ▸ made
  rw [Swapping.left_use]
  exact (usable_fresh g w.now).endOperation _ (fresh_fetch begun)

/-- What was brought back into memory is used then. -/
theorem fresh_swapIn (made : g < w.graphics.size) (out : (w.graphic g).swappedOut = true)
    (back : ((left (Swapping.swapIn g) w).graphic g).swappedOut = false) :
    Fresh g w.now (left (Swapping.swapIn g) w) := by
  rcases Swapping.left_swapIn g w with stays | ⟨content, restored, moved, moves⟩
  · rw [stays, out] at back
    cases back
  · rw [moves]
    exact (usable_fresh g w.now).credit _ (fresh_update made (Content.lastUsed_restore moved))

theorem fresh_replace {p : Payload} (made : g < w.graphics.size) :
    Fresh g w.now (left (Swapping.replace g p) w) :=
  (usable_fresh g w.now).announceResize _ (fresh_update made rfl)

/-- A use leaves the graphic fresh from the moment of the use on. -/
theorem Refreshes.fresh (uses : Refreshes g ⟨c, a, d⟩) (rooted : Rooted c.world)
    (step : Step c a d) : Fresh g c.world.now d.world := by
  cases uses with
  | made new =>
    cases step with
    | make free there fits made =>
      obtain rfl := new.trans (Swapping.create_ok made).2.1.symm
      exact fresh_create (lastUsed_content _ _) made
  | copied new =>
    cases step with
    | copy free there held duplicated made =>
      obtain rfl := new.trans (Swapping.create_ok made).2.1.symm
      exact fresh_create (Content.lastUsed_duplicate duplicated) made
  | read =>
    cases step with
    | @enter s w v w' g p free held begun fetched =>
      have made : g < v.graphics.size := by
        cases begun
        exact (w.size_updateGraphic g _).symm ▸ rooted.held held
      have now : v.now = w.now := by cases begun; rfl
      exact now ▸ left_of_ok fetched ▸ fresh_fetch made
  | peeked peeks =>
    obtain ⟨ready, world⟩ := step.of_op peeks
    exact (world.trans (left_peek g _)) ▸ fresh_peek (rooted.held ready)
  | restored swaps out back =>
    obtain ⟨ready, world⟩ := step.of_op swaps
    have left := world.trans (left_bind_pure _ _ _)
    rw [left] at back ⊢
    exact fresh_swapIn (rooted.held ready) out back
  | replaced replaces =>
    obtain ⟨ready, world⟩ := step.of_op replaces
    exact world ▸ fresh_replace (rooted.held ready.1)
  | touched =>
    cases step with
    | op free ready done =>
      cases done
      exact fresh_update (rooted.held ready) rfl

/-! ## Sweeps -/

/-- What the step does is to swap the graphic out, to the end or to a halt. -/
def Taken.MovesOut (g : Nat) (t : Taken) : Prop :=
  (∃ r, Swapping.swapOut g t.before.world = .ok r t.after.world) ∨
    (∃ o, t.action = .halt o) ∧ ∃ e, Swapping.swapOut g t.before.world = .error e t.after.world

theorem Taken.MovesOut.world (moves : Taken.MovesOut g t) :
    t.after.world = left (Swapping.swapOut g) t.before.world := by
  rcases moves with ⟨r, done⟩ | ⟨-, e, halts⟩
  · exact (left_of_ok done).symm
  · exact (left_of_error halts).symm

/-- A graphic is swapped out by a step that is no operation of the program. -/
structure SweptOut (g : Nat) (t : Taken) : Prop where
  library : ∀ o, t.action ≠ .op o ∧ t.action ≠ .halt (some o)
  made : g < t.before.world.graphics.size
  inside : (t.before.world.graphic g).swappedOut = false
  out : (t.after.world.graphic g).swappedOut = true

/-- Nothing is swept out that stays as it is. -/
theorem SweptOut.changed (swept : SweptOut g ⟨c, a, d⟩)
    (same : d.world.graphic g = c.world.graphic g) : False := by
  have out := swept.out
  rw [same, swept.inside] at out
  cases out

/-- A sweep asks only graphics of its manager that it comes to, one after the other. -/
theorem SweptOut.asked {s : List Call} {target : Int} {id n : Nat} {rest : List (Nat × ObjectRef)}
    (homely : Homely ⟨.sweeping m target ((id, .graphic k) :: rest) none n :: s, w⟩)
    (out : SweptOut g ⟨⟨.sweeping m target ((id, .graphic k) :: rest) none n :: s, w⟩, a, e⟩)
    (asked : Asked w m target id (.graphic k))
    (moves : Taken.MovesOut k
      ⟨⟨.sweeping m target ((id, .graphic k) :: rest) none n :: s, w⟩, a, e⟩) :
    (w.graphic g).manager ∈ swept (.sweeping m target ((id, .graphic k) :: rest) none n :: s) ∧
      g = k ∧ Asked w (w.graphic g).manager target id (.graphic g) := by
  have own : (w.graphic k).manager = m :=
    homely m id k (List.mem_append_left _ List.mem_cons_self)
  have confined : Confined [(w.graphic k).manager] [k] w e.world :=
    moves.world ▸ .swapOut List.mem_cons_self List.mem_cons_self
  by_cases same : g = k
  · rw [same, own]
    exact ⟨List.mem_cons_self, rfl, asked⟩
  · exact (out.changed (confined.graphic g out.made (by simpa using same))).elim

/-- Only a sweep of its manager that asks a graphic which may be evicted swaps it out, apart from the
program. -/
theorem Step.asked_of_sweptOut (homely : Homely c) (step : Step c a d)
    (out : SweptOut g ⟨c, a, d⟩) :
    (c.world.graphic g).manager ∈ swept c.calls ∧ Taken.MovesOut g ⟨c, a, d⟩ ∧
      ∃ target id, Asked c.world (c.world.graphic g).manager target id (.graphic g) := by
  -- a step that changes no graphic, or none but one in memory, has swept nothing out
  have apart (m : Nat) (confined : Confined [m] [] c.world d.world) : False :=
    out.changed (confined.graphic g out.made List.not_mem_nil)
  have stays (inside : Inside g d.world) : False := by
    have out' := out.out
    rw [inside] at out'
    cases out'
  cases step with
  | op => exact absurd rfl (out.library _).1
  | opHalts => exact absurd rfl (out.library _).2
  | make free there fits made => exact (apart _ (.create List.mem_cons_self made)).elim
  | copy free there held duplicated made => exact (apart _ (.create List.mem_cons_self made)).elim
  | enlist free there fresh =>
    cases fresh
    exact (out.changed rfl).elim
  | @settle s w w' m id o done =>
    exact (apart m (left_of_ok done ▸ .book List.mem_cons_self _)).elim
  | @settleHalts s w w' m id o e halts =>
    exact (apart m (left_of_error halts ▸ .book List.mem_cons_self _)).elim
  | @enter s w v w' k p free held begun fetched =>
    have begun := left_of_ok begun ▸ Inside.begins out.inside k
    exact (stays (left_of_ok fetched ▸ begun.fetch k)).elim
  | leave done => exact (stays (left_of_ok done ▸ Inside.ends out.inside _)).elim
  | call | answer | answerHalts | skip | askScripted | look | sweep | suppress =>
    exact (out.changed rfl).elim
  | ask asked done =>
    obtain ⟨own, rfl, due⟩ := out.asked homely asked (.inl ⟨_, done⟩)
    exact ⟨own, .inl ⟨_, done⟩, _, _, due⟩
  | askHalts asked halts =>
    obtain ⟨own, rfl, due⟩ := out.asked homely asked (.inr ⟨⟨none, rfl⟩, _, halts⟩)
    exact ⟨own, .inr ⟨⟨none, rfl⟩, _, halts⟩, _, _, due⟩
  | @finish s w w' m target rest n ended done =>
    exact (apart m (left_of_ok done ▸ .finish List.mem_cons_self _)).elim
  | @finishHalts s w w' m target rest n e ended halts =>
    exact (apart m (left_of_error halts ▸ .finish List.mem_cons_self _)).elim

/-- A sweep swaps a graphic out only when it was not used for longer than allowed. -/
theorem Step.idle_of_sweptOut (homely : Homely c) (step : Step c a d)
    (swept : SweptOut g ⟨c, a, d⟩) :
    (c.world.graphic g).lastUsed +
      (Span.ofSeconds ((c.world.manager (c.world.graphic g).manager).config.allowedIdle.wholeSeconds
        + 1)).nanos ≤ c.world.now := by
  obtain ⟨-, -, target, id, -, -, evict⟩ := step.asked_of_sweptOut homely swept
  exact Profile.idle_of_evict evict

/-- What was used stays fresh as long as it is not marked. -/
theorem Onward.fresh (onward : Onward c later d) (fresh : Fresh g since c.world)
    (unmarked : ∀ t ∈ later, ¬ t.Marks g) : Fresh g since d.world := by
  induction onward with
  | refl => exact fresh
  | snoc onward step ih =>
    have before := ih fun t taken => unmarked t (List.mem_append_left _ taken)
    exact before.step step (unmarked _ (by simp))

/-- A graphic was made, read, brought back into memory, given a payload or touched at some moment.
However the run goes on, as long as the program does not mark the graphic as used at another time, no
step of a sweep swaps it out before the whole seconds of the allowed time, and one second more, are
over. And at no moment does a sweep swap a graphic out whose last use is still to come. -/
theorem recent_use_protects (history : History environment past c) (step : Step c a d) (g : Nat) :
    (Refreshes g ⟨c, a, d⟩ → ∀ later e, Onward d later e → (∀ t ∈ later, ¬ t.Marks g) →
      ∀ t ∈ later, SweptOut g t →
        c.world.now + (Span.ofSeconds ((t.before.world.manager
          (t.before.world.graphic g).manager).config.allowedIdle.wholeSeconds + 1)).nanos ≤
          t.before.world.now) ∧
    (c.world.now < (c.world.graphic g).lastUsed → ¬ SweptOut g ⟨c, a, d⟩) := by
  constructor
  · intro uses later e onward unmarked t taken swept
    have fresh := uses.fresh history.reached.orderly.world step
    obtain ⟨earlier, before, swap, first⟩ := onward.step_of_mem taken
    have still : Fresh g c.world.now t.before.world :=
      before.fresh fresh fun t listed => unmarked t (first.subset (List.mem_append_left _ listed))
    have homely := (before.history (history.next step)).homely
    exact Int.le_trans (Int.add_le_add_right still.used _) (swap.idle_of_sweptOut homely swept)
  · intro future swept
    have idle := step.idle_of_sweptOut history.homely swept
    have positive : (0 : Int) ≤ (Span.ofSeconds ((c.world.manager
        (c.world.graphic g).manager).config.allowedIdle.wholeSeconds + 1)).nanos :=
      Int.natCast_nonneg _
    exact Int.lt_irrefl _ (Int.lt_of_lt_of_le (Int.lt_of_lt_of_le future
      (Int.le_add_of_nonneg_right positive)) idle)

set_option maxRecDepth 20000 in
/-- A film has lain idle for twelve seconds with a manager above its limit, and is read at the last
moment. Of the sweeps from then on, the one five seconds later comes to its end without it, and the
one eleven seconds later takes it; no sweep could take it earlier. -/
theorem film_is_protected_by_reading :
    ∃ past c d later e, History [] past c ∧ Due c.world 0 ∧
      (c.world.profile (.graphic 0)).decide (c.world.manager 0).config c.world.now = .evict ∧
      Step c (.op (.peek 0)) d ∧ Onward d later e ∧
      (∀ t ∈ later, SweptOut 0 t →
        c.world.now + (Span.ofSeconds ((t.before.world.manager
          (t.before.world.graphic 0).manager).config.allowedIdle.wholeSeconds + 1)).nanos ≤
          t.before.world.now) ∧
      (∃ t ∈ later, t.action = .finish 0 ∧ t.before.world.now = c.world.now + 5000000000 ∧
        (t.after.world.graphic 0).swappedOut = false) ∧
      ∃ t ∈ later, SweptOut 0 t ∧ t.before.world.now = c.world.now + 11000000000 := by
  have managed := History.next (.start : History [] _ _)
    (.op (o := .addManager { Config.builtIn with memoryLimit := 50000 } false) rfl trivial rfl)
  have made := managed.next (.make (m := 0) (o := .payload film) rfl (by decide) fits_film rfl)
  have bound := (made.next (.settle rfl)).next
    (.op (o := .bind "film" (.graphic 0) 1) rfl (.inr (by decide)) rfl)
  have idle := bound.next (.op (o := .advance (.ofSeconds 12)) rfl trivial rfl)
  have read := idle.next (.op (o := .peek 0) rfl rfl rfl)
  have waits := read.rest.snoc (.op (o := .advance (.ofSeconds 5)) rfl trivial rfl)
  have begun := waits.snoc (.sweep (m := 0) (.inl rfl) (by decide +kernel) rfl)
  have passed := begun.snoc (.skip ⟨by decide +kernel, .inr (by decide +kernel)⟩)
  have ended := passed.snoc (.finish (.inl rfl) rfl)
  have later := ended.snoc (.op (o := .advance (.ofSeconds 6)) rfl trivial rfl)
  have again := later.snoc (.sweep (m := 0) (.inl rfl) (by decide +kernel) rfl)
  have taken := again.snoc (.ask ⟨by decide +kernel, by decide +kernel, by decide +kernel⟩
    (Swapping.swapOut_of_fits (by decide +kernel) (by decide +kernel)))
  obtain ⟨protects, -⟩ := recent_use_protects idle (.op (o := .peek 0) rfl rfl rfl) 0
  refine ⟨_, _, _, _, _, idle, by decide +kernel, by decide +kernel, .op rfl rfl rfl, taken,
    protects (.peeked (.inl rfl)) _ _ taken (by simp [Taken.Marks]), ?_, ?_⟩
  · exact ⟨_, List.mem_append_left _ (List.mem_append_left _ (List.mem_append_left _
      (List.mem_append_right _ List.mem_cons_self))), rfl, by decide +kernel, by decide +kernel⟩
  · exact ⟨_, List.mem_append_right _ List.mem_cons_self,
      ⟨fun _ => ⟨nofun, nofun⟩, by decide +kernel, by decide +kernel, by decide +kernel⟩,
      by decide +kernel⟩

end Run

end GraphicCache
