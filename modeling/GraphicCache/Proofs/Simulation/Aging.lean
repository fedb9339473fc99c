/-
What the sweep of a simulation finds. Every bitmap was declared idle and the first of them are held
busy, and nothing else has changed since the last one was made. So those that nobody holds may be
taken out if they are large and idle for longer than allowed, and otherwise none may.
-/
import GraphicCache.Proofs.Simulation.Filling
import Mathlib.Data.List.Intervals

namespace GraphicCache.Simulation

open Effect Run Swapping Sweep

variable {s : Simulation} {config : Config} {clock : Clock} {start lastUsed : Moment}
  {time n g : Nat} {w v : World} {gs : List Nat}

/-! ## Doing the same to some graphics -/

/-- Some graphics were changed in one way, and nothing else was. -/
structure Touched (change : Graphic → Graphic) (gs : List Nat) (w v : World) : Prop where
  graphic : ∀ g, v.graphic g =
    if g ∈ gs ∧ g < w.graphics.size then change (w.graphic g) else w.graphic g
  made : v.graphics.size = w.graphics.size
  managers : v.managers = w.managers
  now : v.now = w.now
  storage : v.storageBroken = w.storageBroken

theorem touched_forAll (act : Nat → Effect Unit) {change : Graphic → Graphic}
    (acts : ∀ g w, act g w = .ok () (w.updateGraphic g change)) (once : gs.Nodup) (w : World) :
    ∃ v, forAll act gs w = .ok () v ∧ Touched change gs w v := by
  induction gs generalizing w with
  | nil => exact ⟨w, rfl, fun _ => (if_neg fun both => nomatch both.1).symm, rfl, rfl, rfl, rfl⟩
  | cons g gs ih =>
    obtain ⟨new, once⟩ := List.nodup_cons.1 once
    obtain ⟨v, done, others⟩ := ih once (w.updateGraphic g change)
    have size := w.size_updateGraphic g change
    refine ⟨v, (bind_of_ok (acts g w)).trans done, fun k => ?_, others.made.trans size,
      others.managers, others.now, others.storage⟩
    rw [others.graphic k, size, World.graphic_updateGraphic]
    by_cases same : g = k
    · subst same
      rw [if_neg fun both => new both.1]
      simp
    · rw [if_neg (c := g = k ∧ _) fun both => same both.1]
      simp [Ne.symm same]

/-! ## Idle bitmaps -/

/-- The bitmaps are registered, were all last used at one moment, and the first of them are held
busy. -/
structure Aged (s : Simulation) (config : Config) (lastUsed : Moment) (w : World) : Prop
    extends Stocked s config s.count w where
  bitmaps : ∀ g < s.count,
    w.graphic g = ⟨.ofPayload s.bitmap lastUsed, g + 1, 0, if g < s.active then 1 else 0⟩

/-- Bitmaps age when they are declared idle and some of them held busy. -/
theorem Filled.ages (filled : Filled s config start time s.count w) (lastUsed : Moment) :
    ∃ u v, forAll (fun g => setLastUsed g lastUsed) (List.range' 0 s.count) w = .ok () u ∧
      forAll beginOperation ((List.range' 0 s.count).take s.active) u = .ok () v ∧
      Aged s config lastUsed v ∧ v.now = w.now := by
  rw [← List.range_eq_range']
  obtain ⟨u, marked, idle⟩ := touched_forAll
    (fun g => setLastUsed g lastUsed) (fun _ _ => rfl) (List.nodup_range (n := s.count)) w
  obtain ⟨v, begun, busy⟩ := touched_forAll beginOperation (fun _ _ => rfl)
    (List.nodup_range.sublist ((List.range s.count).take_sublist s.active)) u
  have changed (g : Nat) : (v.graphic g).manager = (w.graphic g).manager ∧
      (v.graphic g).toContent.size = (w.graphic g).toContent.size := by
    rw [busy.graphic, idle.graphic]
    split <;> split <;> exact ⟨rfl, rfl⟩
  have stocked := filled.toStocked.congr (busy.managers.trans idle.managers)
    (busy.made.trans idle.made) changed (busy.storage.trans idle.storage)
  refine ⟨u, v, marked, begun, ⟨stocked, fun g before => ?_⟩, busy.now.trans idle.now⟩
  obtain ⟨earlier, -, bitmap⟩ := filled.bitmaps g before
  have bitmap' : u.graphic g = ⟨.ofPayload s.bitmap lastUsed, g + 1, 0, 0⟩ := by
    rw [idle.graphic, filled.made, if_pos ⟨List.mem_range.2 before, before⟩, bitmap]
    rfl
  rw [busy.graphic, idle.made, filled.made, List.take_range, bitmap']
  by_cases held : g < s.active
  · rw [if_pos ⟨List.mem_range.2 (Nat.lt_min.2 ⟨held, before⟩), before⟩, if_pos held]
  · rw [if_neg fun both => held (Nat.lt_min.1 (List.mem_range.1 both.1)).1, if_neg held]

/-- Time passes. -/
theorem Aged.after (aged : Aged s config lastUsed w) (span : Span) :
    Aged s config lastUsed (after w span) where
  toStocked := aged.toStocked.congr rfl rfl (fun _ => ⟨rfl, rfl⟩) rfl
  bitmaps := aged.bitmaps

/-! ## What may be taken out -/

/-- The bitmaps are large and idle for longer than allowed. -/
def Stale (s : Simulation) (config : Config) (clock : Clock) : Prop :=
  largestKept < s.size ∧ config.allowedIdle.nanos < (s.effectiveIdle clock).nanos

instance decidableStale (s : Simulation) (config : Config) (clock : Clock) :
    Decidable (s.Stale config clock) :=
  inferInstanceAs (Decidable (_ ∧ _))

/-- How many bitmaps a sweep may take out: those that are not held busy, or none. -/
def idlers (s : Simulation) (config : Config) (clock : Clock) : Nat :=
  if s.Stale config clock then s.count - s.active else 0

/-- Of what was set back by whole seconds, so many and one more are over if they are fewer; less than
a second that has passed since does not matter. -/
theorem set_back_iff {now : Moment} {allowed idle pause : Nat} (quick : pause < Span.second) :
    now - (Span.ofSeconds idle).nanos + (Span.ofSeconds (allowed + 1)).nanos ≤ now + pause ↔
      allowed < idle := by
  have whole (now : Int) (quick : pause < 1000000000) :
      now - (idle * 1000000000 : Nat) + ((allowed + 1) * 1000000000 : Nat) ≤ now + pause ↔
        allowed < idle := by
    omega
  exact whole now quick

section Sweeping

variable {now : Moment} {pause : Nat} (aged : Aged s config (now - (s.effectiveIdle clock).nanos) w)
  (moment : w.now = now + pause) (quick : pause < Span.second)

include aged

theorem Aged.size (before : g < s.count) : (w.graphic g).size = s.size := by
  rw [aged.bitmaps g before]
  exact s.size_ofPayload _

theorem Aged.inside (before : g < s.count) : (w.graphic g).swappedOut = false := by
  rw [aged.bitmaps g before]
  rfl

include moment quick

theorem Aged.evictable_iff (before : g < s.count) :
    Evictable w 0 g ↔ s.Stale config clock ∧ s.active ≤ g := by
  have bitmap := aged.bitmaps g before
  have size : ((w.profile (.graphic g)).size : Int) = s.size := congrArg Nat.cast (aged.size before)
  have there : (w.profile (.graphic g)).available = true :=
    congrArg (fun x : Graphic => x.profile.available) bitmap
  have free : (w.profile (.graphic g)).active = false ↔ s.active ≤ g := by
    show (decide (0 < (w.graphic g).operations)) = false ↔ _
    rw [bitmap, decide_eq_false_iff_not, ← Nat.not_lt]
    by_cases held : g < s.active
    · simp [held]
    · simp [held]
  have lastUsed : (w.profile (.graphic g)).lastUsed = now - (s.effectiveIdle clock).nanos :=
    congrArg (fun x : Graphic => x.profile.lastUsed) bitmap
  unfold Evictable Stale
  rw [Profile.evict_iff, size, free, lastUsed, moment, aged.settings, effectiveIdle,
    set_back_iff quick, ← Span.lt_ofSeconds_iff, aged.storage]
  have inside : (w.profile (.graphic g)).swappedOut = false := aged.inside before
  simp only [inside, there, true_and, or_true, and_true]
  exact ⟨fun ⟨large, free, idle⟩ => ⟨⟨large, idle⟩, free⟩,
    fun ⟨⟨large, idle⟩, free⟩ => ⟨large, free, idle⟩⟩

/-- What may be taken out are the bitmaps after those held busy. -/
theorem Aged.candidates_eq : candidates w 0 (w.manager 0).registry.entries =
    List.range' s.active (s.idlers config clock) := by
  have listed : candidates w 0 (w.manager 0).registry.entries =
      (List.range s.count).filter fun g => s.Stale config clock ∧ s.active ≤ g := by
    rw [candidates, aged.entries, List.map_map, List.filterMap_map, ← List.filterMap_eq_filter]
    refine List.filterMap_congr fun g among => ?_
    have evictable := aged.evictable_iff moment quick (List.mem_range.1 among)
    simp [candidate?, evictable, Option.guard]
  rw [listed, idlers]
  by_cases stale : s.Stale config clock
  · simp only [stale, true_and, if_true]
    rw [← List.Ico.zero_bot, List.Ico.filter_le, Nat.zero_max]
    rfl
  · simp [stale]

end Sweeping

end GraphicCache.Simulation
