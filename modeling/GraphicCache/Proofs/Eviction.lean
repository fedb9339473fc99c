/-
When the decision falls on eviction. The idle time is cut to whole seconds and then compared
strictly with the allowed time, so what counts is the whole seconds of the allowed time and one
more: an object that is free, large and in memory may be evicted from the moment on at which these
are over, and not before.
-/
import GraphicCache.Eviction

namespace GraphicCache

/-! ## Whole seconds -/

namespace Span

/-- A span lies below a number of seconds if its whole seconds do. -/
theorem lt_ofSeconds_iff {d : Span} {n : Nat} : d.nanos < (ofSeconds n).nanos ↔ d.wholeSeconds < n :=
  (Nat.div_lt_iff_lt_mul (by decide)).symm

/-- At least one second has passed, or more of them, once a moment lies that far back. -/
theorem succ_le_elapsed_iff {since now : Moment} {n : Nat} :
    n + 1 ≤ (elapsed since now).wholeSeconds ↔ since + (ofSeconds (n + 1)).nanos ≤ now := by
  have far (since now : Int) :
      n + 1 ≤ (now - since).toNat / 1000000000 ↔ since + ((n + 1) * 1000000000 : Nat) ≤ now := by
    omega
  exact far since now

theorem elapsed_of_lt {since now : Moment} (ahead : now < since) : elapsed since now = ⟨0⟩ := by
  have none : (now - since).toNat = 0 :=
    Int.toNat_of_nonpos (Int.sub_nonpos_of_le (Int.le_of_lt ahead))
  rw [elapsed, none]

end Span

/-! ## Decisions -/

namespace Profile

variable {p : Profile} {config : Config} {now : Moment}

theorem decide_eq_evict :
    p.decide config now = .evict ↔
      p.swappedOut = false ∧ largestKept < p.dependableSize ∧ p.active = false ∧
        config.allowedIdle.nanos < (Span.ofSeconds (p.idleSeconds now)).nanos := by
  unfold Profile.decide
  split
  · next out => simp [out]
  · next inside =>
    split
    · next small => simp only [reduceCtorEq, false_iff]; intro h; omega
    · next large =>
      split
      · next active => simp [active]
      · next calm =>
        split
        · next idle =>
          simp only [true_iff]
          exact ⟨by simpa using inside, by omega, by simpa using calm, idle⟩
        · next recent => simp only [reduceCtorEq, false_iff]; exact fun h => recent h.2.2.2

/-- What is not available has no size, and nothing of no size is large. -/
theorem large_iff : largestKept < p.dependableSize ↔ p.available = true ∧ largestKept < p.size := by
  unfold dependableSize
  split
  · next there => simp [there]
  · next gone => simp [gone, largestKept]

/-- The allowed time is over once its whole seconds and one more are. -/
theorem idle_iff : config.allowedIdle.nanos < (Span.ofSeconds (p.idleSeconds now)).nanos ↔
    p.lastUsed + (Span.ofSeconds (config.allowedIdle.wholeSeconds + 1)).nanos ≤ now :=
  Span.lt_ofSeconds_iff.trans Span.succ_le_elapsed_iff

theorem evict_iff : p.decide config now = .evict ↔
    p.swappedOut = false ∧ p.available = true ∧ largestKept < p.size ∧ p.active = false ∧
      p.lastUsed + (Span.ofSeconds (config.allowedIdle.wholeSeconds + 1)).nanos ≤ now := by
  rw [decide_eq_evict, large_iff, idle_iff, and_assoc]

/-- What may be evicted has not been used for longer than the allowed time, and one second is counted
in full only when it is over. -/
theorem idle_of_evict (h : p.decide config now = .evict) :
    p.lastUsed + (Span.ofSeconds (config.allowedIdle.wholeSeconds + 1)).nanos ≤ now :=
  (evict_iff.1 h).2.2.2.2

/-- Of a configuration a decision takes the whole seconds of the allowed time, and no more. -/
theorem decide_congr {other : Config}
    (same : other.allowedIdle.wholeSeconds = config.allowedIdle.wholeSeconds) :
    p.decide other now = p.decide config now := by
  unfold Profile.decide
  simp only [Span.lt_ofSeconds_iff, same]

theorem idleSeconds_of_lt (ahead : now < p.lastUsed) : p.idleSeconds now = 0 := by
  rw [idleSeconds, Span.elapsed_of_lt ahead]
  rfl

/-- What is used at a moment still to come is not idle for any time. -/
theorem not_evict_of_lt (ahead : now < p.lastUsed) : p.decide config now ≠ .evict := by
  intro evict
  have nothing := (decide_eq_evict.1 evict).2.2.2
  rw [idleSeconds_of_lt ahead, Span.lt_ofSeconds_iff] at nothing
  exact Nat.not_lt_zero _ nothing

theorem evict_mono {later : Moment} (forward : now ≤ later) (h : p.decide config now = .evict) :
    p.decide config later = .evict := by
  obtain ⟨inside, there, large, free, idle⟩ := evict_iff.1 h
  exact evict_iff.2 ⟨inside, there, large, free, Int.le_trans idle forward⟩

/-- What may be evicted although more idle time is allowed may be evicted with less, too. -/
theorem evict_of_longer {longer : Config}
    (raised : config.allowedIdle.nanos ≤ longer.allowedIdle.nanos)
    (h : p.decide longer now = .evict) : p.decide config now = .evict := by
  obtain ⟨inside, large, free, idle⟩ := decide_eq_evict.1 h
  exact decide_eq_evict.2 ⟨inside, large, free, Nat.lt_of_le_of_lt raised idle⟩

/-- Idleness by whole seconds: an object may be evicted if it is in memory, available, large and held
by no operation, and the whole seconds of the allowed time and one more have passed since its last
use. What the allowed time has beside whole seconds decides nothing; what was last used at a moment
to come has been idle for no time and stays, even if no idle time is allowed; the decision for
eviction stands at all later moments; and a longer allowed time leads to no eviction. -/
theorem evicted_by_whole_seconds (p : Profile) (config : Config) (now : Moment) :
    (p.decide config now = .evict ↔
      p.swappedOut = false ∧ p.available = true ∧ largestKept < p.size ∧ p.active = false ∧
        p.lastUsed + (Span.ofSeconds (config.allowedIdle.wholeSeconds + 1)).nanos ≤ now) ∧
      (∀ other : Config, other.allowedIdle.wholeSeconds = config.allowedIdle.wholeSeconds →
        p.decide other now = p.decide config now) ∧
      (now < p.lastUsed → p.idleSeconds now = 0 ∧ p.decide config now ≠ .evict) ∧
      (∀ later : Moment, now ≤ later → p.decide config now = .evict →
        p.decide config later = .evict) ∧
      ∀ longer : Config, config.allowedIdle.nanos ≤ longer.allowedIdle.nanos →
        p.decide config now ≠ .evict → p.decide longer now ≠ .evict :=
  ⟨evict_iff, fun _ same => decide_congr same,
    fun ahead => ⟨idleSeconds_of_lt ahead, not_evict_of_lt ahead⟩,
    fun _ forward evict => evict_mono forward evict,
    fun _ raised other evict => other (evict_of_longer raised evict)⟩

/-- With 1.999 seconds allowed, what was used at 0 may be evicted from 2 seconds on, as with 1 second
allowed; and at no moment before 0, even with no time allowed. -/
theorem evicted_from_two_seconds :
    let p : Profile := ⟨100001, false, true, false, 0⟩
    let allowed (nanos : Nat) : Config := { Config.builtIn with allowedIdle := ⟨nanos⟩ }
    (∀ later : Moment, 2000000000 ≤ later → p.decide (allowed 1999000000) later = .evict) ∧
      p.decide (allowed 1999000000) 1999999999 = .recentlyUsed ∧
      p.decide (allowed 1000000000) 1999999999 = .recentlyUsed ∧
      p.decide (allowed 0) (-1) ≠ .evict := by
  intro p allowed
  obtain ⟨from_two, -, -, onwards, -⟩ :=
    evicted_by_whole_seconds p (allowed 1999000000) 2000000000
  obtain ⟨-, cut, -, -, -⟩ := evicted_by_whole_seconds p (allowed 1999000000) 1999999999
  obtain ⟨-, -, ahead, -, -⟩ := evicted_by_whole_seconds p (allowed 0) (-1)
  have recent : p.decide (allowed 1999000000) 1999999999 = .recentlyUsed := by decide
  exact ⟨fun later forward => onwards later forward (from_two.2 (by decide)), recent,
    (cut (allowed 1000000000) (by decide)).trans recent, (ahead (by decide)).2⟩

end Profile

end GraphicCache
