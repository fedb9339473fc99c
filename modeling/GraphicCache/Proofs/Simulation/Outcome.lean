/-
What a simulation comes to, in closed form. The registrations fill the memory and take nothing out;
if the usage has then reached the limit, the one sweep at the end takes out as few of the bitmaps
that nobody holds as bring it below the target, or all of them if that is not enough, and nothing if
they are small or not idle for longer than allowed. So the statistics follow from the choices, the
configuration and the clock by numbers alone, as long as all sizes have a sum and less than a second
passes; and they are shown unless there is no room for the list of the bitmaps.
-/
import GraphicCache.CommandLine
import GraphicCache.Proofs.Simulation.Aging

namespace GraphicCache

open Effect

/-! ## The least number up to a bound -/

/-- The least number up to a bound that has a property, or the bound if none has. -/
def leastUpTo (bound : Nat) (p : Nat → Bool) : Nat :=
  ((List.range (bound + 1)).find? p).getD bound

theorem leastUpTo_spec (bound : Nat) (p : Nat → Bool) :
    leastUpTo bound p ≤ bound ∧ (∀ i < leastUpTo bound p, p i = false) ∧
      (leastUpTo bound p = bound ∨ p (leastUpTo bound p) = true) := by
  unfold leastUpTo
  cases found : (List.range (bound + 1)).find? p with
  | none =>
    have without : ∀ i < bound, p i = false := by
      intro i before
      have absent := List.find?_eq_none.1 found i
        (List.mem_range.2 (Nat.lt_succ_of_lt before))
      exact Bool.eq_false_iff.2 absent
    exact ⟨Nat.le_refl bound, without, .inl rfl⟩
  | some k =>
    obtain ⟨holds, among, before⟩ := List.find?_range_eq_some.1 found
    refine ⟨Nat.le_of_lt_succ (List.mem_range.1 among), fun i less => ?_, .inr holds⟩
    simpa using before i less

namespace Simulation

open Run Swapping Sweep

variable {s : Simulation} {config : Config} {clock : Clock} {start lastUsed now : Moment}
  {time pause i n g : Nat} {w v : World} {gs : List Nat}

/-! ## The outcome -/

/-- The usage has reached the limit in the end, and swapping is enabled. -/
def Full (s : Simulation) (config : Config) : Prop :=
  config.swapEnabled = true ∧ config.memoryLimit ≤ s.bytes s.count

instance decidableFull (s : Simulation) (config : Config) : Decidable (s.Full config) :=
  inferInstanceAs (Decidable (_ ∧ _))

/-- How many bitmaps are taken out: as few as bring the usage below the target, of those that may
be. -/
def evicted (s : Simulation) (config : Config) (clock : Clock) : Nat :=
  if s.Full config then
    leastUpTo (s.idlers config clock) fun k => s.bytes (s.count - k) < config.target
  else 0

/-- The statistics at the end of a simulation that starts at a moment. -/
def outcome (s : Simulation) (config : Config) (clock : Clock) (start : Moment) : Statistics where
  used := s.bytes (s.count - s.evicted config clock)
  memoryLimit := config.memoryLimit
  registered := s.count
  swappedOut := s.evicted config clock
  counters :=
    { sweeps := s.earlySweeps config s.count + if s.Full config then 1 else 0
      evictions := s.evicted config clock
      driftCorrections := 0
      suppressedReentries := 0
      lastSweep :=
        if s.Full config then some (start + passed clock.pauses (s.count + 2)) else none }

/-! ## What the sweep takes out -/

theorem idlers_le (s : Simulation) (config : Config) (clock : Clock) :
    s.idlers config clock ≤ s.count - s.active := by
  unfold idlers
  split
  · exact Nat.le_refl _
  · exact Nat.zero_le _

theorem evicted_le (s : Simulation) (config : Config) (clock : Clock) :
    s.evicted config clock ≤ s.idlers config clock := by
  unfold evicted
  split
  · exact (leastUpTo_spec _ _).1
  · exact Nat.zero_le _

theorem evicted_begins (s : Simulation) (config : Config) (clock : Clock) :
    List.range' s.active (s.evicted config clock) <+:
      List.range' s.active (s.idlers config clock) := by
  rw [← Nat.add_sub_cancel' (s.evicted_le config clock), ← List.range'_append_1]
  exact List.prefix_append _ _

theorem bytes_sub (s : Simulation) (fewer : i ≤ n) : s.bytes n - s.bytes i = s.bytes (n - i) := by
  unfold bytes
  rw [Nat.mul_sub_right_distrib, Int.natCast_sub (Nat.mul_le_mul_right s.size fewer)]

/-- Bitmaps in memory occupy their bytes. -/
theorem occupied_of_size (bitmaps : ∀ g ∈ gs, (w.graphic g).size = s.size) :
    occupied w gs = s.bytes gs.length := by
  have sizes : (gs.map fun g => ((w.graphic g).size : Int)) = gs.map fun _ => (s.size : Int) :=
    List.map_congr_left fun g listed => congrArg _ (bitmaps g listed)
  rw [occupied, sizes, List.map_const', List.sum_replicate, bytes]
  simp

/-- Of all numbers below another, so many lie in a window that ends before it. -/
theorem countP_window {p : Nat → Bool} {first k : Nat} (fewer : k ≤ n - first)
    (window : ∀ g < n, p g = true ↔ first ≤ g ∧ g < first + k) : (List.range n).countP p = k := by
  have same : (List.range n).countP p =
      (List.range n).countP fun g => decide (first ≤ g) && decide (g < first + k) :=
    List.countP_congr fun g among => by simpa using window g (List.mem_range.1 among)
  rw [same, List.countP_eq_length_filter, ← List.filter_filter, ← List.Ico.zero_bot,
    List.Ico.filter_lt, List.Ico.filter_le, List.Ico.length]
  omega

section Sweeping

variable (aged : Aged s config (now - (s.effectiveIdle clock).nanos) w)
  (moment : w.now = now + pause) (quick : pause < Span.second)

include aged

/-- Without some of the bitmaps that may be taken out, the count is that of the others. -/
theorem Aged.used_without (begins : gs <+: List.range' s.active (s.idlers config clock)) :
    (w.manager 0).used - occupied w gs = s.bytes (s.count - gs.length) := by
  have most := s.idlers_le config clock
  have fewer : gs.length ≤ s.idlers config clock := by
    simpa using begins.length_le
  have sizes : ∀ g ∈ gs, (w.graphic g).size = s.size := by
    intro g listed
    have window := List.mem_range'_1.1 (begins.subset listed)
    exact aged.size (by omega)
  rw [aged.used, occupied_of_size sizes, bytes_sub]
  omega

include moment quick

/-- The sweep takes out the first bitmaps that nobody holds. -/
theorem Aged.dispensable_eq (full : s.Full config) :
    dispensable w 0 = List.range' s.active (s.evicted config clock) := by
  have begins := s.evicted_begins config clock
  have spec := leastUpTo_spec (s.idlers config clock) fun k =>
    s.bytes (s.count - k) < config.target
  rw [← show s.evicted config clock = leastUpTo _ _ from if_pos full] at spec
  obtain ⟨-, before, enough⟩ := spec
  rw [dispensable, aged.candidates_eq moment quick, aged.settings]
  -- all bitmaps have one size, so of a beginning only its length counts
  refine fewest_eq begins (fun hs early other => ?_) ?_
  · have less : hs.length < s.evicted config clock := by
      refine Nat.lt_of_le_of_ne ?_ fun same => other (early.eq_of_length ?_)
      · simpa using early.length_le
      · simpa using same
    rw [aged.used_without (early.trans begins)]
    simpa using before hs.length less
  · refine enough.imp (fun all => by rw [all]) fun below => ?_
    rw [aged.used_without begins, List.length_range']
    simpa using below

end Sweeping

/-! ## What the statistics show -/

/-- The statistics follow from what is counted and from what is out. -/
theorem Aged.statistics_eq (aged : Aged s config lastUsed w)
    (registry : (v.manager 0).registry = (w.manager 0).registry)
    (settings : (v.manager 0).config = (w.manager 0).config)
    (used : (v.manager 0).used = s.bytes (s.count - s.evicted config clock))
    (out : ∀ g < s.count, (v.graphic g).swappedOut = true ↔
      s.active ≤ g ∧ g < s.active + s.evicted config clock)
    (counters : (v.manager 0).counters = (s.outcome config clock start).counters) :
    v.statistics 0 = s.outcome config clock start := by
  have registered : (v.manager 0).registry.size = s.count := by
    rw [registry, Registry.size, aged.entries, List.length_map, List.length_range]
  have swappedOut : (v.manager 0).registry.entries.countP (fun e => (v.profile e.2).swappedOut) =
      s.evicted config clock := by
    have fewer := Nat.le_trans (s.evicted_le config clock) (s.idlers_le config clock)
    rw [registry, aged.entries, List.countP_map]
    exact countP_window fewer out
  unfold World.statistics
  simp only [used, settings, aged.settings, registered, swappedOut, counters]
  rfl

theorem Aged.counters_of_not_full (aged : Aged s config lastUsed w) (roomy : ¬ s.Full config) :
    (w.manager 0).counters = (s.outcome config clock start).counters := by
  have never : (w.manager 0).counters.lastSweep = none := by
    by_contra swept
    obtain ⟨enabled, above⟩ := aged.quiet swept
    exact roomy ⟨enabled, Int.le_of_lt above⟩
  rw [aged.counters, never, outcome, evicted, if_neg roomy, if_neg roomy, if_neg roomy]
  rfl

/-- The sweep at the end brings the outcome about. -/
theorem Aged.sweep (aged : Aged s config (now - (s.effectiveIdle clock).nanos) w)
    (moment : w.now = now + pause) (quick : pause < Span.second)
    (time : w.now = start + passed clock.pauses (s.count + 2)) :
    ∃ v, attempt (Script.ask 0) 0 w = .ok () v ∧ v.statistics 0 = s.outcome config clock start := by
  have due : Due w 0 ↔ s.Full config := by
    unfold Due Full
    rw [aged.settings, aged.used]
  by_cases full : s.Full config
  · -- a sweep is due, and what is out afterwards is what it takes out
    obtain ⟨v, done, eased, -⟩ := aged.order.sweeps plain_ask
    rw [aged.dispensable_eq moment quick full] at eased
    refine ⟨v, (attempt_of_idle _ (due.2 full) aged.order.idle).trans done,
      aged.statistics_eq ?_ ?_ ?_ (fun g before => ?_) ?_⟩
    · rw [eased.manager]
    · rw [eased.manager]
    · have left := aged.used_without (s.evicted_begins config clock)
      rw [List.length_range'] at left
      rw [eased.manager, ← left]
    · rw [← List.mem_range'_1]
      by_cases among : g ∈ List.range' s.active (s.evicted config clock)
      · exact iff_of_true (eased.out g among).2 among
      · rw [eased.kept g among, aged.inside before]
        exact iff_of_false Bool.false_ne_true among
    · rw [eased.manager, aged.counters, time, outcome, if_pos full, if_pos full]
      simp
  · have nothing : s.evicted config clock = 0 := if_neg full
    refine ⟨w, attempt_of_not_due _ fun is => full (due.1 is),
      aged.statistics_eq rfl rfl ?_ (fun g before => ?_) (aged.counters_of_not_full full)⟩
    · rw [nothing]
      exact aged.used
    · rw [nothing, aged.inside before]
      simp

/-! ## The whole simulation -/

/-- A simulation comes to its outcome if all sizes have a sum and less than a second passes. -/
theorem perform_eq (s : Simulation) (config : Config) (clock : Clock) (start : Moment)
    (small : s.bytes s.count ≤ Amount.greatest)
    (quick : passed clock.pauses (s.count + 2) < Span.second) :
    ∃ v, s.perform config clock { World.start [] with now := start } =
      .ok (s.outcome (s.configure config) clock start) v := by
  have all : passed clock.pauses (s.count + 2) =
      passed clock.pauses s.count + (clock.pauses s.count).nanos +
        (clock.pauses (s.count + 1)).nanos := by
    rw [passed_succ, passed_succ]
  -- the bitmaps are made, declared idle and held busy, and then comes the sweep
  have soon : passed clock.pauses s.count < Span.second := by omega
  obtain ⟨w, made, filled⟩ := fills s (s.configure config) start small soon
  have filled' := filled.after (clock.pauses s.count)
  obtain ⟨u, v, marked, begun, aged, now⟩ :=
    filled'.ages ((after w (clock.pauses s.count)).now - (s.effectiveIdle clock).nanos)
  have later : (after v (clock.pauses (s.count + 1))).now =
      (after w (clock.pauses s.count)).now + (clock.pauses (s.count + 1)).nanos := by
    rw [← now]
    rfl
  have time : (after v (clock.pauses (s.count + 1))).now =
      start + passed clock.pauses (s.count + 2) := by
    rw [later, filled'.now, all, Int.natCast_add (_ + _), Int.add_assoc]
  obtain ⟨x, swept, statistics⟩ :=
    (aged.after (clock.pauses (s.count + 1))).sweep later (by omega) time
  have opened : Accounting.addManager (s.configure config) false
      { World.start [] with now := start } =
        .ok 0 (({ World.start [] with now := start } : World).addManager
          (.new (s.configure config))) := rfl
  refine ⟨x, ?_⟩
  unfold perform
  rw [bind_of_ok opened, bind_of_ok made, bind_of_ok (pass_apply _ _), get_bind_apply,
    bind_of_ok marked, bind_of_ok begun, bind_of_ok (pass_apply _ _), bind_of_ok swept,
    ← statistics]
  rfl

/-- It shows that, if there is room for it. -/
theorem run_eq (s : Simulation) (config : Config) (clock : Clock) (start : Moment)
    (small : s.bytes s.count ≤ Amount.greatest)
    (quick : passed clock.pauses (s.count + 2) < Span.second) :
    s.run config clock start =
      if s.hasRoom then some (s.outcome (s.configure config) clock start) else none := by
  obtain ⟨v, performed⟩ := s.perform_eq config clock start small quick
  unfold run
  rw [performed]

theorem run_of_no_room (crowded : s.hasRoom = false) (config : Config) (clock : Clock)
    (start : Moment) : s.run config clock start = none := by
  unfold run
  rw [crowded]
  rfl

/-- No time passes on a clock that stands still. -/
theorem passed_still (n : Nat) : passed (fun _ => ⟨0⟩) n = 0 := by
  unfold passed
  rw [List.map_const', List.sum_replicate]
  exact Nat.mul_zero _

end Simulation

namespace CommandLine

open Simulation

variable {clock : Clock} {lookup : String → Option String} {wallClock : Nat} {args : List String}
  {s : Simulation}

theorem answer_of_statistics {statistics : Statistics} (asked : read args = some (.simulate s))
    (result : s.run (Config.load lookup) clock (wallClock % Span.second : Nat) = some statistics) :
    answer clock lookup wallClock args =
      .shown ((statistics.document (wallClock / Span.second)).pretty ++ "\n") := by
  simp only [answer, asked, result]

theorem answer_of_none (asked : read args = some (.simulate s))
    (result : s.run (Config.load lookup) clock (wallClock % Span.second : Nat) = none) :
    answer clock lookup wallClock args = .failed 101 := by
  simp only [answer, asked, result]

/-- What `simulate` answers, for all arguments that ask for a simulation and all settings of the
environment, if the sizes of all bitmaps have a sum and less than a second passes. The statistics at
the end are those of the closed form: with the sweep due at the end, as few of the bitmaps that are
not held busy are out as bring the usage below the target, or all of them, and none if they are
small or not idle for longer than allowed; every registration that found the usage above the limit
has counted one sweep. That is shown if there is room for a list of the bitmaps, and otherwise the
program fails. -/
theorem simulate_shows_outcome (clock : Clock) (lookup : String → Option String) (wallClock : Nat)
    (args : List String) (s : Simulation) (asked : read args = some (.simulate s))
    (small : s.bytes s.count ≤ Amount.greatest)
    (quick : passed clock.pauses (s.count + 2) < Span.second) :
    answer clock lookup wallClock args =
      if s.hasRoom then
        .shown (((s.outcome (s.configure (Config.load lookup)) clock
          (wallClock % Span.second : Nat)).document (wallClock / Span.second)).pretty ++ "\n")
      else .failed 101 := by
  have result := s.run_eq (Config.load lookup) clock (wallClock % Span.second : Nat) small quick
  by_cases room : s.hasRoom = true
  · rw [if_pos room] at result ⊢
    exact answer_of_statistics asked result
  · rw [if_neg room] at result ⊢
    exact answer_of_none asked result

/-- Of four bitmaps the first is held busy and the others have to go, and the registration of the
last has swept in vain. -/
theorem three_bitmaps_are_swapped_out :
    answer ⟨fun _ => ⟨1000000⟩, 9223372036854775808⟩ (fun _ => none) 1700000000123456789
        ["simulate", "--count", "4", "--size", "500000", "--limit", "1000000", "--active", "1"] =
      .shown (((⟨500000, 1000000, 4, 3, ⟨2, 3, 0, 0, some 129456789⟩⟩ : Statistics).document
        1700000000).pretty ++ "\n") := by
  have closed := simulate_shows_outcome ⟨fun _ => ⟨1000000⟩, 9223372036854775808⟩ (fun _ => none)
    1700000000123456789
    ["simulate", "--count", "4", "--size", "500000", "--limit", "1000000", "--active", "1"]
    ⟨4, 500000, some 1000000, 60, 1⟩ (by decide +kernel) (by decide) (by decide)
  have numbers : outcome ⟨4, 500000, some 1000000, 60, 1⟩
      (configure ⟨4, 500000, some 1000000, 60, 1⟩ (Config.load fun _ => none))
      ⟨fun _ => ⟨1000000⟩, 9223372036854775808⟩ (1700000000123456789 % Span.second : Nat) =
      ⟨500000, 1000000, 4, 3, ⟨2, 3, 0, 0, some 129456789⟩⟩ := by
    decide +kernel
  rw [closed, numbers]
  rfl

/-- So many bitmaps of no size that there is no room for a list of them: all hypotheses hold and the
program fails. -/
theorem simulation_without_room :
    let args := ["simulate", "--count", "576460752303423488", "--size", "0"]
    let s : Simulation := { standard with count := 576460752303423488, size := 0 }
    let clock : Clock := ⟨fun _ => ⟨0⟩, 9223372036854775808⟩
    read args = some (.simulate s) ∧ s.bytes s.count ≤ Amount.greatest ∧
      passed clock.pauses (s.count + 2) < Span.second ∧
      answer clock (fun _ => none) 0 args = .failed 101 ∧
      answer clock (fun _ => none) 0 args ≠
        .shown (((s.outcome (s.configure (Config.load fun _ => none)) clock 0).document 0).pretty ++
          "\n") := by
  intro args s clock
  have asked : read args = some (.simulate s) := by decide +kernel
  have fails : answer clock (fun _ => none) 0 args = .failed 101 :=
    answer_of_none asked (run_of_no_room (by decide) _ _ _)
  refine ⟨asked, by decide, ?_, fails, ?_⟩
  · rw [passed_still]
    decide
  · rw [fails]
    exact nofun

end CommandLine

end GraphicCache
