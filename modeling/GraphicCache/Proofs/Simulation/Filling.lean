/-
The registrations of a simulation. The bitmaps are made one after the other, within less than a
second: so none of them is idle for a whole second, and the sweeps that are run above the limit take
nothing out. Each bitmap is entered with the next id, its size is added to the count, and all that
is left of the sweeps is their number.
-/
import GraphicCache.Simulation
import GraphicCache.Proofs.Run.Intake

namespace GraphicCache

open Effect

/-! ## Entering at the end -/

/-- The largest id is placed at the end. -/
theorem Registry.place_last {id : Nat} {o : ObjectRef} {entries : List (Nat × ObjectRef)}
    (below : ∀ e ∈ entries, e.1 < id) : place id o entries = entries ++ [(id, o)] := by
  induction entries with
  | nil => rfl
  | cons e rest ih =>
    obtain ⟨first, others⟩ := List.forall_mem_cons.1 below
    rw [place, if_neg (Nat.lt_asymm first), if_neg (Nat.ne_of_gt first), ih others]
    rfl

namespace Run

open Swapping Sweep Accounting

variable {m : Nat} {w v : World}

/-- A manager in order stays so while only its graphics are used. -/
theorem InOrder.congr (order : InOrder w m) (managers : v.managers = w.managers)
    (made : v.graphics.size = w.graphics.size)
    (graphics : ∀ g, (v.graphic g).manager = (w.graphic g).manager ∧
      (v.graphic g).toContent.size = (w.graphic g).toContent.size) : InOrder v m := by
  have manager : v.manager m = w.manager m := by
    unfold World.manager
    rw [managers]
  have literal : literalUsage v m = literalUsage w m := by
    rw [literalUsage_eq, literalUsage_eq, manager]
    congr 1
    refine List.map_congr_left fun o entry => ?_
    obtain ⟨e, listed, rfl⟩ := List.mem_map.1 entry
    obtain ⟨g, object, -, -⟩ := order.hosts.graphics e listed
    rw [object]
    show (v.graphic g).profile.accounted = (w.graphic g).profile.accounted
    rw [Content.accounted_profile, Content.accounted_profile, (graphics g).2]
  refine ⟨⟨?_, fun e listed => ?_, ?_, fun e listed => ?_⟩, ?_, ?_, ?_⟩
  · rw [managers]
    exact order.hosts.there
  · rw [manager] at listed
    obtain ⟨g, object, there, own⟩ := order.hosts.graphics e listed
    exact ⟨g, object, made ▸ there, (graphics g).1.trans own⟩
  · rw [manager]
    exact order.hosts.once
  · rw [manager] at listed ⊢
    exact order.hosts.registered e listed
  · rw [manager, literal]
    exact order.right
  · rw [manager]
    exact order.fits
  · rw [manager]
    exact order.idle

/-- Nothing is dispensable where no graphic may be evicted. -/
theorem displaced_of_none
    (none : ∀ g, .graphic g ∈ (w.manager m).registry.entries.map Prod.snd → ¬ Evictable w m g) :
    displaced w m = [] := by
  have empty : candidates w m (w.manager m).registry.entries = [] := by
    refine List.eq_nil_iff_forall_not_mem.2 fun g among => ?_
    obtain ⟨entry, evictable⟩ := mem_candidates.1 among
    exact none g entry evictable
  exact List.prefix_nil.1 (empty ▸ displaced_begins w m)

end Run

namespace Simulation

open Run Swapping Sweep Accounting

variable {s : Simulation} {config : Config} {pauses : Nat → Span} {start : Moment}
  {time i n g : Nat} {w v u : World}

/-! ## Numbers -/

/-- What so many bitmaps occupy. -/
def bytes (s : Simulation) (n : Nat) : Int := (n * s.size : Nat)

/-- The time that has passed after the first so many pauses, in nanoseconds. -/
def passed (pauses : Nat → Span) (n : Nat) : Nat := ((List.range n).map fun i => (pauses i).nanos).sum

/-- How many of the first registrations find the usage above the limit and sweep. -/
def earlySweeps (s : Simulation) (config : Config) (n : Nat) : Nat :=
  if config.swapEnabled then (List.range n).countP fun i => config.memoryLimit < s.bytes i else 0

theorem bytes_succ (s : Simulation) (n : Nat) : s.bytes (n + 1) = s.bytes n + s.size := by
  unfold bytes
  rw [Nat.succ_mul]
  exact Int.natCast_add _ _

theorem fits_bytes (s : Simulation) (small : s.bytes n ≤ Amount.greatest) :
    Amount.fits (s.bytes n) = true :=
  Amount.fits_iff.2 ⟨Int.le_trans (by decide) (Int.natCast_nonneg _), small⟩

theorem bytes_mono (s : Simulation) (h : i ≤ n) : s.bytes i ≤ s.bytes n :=
  Int.ofNat_le.2 (Nat.mul_le_mul_right s.size h)

theorem passed_succ (pauses : Nat → Span) (n : Nat) :
    passed pauses (n + 1) = passed pauses n + (pauses n).nanos := by
  unfold passed
  rw [List.range_succ, List.map_append, List.sum_append]
  rfl

theorem passed_mono (pauses : Nat → Span) (h : i ≤ n) : passed pauses i ≤ passed pauses n := by
  induction h with
  | refl => exact Nat.le_refl _
  | step h ih =>
    rw [passed_succ]
    exact Nat.le_add_right_of_le ih

theorem earlySweeps_succ (s : Simulation) (config : Config) (n : Nat) :
    s.earlySweeps config (n + 1) = s.earlySweeps config n +
      if config.swapEnabled = true ∧ config.memoryLimit < s.bytes n then 1 else 0 := by
  unfold earlySweeps
  cases config.swapEnabled with
  | false => rfl
  | true =>
    rw [if_pos rfl, if_pos rfl, List.range_succ, List.countP_append]
    simp [List.countP_singleton]

/-- A bitmap in memory has the size of all. -/
theorem size_ofPayload (s : Simulation) (lastUsed : Moment) :
    (Content.ofPayload s.bitmap lastUsed).size = s.size := size_zeros s.size

theorem plain_ask : Plain (Script.ask 0) := fun _ => rfl

/-! ## Time -/

/-- The world some time later. -/
def after (w : World) (span : Span) : World := { w with now := w.now + span.nanos }

theorem pass_apply (span : Span) (w : World) : pass span w = .ok () (after w span) := rfl

/-- What was used since the start is not used a second ago before a second is over. -/
theorem not_long_ago {start lastUsed : Int} {time least : Nat} (since : start ≤ lastUsed)
    (quick : time < Span.second) (long : Span.second ≤ least) : ¬ lastUsed + least ≤ start + time := by
  omega

/-! ## Bitmaps -/

/-- So many bitmaps are registered and counted with the manager, and all that has happened to it
apart from that is sweeps that took nothing out. -/
structure Stocked (s : Simulation) (config : Config) (n : Nat) (w : World) : Prop where
  order : InOrder w 0
  made : w.graphics.size = n
  entries : (w.manager 0).registry.entries = (List.range n).map fun g => (g + 1, .graphic g)
  settings : (w.manager 0).config = config
  used : (w.manager 0).used = s.bytes n
  counters : (w.manager 0).counters =
    ⟨s.earlySweeps config n, 0, 0, 0, (w.manager 0).counters.lastSweep⟩
  quiet : (w.manager 0).counters.lastSweep ≠ none →
    config.swapEnabled = true ∧ config.memoryLimit < s.bytes n
  storage : w.storageBroken = false

/-- That stays so while the bitmaps are only used. -/
theorem Stocked.congr (stocked : Stocked s config n w) (managers : v.managers = w.managers)
    (made : v.graphics.size = w.graphics.size)
    (graphics : ∀ g, (v.graphic g).manager = (w.graphic g).manager ∧
      (v.graphic g).toContent.size = (w.graphic g).toContent.size)
    (storage : v.storageBroken = w.storageBroken) : Stocked s config n v := by
  have manager : v.manager 0 = w.manager 0 := by
    unfold World.manager
    rw [managers]
  refine ⟨stocked.order.congr managers made graphics, made.trans stocked.made, ?_, ?_, ?_, ?_, ?_,
    storage.trans stocked.storage⟩
  all_goals rw [manager]
  · exact stocked.entries
  · exact stocked.settings
  · exact stocked.used
  · exact stocked.counters
  · exact stocked.quiet

/-- The first so many bitmaps were made, in so many nanoseconds since the start: each of them is in
memory and held by nobody. -/
structure Filled (s : Simulation) (config : Config) (start : Moment) (time n : Nat) (w : World) :
    Prop extends Stocked s config n w where
  bitmaps : ∀ g < n, ∃ lastUsed, start ≤ lastUsed ∧
    w.graphic g = ⟨.ofPayload s.bitmap lastUsed, g + 1, 0, 0⟩
  nextId : (w.manager 0).nextId = n + 1
  now : w.now = start + time

/-- At the beginning there is nothing. -/
theorem filled_zero (s : Simulation) (config : Config) (start : Moment) :
    Filled s config start 0 0
      (({ World.start [] with now := start } : World).addManager (.new config)) where
  order := ⟨⟨Nat.zero_lt_one, fun _ => nofun, .nil, fun _ => nofun⟩, rfl, rfl, rfl⟩
  made := rfl
  bitmaps _ := nofun
  entries := rfl
  settings := rfl
  used := by
    unfold bytes
    rw [Nat.zero_mul]
    rfl
  nextId := rfl
  counters := by
    unfold earlySweeps
    split
    · rfl
    · rfl
  quiet := fun swept => absurd rfl swept
  now := (Int.add_zero start).symm
  storage := rfl

namespace Filled

/-- Time passes. -/
theorem after (filled : Filled s config start time n w) (span : Span) :
    Filled s config start (time + span.nanos) n (after w span) where
  toStocked := filled.toStocked.congr rfl rfl (fun _ => ⟨rfl, rfl⟩) rfl
  bitmaps := filled.bitmaps
  nextId := filled.nextId
  now := by
    rw [Int.natCast_add, ← Int.add_assoc, ← filled.now]
    rfl

section Registering

variable (filled : Filled s config start time n w)

include filled

/-- What is registered so far are the bitmaps. -/
theorem listed (entry : .graphic g ∈ (w.manager 0).registry.entries.map Prod.snd) : g < n :=
  filled.made ▸ made_of_entry filled.order.hosts entry

theorem below : ∀ e ∈ (w.manager 0).registry.entries, e.1 < n + 1 := by
  intro e entry
  rw [filled.entries] at entry
  obtain ⟨g, before, rfl⟩ := List.mem_map.1 entry
  exact Nat.succ_lt_succ (List.mem_range.1 before)

theorem sweepsFirst : SweepsFirst w 0 ↔
    config.swapEnabled = true ∧ config.memoryLimit < s.bytes n := by
  unfold SweepsFirst
  rw [filled.settings, filled.used, filled.order.idle]
  simp

/-- None of them has been idle for a second when the next one is registered. -/
theorem nothing_displaced (quick : time < Span.second) : displaced w 0 = [] := by
  refine displaced_of_none fun g entry evictable => ?_
  obtain ⟨lastUsed, since, bitmap⟩ := filled.bitmaps g (filled.listed entry)
  have used : (w.profile (.graphic g)).lastUsed = lastUsed :=
    congrArg (fun x : Graphic => x.profile.lastUsed) bitmap
  have idle := Profile.idle_of_evict evictable.1
  rw [used, filled.now] at idle
  exact not_long_ago since quick (Nat.le_mul_of_pos_left _ (Nat.succ_pos _)) idle

end Registering

/-- What a sweep that takes nothing out leaves, and what is there without one: the sweep is counted. -/
structure Roomy (s : Simulation) (config : Config) (n : Nat) (w u : World) : Prop where
  manager : u.manager 0 = { w.manager 0 with counters := (u.manager 0).counters }
  counters : (u.manager 0).counters =
    ⟨s.earlySweeps config (n + 1), 0, 0, 0, (u.manager 0).counters.lastSweep⟩
  quiet : (u.manager 0).counters.lastSweep ≠ none →
    config.swapEnabled = true ∧ config.memoryLimit < s.bytes (n + 1)
  now : u.now = w.now
  storage : u.storageBroken = w.storageBroken

/-- So room is made at nobody's expense, in a world that has the next bitmap. -/
theorem roomy (filled : Filled s config start time n w) (later : Furthered 0 w v)
    (counters : (v.manager 0).counters = (w.manager 0).counters)
    (which : (SweepsFirst v 0 ∧ Eased 0 [] v u) ∨ ¬ SweepsFirst v 0 ∧ u = v) :
    Roomy s config n v u := by
  have more : s.bytes n ≤ s.bytes (n + 1) := s.bytes_mono (Nat.le_succ n)
  rw [later.sweepsFirst, filled.sweepsFirst] at which
  rcases which with ⟨first, eased⟩ | ⟨not, rfl⟩
  · have swept : (u.manager 0).counters =
        ⟨s.earlySweeps config n + 1, 0, 0, 0, some v.now⟩ := by
      rw [eased.manager, counters, filled.counters]
      rfl
    refine ⟨?_, ?_, fun _ => ⟨first.1, Int.lt_of_lt_of_le first.2 more⟩, eased.now, eased.storage⟩
    · conv_lhs => rw [eased.manager]
      rw [eased.manager]
      simp [occupied]
    · rw [swept, earlySweeps_succ, if_pos first]
  · refine ⟨rfl, ?_, fun swept => ?_, rfl, rfl⟩
    · rw [counters, earlySweeps_succ, if_neg not]
      exact filled.counters
    · rw [counters] at swept
      obtain ⟨enabled, above⟩ := filled.quiet swept
      exact ⟨enabled, Int.lt_of_lt_of_le above more⟩

/-- The next bitmap is entered where there is room. -/
theorem enters (filled : Filled s config start time n w) (later : Furthered 0 w v)
    (roomy : Roomy s config n v u) (nextId : (v.manager 0).nextId = n + 2)
    (made : v.graphics.size = n + 1) (size : u.graphics.size = v.graphics.size)
    (graphics : ∀ g, u.graphic g = v.graphic g)
    (bitmap : v.graphic n = ⟨.ofPayload s.bitmap w.now, n + 1, 0, 0⟩)
    (order : InOrder (booked u 0 (n + 1) (.graphic n)) 0) :
    Filled s config start time (n + 1) (booked u 0 (n + 1) (.graphic n)) := by
  have there : 0 < u.managers.size := by
    have there := order.hosts.there
    unfold booked at there
    rwa [World.size_updateManager, World.size_updateManager] at there
  have manager : (booked u 0 (n + 1) (.graphic n)).manager 0 = _ := manager_booked there
  have accounted : u.accounted (.graphic n) = s.size := by
    refine (Content.accounted_profile (u.graphic n)).trans ?_
    rw [graphics, bitmap, size_ofPayload]
  refine ⟨⟨order, size.trans made, ?_, ?_, ?_, ?_, ?_, ?_⟩, fun g before => ?_, ?_, ?_⟩
  · have registry : (u.manager 0).registry = (w.manager 0).registry :=
      (congrArg Manager.registry roomy.manager).trans later.registry
    rw [manager, List.range_succ, List.map_append, ← filled.entries]
    show Registry.place (n + 1) (.graphic n) (u.manager 0).registry.entries = _
    rw [registry]
    exact Registry.place_last filled.below
  · rw [manager]
    exact (congrArg Manager.config roomy.manager).trans (later.config.trans filled.settings)
  · have used : (u.manager 0).used = s.bytes n :=
      (congrArg Manager.used roomy.manager).trans (later.used.trans filled.used)
    rw [manager, bytes_succ, ← used, ← accounted]
    rfl
  · rw [manager]
    exact roomy.counters
  · rw [manager]
    exact roomy.quiet
  · exact roomy.storage.trans (later.storage.trans filled.storage)
  · show ∃ lastUsed, start ≤ lastUsed ∧ u.graphic g = _
    rw [graphics]
    rcases Nat.lt_succ_iff_lt_or_eq.1 before with old | rfl
    · rw [later.graphics g (filled.made.symm ▸ old)]
      exact filled.bitmaps g old
    · refine ⟨w.now, ?_, bitmap⟩
      rw [filled.now]
      exact Int.le_add_of_nonneg_right (Int.natCast_nonneg time)
  · rw [manager]
    exact (congrArg Manager.nextId roomy.manager).trans nextId
  · exact roomy.now.trans (later.now.trans filled.now)

/-- The next bitmap is made and registered. -/
theorem next (filled : Filled s config start time n w)
    (small : s.bytes (n + 1) ≤ Amount.greatest) (quick : time < Span.second) :
    ∃ v, make (Script.ask 0) 0 (.ofPayload s.bitmap w.now) w = .ok n v ∧
      Filled s config start time (n + 1) v := by
  have later := Furthered.created 0 w (.ofPayload s.bitmap w.now)
  have order := later.inOrder filled.order
  have nothing := (later.displaced_eq filled.order.hosts).trans (filled.nothing_displaced quick)
  obtain ⟨made, bitmap, -⟩ := graphic_of_create (create_apply 0 (.ofPayload s.bitmap w.now) w)
  have run := make_apply (Script.ask 0) 0 (.ofPayload s.bitmap w.now) w
  have size : (created w 0 (.ofPayload s.bitmap w.now)).graphics.size = w.graphics.size + 1 :=
    World.size_addGraphic _ _
  have manager : (created w 0 (.ofPayload s.bitmap w.now)).manager 0 = (w.manager 0).takeId :=
    w.manager_updateManager_self 0 filled.order.hosts.there
  rw [filled.made, filled.nextId] at *
  generalize created w 0 (.ofPayload s.bitmap w.now) = v at *
  -- the bitmap is not registered yet, nothing has to go for it, and its size fits
  have absent : (v.manager 0).registry.find? (n + 1) = none := by
    rw [later.registry]
    exact Registry.find?_eq_none.2 fun o entry => Nat.lt_irrefl _ (filled.below _ entry)
  have unlisted : .graphic n ∉ (v.manager 0).registry.entries.map Prod.snd := by
    rw [later.registry]
    exact fun entry => Nat.lt_irrefl _ (filled.listed entry)
  have fits : Amount.fits ((v.manager 0).used - occupied v (displaced v 0) +
      (v.graphic n).size) = true := by
    have bytes : (v.manager 0).used - occupied v [] + (v.graphic n).size = s.bytes (n + 1) := by
      rw [later.used, filled.used, bitmap, size_ofPayload, bytes_succ, occupied_nil, Int.sub_zero]
    rw [nothing, bytes]
    exact s.fits_bytes small
  obtain ⟨u, room, which, registered, order'⟩ := order.takesIn plain_ask absent made
    (congrArg Graphic.manager bitmap) unlisted fits
  obtain ⟨size', graphics⟩ := graphics_of_roomMade plain_ask order.hosts room
  rw [nothing] at which graphics
  have counters : (v.manager 0).counters = (w.manager 0).counters := by
    rw [manager]
    rfl
  have roomy := filled.roomy later counters which
  refine ⟨_, run.trans (bind_of_ok registered), filled.enters later roomy ?_ size size'
    (fun g => (graphics g).trans (if_neg List.not_mem_nil)) bitmap order'⟩
  rw [manager]
  exact congrArg Nat.succ filled.nextId

end Filled

/-! ## All bitmaps -/

/-- The bitmaps from the number `first` on are made and registered in less than a second. -/
theorem filled_makeAll {payload : Thunk Payload} (content : payload.get = s.bitmap) {first : Nat}
    (filled : Filled s config start (passed pauses first) first w)
    (small : s.bytes (first + n) ≤ Amount.greatest)
    (quick : passed pauses (first + n) < Span.second) :
    ∃ v, makeAll pauses 0 payload first n w = .ok (List.range' first n) v ∧
      Filled s config start (passed pauses (first + n)) (first + n) v := by
  induction n generalizing first w with
  | zero => exact ⟨w, rfl, filled⟩
  | succ n ih =>
    -- one bitmap is made after its pause, and the others come after it
    have further : first + 1 + n = first + (n + 1) := Nat.succ_add_eq_add_succ first n
    have filled' := filled.after (pauses first)
    rw [← passed_succ] at filled'
    obtain ⟨u, made, next⟩ := filled'.next
      (Int.le_trans (s.bytes_mono (by omega)) small)
      (Nat.lt_of_le_of_lt (passed_mono pauses (by omega)) quick)
    rw [← further] at small quick ⊢
    obtain ⟨v, others, all⟩ := ih next small quick
    refine ⟨v, ?_, all⟩
    unfold makeAll
    rw [bind_of_ok (pass_apply _ _), get_bind_apply, content, bind_of_ok made, bind_of_ok others]
    rfl

/-- So are all bitmaps of a simulation that begins. -/
theorem fills (s : Simulation) (config : Config) (start : Moment)
    (small : s.bytes s.count ≤ Amount.greatest) (quick : passed pauses s.count < Span.second) :
    ∃ v, makeAll pauses 0 ⟨fun _ => s.bitmap⟩ 0 s.count
        (({ World.start [] with now := start } : World).addManager (.new config)) =
          .ok (List.range' 0 s.count) v ∧
      Filled s config start (passed pauses s.count) s.count v := by
  have empty : Filled s config start (passed pauses 0) 0 _ := filled_zero s config start
  rw [← Nat.zero_add s.count] at small quick
  have content : (⟨fun _ => s.bitmap⟩ : Thunk Payload).get = s.bitmap := rfl
  have filling := filled_makeAll content empty small quick
  rwa [Nat.zero_add] at filling

end Simulation

end GraphicCache
