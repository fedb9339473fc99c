/-
How much a sweep over graphics swaps out. Where the count of a manager is right, its sweep goes down
the graphics that may be evicted and yield, the smallest id first, and stops at the first moment at
which the count is below the target: it takes out the shortest beginning of them that is enough, or
all of them, and neither more nor less. The count follows, so it is right at the end and nothing is
put right; and what the sweep has left it would leave again.
-/
import GraphicCache.Proofs.Run.Refusal
import Mathlib.Data.List.Find
import Mathlib.Data.List.Infix

namespace GraphicCache.Run

open Effect Swapping Sweep Accounting

variable {m g n : Nat} {target : Int} {gs cs : List Nat} {w v x : World}
  {ask : ObjectRef → Effect Unit}

/-! ## The shortest beginning -/

/-- The first of some graphics, as few as bring the count of a manager below the target; all of them
if that is not enough. -/
def fewest (w : World) (m : Nat) (target : Int) (gs : List Nat) : List Nat :=
  (gs.inits.find? fun hs => (w.manager m).used - occupied w hs < target).getD gs

/-- The graphics that a sweep of the manager is to take out. -/
def dispensable (w : World) (m : Nat) : List Nat :=
  fewest w m (w.manager m).config.target (candidates w m (w.manager m).registry.entries)

/-- The search comes to a beginning that is enough, or is all there is, if no shorter one is
enough. -/
theorem getD_find?_inits {α : Type} {p : List α → Bool} {first all : List α}
    (beginning : first <+: all) (needed : ∀ hs, hs <+: first → hs ≠ first → p hs = false)
    (enough : first = all ∨ p first = true) : (all.inits.find? p).getD all = first := by
  induction all generalizing first p with
  | nil =>
    cases List.prefix_nil.1 beginning
    cases nothing : p [] <;> simp [nothing]
  | cons a all ih =>
    rw [List.inits_cons]
    cases nothing : p [] with
    | true =>
      rw [List.find?_cons_of_pos nothing]
      by_contra other
      exact absurd (needed [] List.nil_prefix other) (by simp [nothing])
    | false =>
      -- each longer beginning is one of the rest with `a` before it, and tested as such
      cases first with
      | nil => rcases enough with none | some <;> simp_all
      | cons b first =>
        obtain ⟨rfl, others⟩ := List.cons_prefix_cons.1 beginning
        have rest := ih (p := fun hs => p (b :: hs)) others
          (fun hs early other =>
            needed _ (List.cons_prefix_cons.2 ⟨rfl, early⟩) (by simpa using other))
          (enough.imp_left fun same => (List.cons.inj same).2)
        rw [List.find?_cons_of_neg (by simp [nothing]), List.find?_map, ← rest]
        show (Option.map _ (all.inits.find? fun hs => p (b :: hs))).getD (b :: all) = _
        cases all.inits.find? fun hs => p (b :: hs) <;> rfl

theorem fewest_eq (beginning : gs <+: cs)
    (needed : ∀ hs, hs <+: gs → hs ≠ gs → target ≤ (w.manager m).used - occupied w hs)
    (enough : gs = cs ∨ (w.manager m).used - occupied w gs < target) :
    fewest w m target cs = gs :=
  getD_find?_inits beginning (fun hs early other => by simpa using needed hs early other)
    (enough.imp_right fun below => by simpa using below)

theorem fewest_begins (w : World) (m : Nat) (target : Int) (gs : List Nat) :
    fewest w m target gs <+: gs := by
  unfold fewest
  cases found : gs.inits.find? fun hs => (w.manager m).used - occupied w hs < target with
  | none => exact List.prefix_rfl
  | some hs => exact (List.mem_inits _ _).1 (List.mem_of_find?_eq_some found)

theorem fewest_enough (w : World) (m : Nat) (target : Int) (gs : List Nat) :
    fewest w m target gs = gs ∨
      (w.manager m).used - occupied w (fewest w m target gs) < target := by
  unfold fewest
  cases found : gs.inits.find? fun hs => (w.manager m).used - occupied w hs < target with
  | none => exact .inl rfl
  | some hs => exact .inr (by simpa using List.find?_some found)

/-- Below the target no graphic is to go. -/
theorem fewest_of_below (below : (w.manager m).used < target) : fewest w m target gs = [] :=
  fewest_eq List.nil_prefix (fun _ early other => absurd (List.prefix_nil.1 early) other)
    (.inr (by simpa [occupied] using below))

/-- What a manager counts and what its graphics occupy decides which are to go. -/
theorem fewest_congr (used : (v.manager m).used = (w.manager m).used)
    (same : ∀ hs, hs <+: gs → occupied v hs = occupied w hs) :
    fewest v m target gs = fewest w m target gs := by
  unfold fewest
  congr 1
  refine List.find?_congr fun hs begins => ?_
  rw [used, same hs ((List.mem_inits _ _).1 begins)]

/-! ## Sums without some graphics -/

/-- A sum in which some values became nothing. -/
theorem sum_without {α : Type} {f f' : α → Int} {some all : List α} (listed : some.Sublist all)
    (once : all.Nodup) (gone : ∀ a ∈ some, f' a = 0) (kept : ∀ a ∈ all, a ∉ some → f' a = f a) :
    (all.map f').sum = (all.map f).sum - (some.map f).sum := by
  induction listed with
  | slnil => rfl
  | @cons some all a listed ih =>
    obtain ⟨new, once⟩ := List.nodup_cons.1 once
    obtain ⟨own, kept⟩ := List.forall_mem_cons.1 kept
    have same : f' a = f a := own fun among => new (listed.subset among)
    rw [List.map_cons, List.map_cons, List.sum_cons, List.sum_cons, same, ih once gone kept]
    omega
  | @cons_cons some all a listed ih =>
    obtain ⟨new, once⟩ := List.nodup_cons.1 once
    obtain ⟨own, gone⟩ := List.forall_mem_cons.1 gone
    have kept' : ∀ b ∈ all, b ∉ some → f' b = f b := by
      intro b among absent
      refine kept b (List.mem_cons_of_mem a among) fun listed' => ?_
      rcases List.mem_cons.1 listed' with rfl | early
      · exact new among
      · exact absent early
    rw [List.map_cons, List.map_cons, List.map_cons, List.sum_cons, List.sum_cons, List.sum_cons,
      own, ih once gone kept']
    omega

/-- The sum over the registry without the graphics that were swapped out. -/
theorem literalUsage_without (hosts : Hosts w m (w.manager m).registry.entries)
    (first : gs <+: candidates w m (w.manager m).registry.entries)
    (registry : (x.manager m).registry = (w.manager m).registry)
    (out : ∀ g ∈ gs, (x.graphic g).swappedOut = true)
    (kept : ∀ g, g ∉ gs → x.graphic g = w.graphic g) :
    literalUsage x m = literalUsage w m - occupied w gs := by
  rw [literalUsage_eq, literalUsage_eq, registry, occupied_eq]
  refine sum_without ((first.sublist.map _).trans (candidates_sublist _)) hosts.once ?_ ?_
  · -- what is swapped out counts for nothing
    intro o listed
    obtain ⟨g, among, rfl⟩ := List.mem_map.1 listed
    show (x.graphic g).profile.accounted = 0
    rw [Content.accounted_profile, Content.size_eq_zero_of_out (out g among)]
    rfl
  · intro o listed absent
    obtain ⟨e, entry, rfl⟩ := List.mem_map.1 listed
    obtain ⟨g, object, -, -⟩ := hosts.graphics e entry
    rw [object] at absent ⊢
    have absent : g ∉ gs := fun among => absent (List.mem_map_of_mem among)
    show (x.graphic g).profile.accounted = (w.graphic g).profile.accounted
    rw [kept g absent]

/-- Sizes of graphics add up where their sum is an amount. -/
theorem inRange_of_graphics (graphics : ∀ e ∈ (w.manager m).registry.entries, ∃ g, e.2 = .graphic g)
    (fits : Amount.fits (literalUsage w m) = true) : InRange w m := by
  have nonneg : ∀ n ∈ contributions w m, 0 ≤ n := by
    intro n among
    obtain ⟨e, entry, rfl⟩ := List.mem_map.1 among
    obtain ⟨g, same⟩ := graphics e entry
    rw [same]
    exact accounted_graphic_nonneg w g
  intro k
  rw [← contributions_sum] at fits
  have most := (Amount.fits_iff.1 fits).2
  have less : ((contributions w m).take k).sum ≤ (contributions w m).sum :=
    (List.take_sublist k _).sum_le_sum nonneg
  have none : 0 ≤ ((contributions w m).take k).sum :=
    List.sum_nonneg fun n among => nonneg n (List.mem_of_mem_take among)
  exact Amount.fits_iff.2 ⟨Int.le_trans (by decide) none, Int.le_trans less most⟩

/-! ## Managers in order -/

/-- A manager of graphics only, each registered once, that counts them right and is not sweeping. -/
structure InOrder (w : World) (m : Nat) : Prop where
  hosts : Hosts w m (w.manager m).registry.entries
  right : (w.manager m).used = literalUsage w m
  fits : Amount.fits (w.manager m).used = true
  idle : (w.manager m).reducing = false

/-- In a state of a run nothing is registered twice. -/
theorem Rooted.inOrder (h : Rooted w) (there : m < w.managers.size)
    (graphics : ∀ e ∈ (w.manager m).registry.entries, ∃ g, e.2 = .graphic g)
    (right : (w.manager m).used = literalUsage w m) (fits : Amount.fits (w.manager m).used = true)
    (idle : (w.manager m).reducing = false) : InOrder w m :=
  ⟨h.hosts there graphics, right, fits, idle⟩

/-- Candidates can be taken off the count. -/
theorem InOrder.fits_without (order : InOrder w m)
    (first : gs <+: candidates w m (w.manager m).registry.entries) :
    Amount.fits ((w.manager m).used - occupied w gs) = true := by
  have most := (Amount.fits_iff.1 order.fits).2
  have less := occupied_nonneg w gs
  have left : 0 ≤ (w.manager m).used - occupied w gs := by
    rw [order.right]
    exact Int.sub_nonneg.2 (occupied_le first order.hosts.only_graphics)
  exact Amount.fits_iff.2 ⟨Int.le_trans (by decide) left, by omega⟩

/-! ## One sweep -/

/-- Some graphics were swapped out by a sweep and counted as its evictions: their bytes are counted
no more, and neither the other graphics nor the other managers have changed in anything. -/
structure Eased (m : Nat) (gs : List Nat) (w v : World) : Prop where
  out : ∀ g ∈ gs, v.graphic g = { w.graphic g with toContent := (w.graphic g).stowed } ∧
    (v.graphic g).swappedOut = true
  kept : ∀ g, g ∉ gs → v.graphic g = w.graphic g
  manager : v.manager m = { w.manager m with
    used := (w.manager m).used - occupied w gs
    counters := { (w.manager m).counters with
      sweeps := (w.manager m).counters.sweeps + 1
      evictions := (w.manager m).counters.evictions + gs.length
      lastSweep := some w.now } }
  others : ∀ k, k ≠ m → v.manager k = w.manager k
  now : v.now = w.now
  storage : v.storageBroken = w.storageBroken

theorem storage_thinned (gs : List Nat) (w : World) :
    (thinned gs w).storageBroken = w.storageBroken := by
  induction gs generalizing w with
  | nil => rfl
  | cons g gs ih => exact (ih (takenOut w g)).trans rfl

theorem hosts_thinned {entries : List (Nat × ObjectRef)} (hosts : Hosts w m entries)
    (gs : List Nat) : Hosts (thinned gs w) m entries := by
  induction gs generalizing w with
  | nil => exact hosts
  | cons g gs ih => exact ih (hosts.takenOut g)

/-- The world after the end of a sweep that had nothing to put right. -/
def concluded (w : World) (m evicted : Nat) : World :=
  w.updateManager m fun x => { x.countSweep evicted w.now with reducing := false }

theorem finish_of_right (hosts : Hosts w m (w.manager m).registry.entries)
    (right : (w.manager m).used = literalUsage w m) (fits : Amount.fits (w.manager m).used = true)
    (n : Nat) : finish m n w = .ok () (concluded w m n) ∧ InOrder (concluded w m n) m := by
  have sums : InRange w m := inRange_of_graphics hosts.only_graphics (right ▸ fits)
  have manager : (concluded w m n).manager m =
      { (w.manager m).countSweep n w.now with reducing := false } :=
    w.manager_updateManager_self m hosts.there
  refine ⟨?_, ?_, ?_, ?_, ?_⟩
  · rw [finish_iff, corrected_of_right right]
    exact ⟨sums, rfl⟩
  · rw [manager]
    exact hosts.updateManager fun _ => rfl
  · have same : literalUsage (concluded w m n) m = literalUsage w m :=
      literalUsage_congr (by rw [manager]; rfl) (w.profile_updateManager m _)
    rw [same, ← right, manager]
    rfl
  · rw [manager]
    exact fits
  · rw [manager]

/-- A walk that came to its end has taken out the fewest candidates. -/
theorem fewest_of_thinning {visits : List Visit} (h : Thinning m target cs w (.ok visits v))
    (there : m < w.managers.size) (own : ∀ g ∈ cs, (w.graphic g).manager = m) (once : cs.Nodup) :
    v = thinned (fewest w m target cs) w ∧
      visits.countP Visit.isEviction = (fewest w m target cs).length := by
  generalize result : EStateM.Result.ok visits v = r at h
  cases h with
  | @through gs visits' first above done counted =>
    cases result
    have used {hs : List Nat} (early : hs <+: cs) :
        ((thinned hs w).manager m).used = (w.manager m).used - occupied w hs :=
      used_thinned there (fun g listed => own g (early.subset listed)) (early.sublist.nodup once)
    have same : fewest w m target cs = gs :=
      fewest_eq first (fun hs early other => used (early.trans first) ▸ above hs early other)
        (done.imp_right fun below => used first ▸ below)
    rw [same]
    exact ⟨rfl, counted⟩
  | halted => cases result

/-- So has a walk over the graphics of a manager whose sweep begins now. -/
theorem dispensable_of_walk {visits : List Visit} (plain : Plain ask)
    (hosts : Hosts w m (w.manager m).registry.entries)
    (walked : walk ask m (w.manager m).config.target (w.manager m).registry.entries
      (w.updateManager m Manager.beginSweep) = .ok visits x) :
    x = thinned (dispensable w m) (w.updateManager m Manager.beginSweep) ∧
      visits.countP Visit.isEviction = (dispensable w m).length := by
  have hosts' := hosts.updateManager (f := Manager.beginSweep) fun _ => rfl
  have thinning := walk_graphics plain (w.manager m).config.target hosts'
  have same (gs : List Nat) : fewest (w.updateManager m Manager.beginSweep) m
      (w.manager m).config.target gs = fewest w m (w.manager m).config.target gs :=
    fewest_congr (w.updateManager_keeps m m fun _ => rfl) fun _ _ => rfl
  rw [walked, candidates_updateManager (f := Manager.beginSweep) fun _ => rfl] at thinning
  have taken := fewest_of_thinning thinning hosts'.there hosts.own (nodup_candidates hosts.once)
  rw [same] at taken
  exact taken

namespace InOrder

/-- The walk of a sweep that begins now. -/
theorem walks (order : InOrder w m) (plain : Plain ask) :
    ∃ visits, walk ask m (w.manager m).config.target (w.manager m).registry.entries
        (w.updateManager m Manager.beginSweep) =
          .ok visits (thinned (dispensable w m) (w.updateManager m Manager.beginSweep)) ∧
      visits.countP Visit.isEviction = (dispensable w m).length := by
  cases result : walk ask m (w.manager m).config.target (w.manager m).registry.entries
      (w.updateManager m Manager.beginSweep) with
  | ok visits x =>
    obtain ⟨rfl, counted⟩ := dispensable_of_walk plain order.hosts result
    exact ⟨visits, rfl, counted⟩
  | error e x =>
    -- what is taken out was counted, so it can be taken off
    have hosts := order.hosts.updateManager (f := Manager.beginSweep) fun _ => rfl
    have walked := walk_graphics plain (w.manager m).config.target hosts
    rw [result, candidates_updateManager (f := Manager.beginSweep) fun _ => rfl] at walked
    obtain ⟨gs, first, -, -, beyond⟩ :=
      walked.error hosts.there order.hosts.own (nodup_candidates order.hosts.once)
    have used : ((w.updateManager m Manager.beginSweep).manager m).used = (w.manager m).used :=
      w.updateManager_keeps m m fun _ => rfl
    rw [used] at beyond
    exact absurd (order.fits_without first) (Bool.eq_false_iff.1 beyond)

/-- The walk has left the graphics it has taken out swapped out, the others as they were, and a
count that is right. -/
theorem walked (order : InOrder w m)
    (first : gs <+: candidates w m (w.manager m).registry.entries)
    (left : thinned gs (w.updateManager m Manager.beginSweep) = x) :
    Cleared m gs (w.updateManager m Manager.beginSweep) x ∧
      (∀ g ∈ gs, x.graphic g = { w.graphic g with toContent := (w.graphic g).stowed }) ∧
      x.manager m = (w.manager m).beginSweep.setUsed ((w.manager m).used - occupied w gs) ∧
      (x.manager m).used = literalUsage x m := by
  have begun := w.manager_updateManager_self (f := Manager.beginSweep) m order.hosts.there
  have there : m < (w.updateManager m Manager.beginSweep).managers.size :=
    (w.size_updateManager m _).symm ▸ order.hosts.there
  have own : ∀ g ∈ gs, ((w.updateManager m Manager.beginSweep).graphic g).manager = m :=
    fun g listed => order.hosts.own g (first.subset listed)
  have once : gs.Nodup := first.sublist.nodup (nodup_candidates order.hosts.once)
  have cleared := cleared_thinned own once
  have used := used_thinned there own once
  rw [left] at cleared used
  have out : ∀ g ∈ gs, x.graphic g = { w.graphic g with toContent := (w.graphic g).stowed } := by
    intro g among
    have made : g < w.graphics.size :=
      made_of_available (mem_candidates.1 (first.subset among)).2.yields.1
    rw [cleared.graphic, if_pos ⟨among, made⟩]
    rfl
  have manager : x.manager m =
      (w.manager m).beginSweep.setUsed ((w.manager m).used - occupied w gs) := by
    rw [cleared.manager, used, begun]
    rfl
  refine ⟨cleared, out, manager, ?_⟩
  rw [literalUsage_without order.hosts first (by rw [manager]; rfl)
    (fun g among => by rw [out g among]; rfl) (fun g absent => cleared.graphic_of_not_mem absent),
    manager, ← order.right]
  rfl

/-- A sweep comes to its end, takes out what is dispensable, and leaves the manager in order. -/
theorem sweeps (order : InOrder w m) (plain : Plain ask) :
    ∃ v, complete ask m w = .ok () v ∧ Eased m (dispensable w m) w v ∧ InOrder v m := by
  obtain ⟨visits, walked, counted⟩ := order.walks plain
  have run := complete_apply ask m w
  rw [bind_of_ok walked, counted] at run
  have first : dispensable w m <+: candidates w m (w.manager m).registry.entries :=
    fewest_begins _ _ _ _
  have hosts := hosts_thinned (order.hosts.updateManager (f := Manager.beginSweep) fun _ => rfl)
    (dispensable w m)
  have storage := storage_thinned (dispensable w m) (w.updateManager m Manager.beginSweep)
  generalize left : thinned (dispensable w m) (w.updateManager m Manager.beginSweep) = x
    at run hosts storage
  generalize dispensable w m = gs at *
  obtain ⟨cleared, out, manager, right⟩ := order.walked first left
  have registry : (x.manager m).registry = (w.manager m).registry := by
    rw [manager]
    rfl
  rw [← registry] at hosts
  have fits : Amount.fits (x.manager m).used = true := by
    rw [manager]
    exact order.fits_without first
  obtain ⟨finished, order'⟩ := finish_of_right hosts right fits gs.length
  refine ⟨_, run.trans finished, ⟨fun g among => ?_, fun g absent => ?_, ?_, fun k other => ?_,
    cleared.now, storage⟩, order'⟩
  · exact ⟨out g among, congrArg (·.swappedOut) (out g among)⟩
  · exact cleared.graphic_of_not_mem absent
  · rw [concluded, x.manager_updateManager_self m hosts.there, manager, cleared.now]
    rw [← order.idle]
    rfl
  · exact (x.manager_updateManager_ne m k other.symm).trans
      ((cleared.others k other).trans (w.manager_updateManager_ne m k other.symm))

end InOrder

/-! ## The next sweep -/

/-- What a sweep has left, the next would leave. -/
theorem Eased.dispensable (eased : Eased m (dispensable w m) w v) : dispensable v m = [] := by
  have config : (v.manager m).config = (w.manager m).config := by rw [eased.manager]
  have registry : (v.manager m).registry = (w.manager m).registry := by rw [eased.manager]
  have used : (v.manager m).used = (w.manager m).used - occupied w (Run.dispensable w m) := by
    rw [eased.manager]
  rcases fewest_enough w m (w.manager m).config.target
    (candidates w m (w.manager m).registry.entries) with all | enough
  · -- no candidate is left
    have none : candidates v m (v.manager m).registry.entries = [] := by
      refine List.eq_nil_iff_forall_not_mem.2 fun g listed => ?_
      obtain ⟨entry, evictable⟩ := mem_candidates.1 listed
      by_cases taken : g ∈ Run.dispensable w m
      · have inside := (Profile.decide_eq_evict.1 evictable.1).1
        exact absurd (eased.out g taken).2 (Bool.eq_false_iff.1 inside)
      · rw [registry] at entry
        have before := (evictable_congr (eased.kept g taken) config eased.now eased.storage).1
          evictable
        rw [Run.dispensable, all] at taken
        exact taken (mem_candidates.2 ⟨entry, before⟩)
    rw [Run.dispensable, none]
    exact List.prefix_nil.1 (fewest_begins _ _ _ _)
  · -- the count is below the target, and nothing is to go
    refine fewest_of_below ?_
    rw [used, config]
    exact enough

/-! ## The result -/

/-- A sweep takes out no more than it takes, and all it can if that is not enough. It is due for a
manager of graphics only, in order. Then, of the graphics that may be evicted and yield, it swaps
out the first, as few of them as bring the count below the target, or all if there are not enough;
only their bytes and the sweep itself are counted, and nothing else has changed. So the count ends
below the target, or each of those graphics ends swapped out, and another sweep at the same time
swaps out nothing more. -/
theorem sweeps_take_the_fewest (order : InOrder w m) (due : Due w m) (plain : Plain ask) :
    ∃ v, attempt ask m w = .ok () v ∧ Eased m (dispensable w m) w v ∧
      ((v.manager m).used < (w.manager m).config.target ∨
        ∀ g ∈ candidates w m (w.manager m).registry.entries, (v.graphic g).swappedOut = true) ∧
      ∃ u, attempt ask m v = .ok () u ∧ (∀ g, u.graphic g = v.graphic g) ∧
        (u.manager m).counters.evictions = (v.manager m).counters.evictions := by
  obtain ⟨v, done, eased, order'⟩ := order.sweeps plain
  refine ⟨v, (attempt_of_idle ask due order.idle).trans done, eased, ?_, ?_⟩
  · rcases fewest_enough w m (w.manager m).config.target
      (candidates w m (w.manager m).registry.entries) with all | enough
    · refine .inr fun g listed => (eased.out g ?_).2
      rw [dispensable, all]
      exact listed
    · refine .inl ?_
      rw [eased.manager]
      exact enough
  · by_cases again : Due v m
    · obtain ⟨u, done, eased', -⟩ := order'.sweeps plain
      rw [eased.dispensable] at eased'
      refine ⟨u, (attempt_of_idle ask again order'.idle).trans done,
        fun g => eased'.kept g List.not_mem_nil, ?_⟩
      rw [eased'.manager]
      rfl
    · exact ⟨v, attempt_of_not_due ask again, fun _ => rfl, rfl⟩

set_option maxRecDepth 20000 in
/-- Two films lie idle with a manager that has to let go of one; its sweep swaps out the first. -/
theorem first_film_is_swapped_out :
    ∃ acts c v, Reached [] acts c ∧
      candidates c.world 0 (c.world.manager 0).registry.entries = [0, 1] ∧
      attempt askQuietly 0 c.world = .ok () v ∧ (v.graphic 0).swappedOut = true ∧
      v.graphic 1 = c.world.graphic 1 ∧ (v.manager 0).used = 100489 := by
  have managed := (reached_start []).next
    (.op (o := .addManager { Config.builtIn with memoryLimit := 150000 } false) rfl trivial rfl)
  have first := (managed.next (.make (m := 0) (o := .payload film) rfl (by decide) fits_film rfl)).next
    (.settle rfl)
  have second := (first.next (.make (m := 0) (o := .payload film) rfl (by decide) fits_film rfl)).next
    (.settle rfl)
  have later := second.next (.op (o := .advance (.ofSeconds 20)) rfl trivial rfl)
  have order : InOrder _ 0 := later.orderly.world.inOrder (by decide)
    (List.forall_mem_cons.2 ⟨⟨0, rfl⟩, List.forall_mem_singleton.2 ⟨1, rfl⟩⟩) rfl
    (by decide +kernel) rfl
  obtain ⟨v, done, eased, -⟩ := sweeps_take_the_fewest order (by decide +kernel)
    lawful_askQuietly.graphic
  refine ⟨_, _, v, later, by decide +kernel, done, (eased.out 0 (by decide +kernel)).2,
    eased.kept 1 (by decide +kernel), ?_⟩
  rw [eased.manager]
  decide +kernel

end GraphicCache.Run
