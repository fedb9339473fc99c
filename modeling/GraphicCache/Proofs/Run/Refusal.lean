/-
Refusals. A graphic that cannot be swapped out is left as it is, and so is its manager: a swap-out
drops the payload and counts it no more, or it changes nothing. So a sweep over graphics does not
suffer from a storage in which nothing can be put: it takes out what has a link and counts that,
and passes by the rest.
-/
import GraphicCache.Proofs.Run.Healing
import GraphicCache.Proofs.Run.Owners
import GraphicCache.Proofs.Sweep.Graphics
import Mathlib.Algebra.Order.BigOperators.Group.List

namespace GraphicCache

open Effect

/-! ## Sums out of range -/

/-- A list that does not add up fails at an addition. -/
theorem Amount.sum_error {amounts : List Int} {e : Overflow} (h : Amount.sum amounts = .error e) :
    e = .add := by
  have failed (total : Int) :
      ∀ amounts : List Int, sumFrom total amounts = .error e → e = .add := by
    intro amounts
    induction amounts generalizing total with
    | nil => nofun
    | cons a rest ih =>
      intro h
      unfold sumFrom add at h
      split at h
      · exact ih _ h
      · cases h
        rfl
  exact failed 0 amounts h

theorem Sweep.finish_of_not_inRange {m n : Nat} {w : World} (beyond : ¬ Accounting.InRange w m) :
    finish m n w = .error (.overflow .add) w := by
  refine bind_of_error ?_
  rw [Accounting.reconcile_apply]
  cases sum : Amount.sum (Accounting.contributions w m) with
  | ok total => exact absurd (Amount.sum_eq_ok.1 sum).1 beyond
  | error e => rw [Amount.sum_error sum]

theorem Sweep.finish_of_inRange {m : Nat} {w : World} (sums : Accounting.InRange w m) (n : Nat) :
    ∃ v, finish m n w = .ok () v :=
  ⟨_, finish_iff.2 ⟨sums, rfl⟩⟩

/-- The worlds differ at most in what a manager counts. -/
structure Sweep.Recounted (m : Nat) (w v : World) : Prop where
  graphics : v.graphics = w.graphics
  others : ∀ k, k ≠ m → v.manager k = w.manager k
  registry : (v.manager m).registry = (w.manager m).registry
  config : (v.manager m).config = (w.manager m).config

theorem Sweep.Recounted.refl (m : Nat) (w : World) : Recounted m w w :=
  ⟨rfl, fun _ _ => rfl, rfl, rfl⟩

theorem Sweep.recounted_finish {m n : Nat} {w v : World} (h : finish m n w = .ok () v) :
    Recounted m w v := by
  have healed := healed_of_finish h
  obtain ⟨total, -, rfl⟩ := finish_ok h
  refine ⟨rfl, healed.others, healed.registry, ?_⟩
  have counted : ∀ x : Manager,
      ({ x.countSweep n w.now with reducing := false } : Manager).config = x.config := fun _ => rfl
  rw [World.updateManager_keeps (q := Manager.config) _ m m counted]
  exact w.updateManager_keeps m m fun x => congrArg Prod.fst (x.sweepPart_correct total)

namespace Run

open Swapping Sweep Accounting

variable {environment : Names String} {acts : List Action} {c : State} {w v : World} {m g : Nat}
  {gs : List Nat} {ask : ObjectRef → Effect Unit}

/-! ## One graphic -/

/-- A graphic was swapped out: the payload is dropped, unless there is a link it is in a swap file
now, and its size is counted no more. -/
def SwappedOut (g : Nat) (w v : World) : Prop :=
  ∃ p, (w.graphic g).payload = some p ∧
    Shifted g { (w.graphic g).toContent with
        payload := none
        swappedOut := true
        backing := if (w.graphic g).isLinked then (w.graphic g).backing else .file (.write p) }
      ((w.manager (w.graphic g).manager).used - p.size) w v

/-- What is stowed has its payload in a file if there is no link. -/
theorem stowed_of_payload {c : Content} {p : Payload} (payload : c.payload = some p) :
    c.stowed = { c with
      payload := none
      swappedOut := true
      backing := if c.isLinked then c.backing else .file (.write p) } := by
  unfold Content.stowed Content.isLinked
  rw [payload]
  cases c.backing with
  | none => rfl
  | link link page => rfl
  | file f => rfl

theorem made_of_available (available : (w.graphic g).isAvailable = true) :
    g < w.graphics.size := by
  by_contra absent
  rw [w.graphic_of_size_le g (by omega)] at available
  cases available

theorem swappedOut_takenOut (h : Rooted w) (available : (w.graphic g).isAvailable = true) :
    SwappedOut g w (takenOut w g) := by
  have made := made_of_available available
  obtain ⟨inside, some⟩ :
      (w.graphic g).swappedOut = false ∧ (w.graphic g).payload.isSome = true := by
    simpa [Content.isAvailable] using available
  obtain ⟨p, payload⟩ := Option.isSome_iff_exists.1 some
  have size : (w.graphic g).size = p.size := Content.size_eq_of_payload payload inside
  refine ⟨p, payload, ?_⟩
  rw [← stowed_of_payload payload, ← size]
  exact shifted made (h.manager_there made) _ _

/-! ## Sweeps over graphics -/

/-- The entries of a manager with graphics only are graphics of its own. -/
theorem Rooted.hosts (h : Rooted w) (there : m < w.managers.size)
    (graphics : ∀ e ∈ (w.manager m).registry.entries, ∃ g, e.2 = .graphic g) :
    Hosts w m (w.manager m).registry.entries := by
  have known {e : Nat × ObjectRef} {g : Nat} (listed : e ∈ (w.manager m).registry.entries)
      (object : e.2 = .graphic g) :
      g < w.graphics.size ∧ (w.graphic g).id = e.1 ∧ (w.graphic g).manager = m := by
    obtain ⟨id, o⟩ := e
    cases object
    exact h.entries listed
  refine ⟨there, fun e listed => ?_, ?_, fun e listed => Registry.contains_iff.2 ⟨e.2, listed⟩⟩
  · obtain ⟨g, object⟩ := graphics e listed
    obtain ⟨made, -, own⟩ := known listed object
    exact ⟨g, object, made, own⟩
  -- two entries of one graphic have the id of the graphic
  · refine List.Nodup.map_on (fun e listed e' listed' same => ?_)
      (List.Nodup.of_map Prod.fst (w.manager m).registry.nodup_ids)
    obtain ⟨g, object⟩ := graphics e listed
    obtain ⟨-, id, -⟩ := known listed object
    obtain ⟨-, id', -⟩ := known listed' (same ▸ object)
    exact Prod.ext (id.symm.trans id') same

/-- A sweep has taken out graphics that have links, and has left everything else: the other
graphics, how they are judged, the other managers and what is registered. -/
structure Relieved (m : Nat) (gs : List Nat) (w v : World) : Prop where
  first : gs <+: candidates w m (w.manager m).registry.entries
  once : gs.Nodup
  linked : ∀ g ∈ gs, ((w.graphic g).id, .graphic g) ∈ (w.manager m).registry.entries ∧
    (w.graphic g).isAvailable = true ∧ (w.graphic g).isLinked = true
  out : ∀ g ∈ gs, v.graphic g = { w.graphic g with payload := none, swappedOut := true }
  kept : ∀ g, g ∉ gs → v.graphic g = w.graphic g
  judged : ∀ g, g ∉ gs → ∀ now, (v.profile (.graphic g)).decide (v.manager m).config now =
    (w.profile (.graphic g)).decide (w.manager m).config now
  others : ∀ k, k ≠ m → v.manager k = w.manager k
  registry : (v.manager m).registry = (w.manager m).registry

/-- How a sweep ends that has taken out some graphics: they are counted as evictions, or their sizes
cannot be taken off the count, or what is left cannot be added up. -/
inductive Ends (ask : ObjectRef → Effect Unit) (m : Nat) (gs : List Nat) (w v : World) : Prop where
  | completes (done : complete ask m w = .ok () v)
      (recorded : (v.manager m).record = (w.manager m).record.next gs.length w.now)
      (needed : ∀ hs, hs <+: gs → hs ≠ gs →
        (w.manager m).config.target ≤ (w.manager m).used - occupied w hs)
      (enough : gs = candidates w m (w.manager m).registry.entries ∨
        (w.manager m).used - occupied w gs < (w.manager m).config.target)
  | halts (halted : complete ask m w = .error (.overflow .sub) v)
      (beyond : Amount.fits ((w.manager m).used - occupied w gs) = false)
  | breaks (halted : complete ask m w = .error (.overflow .add) v) (beyond : ¬ InRange v m)

/-- What a walk has taken out of a broken storage's world, the sweep has taken out. -/
theorem Rooted.relieved (h : Rooted w) {x : World}
    (hosts : Hosts w m (w.manager m).registry.entries) (broken : w.storageBroken = true)
    (first : gs <+: candidates w m (w.manager m).registry.entries)
    (cleared : Cleared m gs (w.updateManager m Manager.beginSweep) x)
    (recounted : Recounted m x v) : Relieved m gs w v := by
  have graphic (k : Nat) : v.graphic k = x.graphic k := by
    unfold World.graphic
    rw [recounted.graphics]
  have kept {k : Nat} (absent : k ∉ gs) : v.graphic k = w.graphic k :=
    (graphic k).trans (cleared.graphic_of_not_mem absent)
  have config : (v.manager m).config = (w.manager m).config := by
    rw [recounted.config, cleared.manager]
    exact w.updateManager_keeps (q := Manager.config) m m fun _ => rfl
  have candidate {k : Nat} (listed : k ∈ gs) := mem_candidates.1 (first.subset listed)
  have linked {k : Nat} (listed : k ∈ gs) : (w.graphic k).isLinked = true := by
    obtain ⟨-, -, linked | stores⟩ := candidate listed
    · exact linked
    · rw [broken] at stores
      cases stores
  refine ⟨first, first.sublist.nodup (nodup_candidates hosts.once), fun k listed => ?_,
    fun k listed => ?_, fun k => kept, fun k absent now => ?_, fun k other => ?_, ?_⟩
  · obtain ⟨entry, evictable⟩ := candidate listed
    obtain ⟨⟨id, o⟩, entry, object⟩ := List.mem_map.1 entry
    obtain rfl : o = .graphic k := object
    obtain ⟨-, own, -⟩ : (skeleton w).Known k m id := h.entries entry
    have own : (w.graphic k).id = id := own
    exact ⟨own ▸ entry, evictable.yields.1, linked listed⟩
  · have made : k < w.graphics.size := made_of_available (candidate listed).2.yields.1
    rw [graphic, cleared.graphic, if_pos ⟨listed, made⟩, World.graphic_updateManager,
      Content.stowed_of_isLinked (linked listed)]
  · have profile : v.profile (.graphic k) = w.profile (.graphic k) :=
      congrArg Graphic.profile (kept absent)
    rw [profile, config]
  · rw [recounted.others k other, cleared.others k other]
    exact w.manager_updateManager_ne m k (Ne.symm other)
  · rw [recounted.registry, cleared.manager]
    exact w.updateManager_keeps (q := Manager.registry) m m fun _ => rfl

/-- The end of a sweep that took out graphics is recorded on top of what was recorded before. -/
theorem record_of_cleared {x : World} {n : Nat} (there : m < w.managers.size)
    (cleared : Cleared m gs (w.updateManager m Manager.beginSweep) x)
    (finished : finish m n x = .ok () v) :
    (v.manager m).record = (w.manager m).record.next n w.now := by
  have there' : m < x.managers.size := by
    rw [cleared.managers, World.size_updateManager]
    exact there
  rw [record_finish finished there', cleared.manager, cleared.now,
    w.manager_updateManager_self m there]
  rfl

/-- A sweep over graphics when nothing can be stored. -/
theorem Rooted.sweeps (h : Rooted w) (plain : Plain ask) (there : m < w.managers.size)
    (graphics : ∀ e ∈ (w.manager m).registry.entries, ∃ g, e.2 = .graphic g)
    (broken : w.storageBroken = true) : ∃ gs v, Relieved m gs w v ∧ Ends ask m gs w v := by
  have hosts := h.hosts there graphics
  have run := complete_apply ask m w
  have walked := walk_graphics plain (w.manager m).config.target (hosts.updateManager
    (f := Manager.beginSweep) fun _ => rfl)
  have once := nodup_candidates (w := w) (m := m) hosts.once
  have there' : m < (w.updateManager m Manager.beginSweep).managers.size :=
    (w.size_updateManager m _).symm ▸ there
  have used : ((w.updateManager m Manager.beginSweep).manager m).used = (w.manager m).used :=
    w.updateManager_keeps (q := Manager.used) m m fun _ => rfl
  rw [candidates_updateManager (f := Manager.beginSweep) fun _ => rfl] at walked
  cases result : walk ask m (w.manager m).config.target (w.manager m).registry.entries
      (w.updateManager m Manager.beginSweep) with
  | ok visits x =>
    rw [result] at walked
    obtain ⟨gs, first, cleared, needed, enough, counted⟩ := walked.ok there' hosts.own once
    rw [used] at needed enough
    rw [bind_of_ok result, counted] at run
    by_cases sums : InRange x m
    · obtain ⟨v, finished⟩ := finish_of_inRange sums gs.length
      exact ⟨gs, v, h.relieved hosts broken first cleared (recounted_finish finished),
        .completes (run.trans finished) (record_of_cleared there cleared finished) needed enough⟩
    · exact ⟨gs, x, h.relieved hosts broken first cleared (.refl m x),
        .breaks (run.trans (finish_of_not_inRange sums)) sums⟩
  | error e x =>
    rw [result] at walked
    obtain ⟨gs, first, cleared, rfl, beyond⟩ := walked.error there' hosts.own once
    rw [used] at beyond
    exact ⟨gs, x, h.relieved hosts broken first cleared (.refl m x),
      .halts (run.trans (bind_of_error result)) beyond⟩

/-! ## Counts that are right -/

theorem candidates_sublist (entries : List (Nat × ObjectRef)) :
    ((candidates w m entries).map ObjectRef.graphic).Sublist (entries.map Prod.snd) := by
  unfold candidates
  induction entries.map Prod.snd with
  | nil => exact .slnil
  | cons o rest ih =>
    rw [List.filterMap_cons]
    cases found : candidate? w m o with
    | none => exact ih.cons o
    | some g =>
      obtain ⟨rfl, -⟩ := candidate?_eq_some.1 found
      exact ih.cons_cons _

theorem accounted_graphic_nonneg (w : World) (g : Nat) : 0 ≤ w.accounted (.graphic g) := by
  show 0 ≤ (w.graphic g).profile.accounted
  rw [Content.accounted_profile]
  exact Int.natCast_nonneg _

/-- Graphics occupy what they are accounted with. -/
theorem occupied_eq (w : World) (gs : List Nat) :
    occupied w gs = ((gs.map ObjectRef.graphic).map w.accounted).sum := by
  unfold occupied
  rw [List.map_map]
  congr 1
  refine List.map_congr_left fun g _ => ?_
  exact (Content.accounted_profile (w.graphic g)).symm

theorem literalUsage_eq (w : World) (m : Nat) :
    literalUsage w m = (((w.manager m).registry.entries.map Prod.snd).map w.accounted).sum := by
  rw [← contributions_sum, List.map_map]
  rfl

/-- Candidates do not occupy more than all graphics together. -/
theorem occupied_le (first : gs <+: candidates w m (w.manager m).registry.entries)
    (graphics : ∀ e ∈ (w.manager m).registry.entries, ∃ g, e.2 = .graphic g) :
    occupied w gs ≤ literalUsage w m := by
  have listed : (gs.map ObjectRef.graphic).Sublist ((w.manager m).registry.entries.map Prod.snd) :=
    (first.sublist.map _).trans (candidates_sublist _)
  rw [occupied_eq, literalUsage_eq]
  refine (listed.map _).sum_le_sum fun n among => ?_
  obtain ⟨o, object, rfl⟩ := List.mem_map.1 among
  obtain ⟨e, entry, rfl⟩ := List.mem_map.1 object
  obtain ⟨g, same⟩ := graphics e entry
  rw [same]
  exact accounted_graphic_nonneg w g

theorem occupied_nonneg (w : World) (gs : List Nat) : 0 ≤ occupied w gs := by
  refine List.sum_nonneg fun n among => ?_
  obtain ⟨g, -, rfl⟩ := List.mem_map.1 among
  exact Int.natCast_nonneg _

/-- Graphics that are taken out add up to no more than before. -/
theorem Relieved.inRange (relieved : Relieved m gs w v) (sums : InRange w m)
    (graphics : ∀ e ∈ (w.manager m).registry.entries, ∃ g, e.2 = .graphic g) : InRange v m := by
  have fewer (g : Nat) : v.accounted (.graphic g) ≤ w.accounted (.graphic g) := by
    by_cases taken : g ∈ gs
    · have out : (v.graphic g).swappedOut = true := by rw [relieved.out g taken]
      have nothing : v.accounted (.graphic g) = 0 := by
        show (v.graphic g).profile.accounted = 0
        rw [Content.accounted_profile, Content.size_eq_zero_of_out out]
        rfl
      rw [nothing]
      exact accounted_graphic_nonneg w g
    · show (v.graphic g).profile.accounted ≤ _
      rw [relieved.kept g taken]
      exact Int.le_refl _
  intro n
  have before := Amount.fits_iff.1 (sums n)
  unfold contributions at before ⊢
  rw [relieved.registry, ← List.map_take]
  rw [← List.map_take] at before
  refine Amount.fits_iff.2 ⟨Int.le_trans (by decide) (List.sum_nonneg fun x among => ?_),
    Int.le_trans (List.sum_le_sum fun e among => ?_) before.2⟩
  · obtain ⟨e, entry, rfl⟩ := List.mem_map.1 among
    obtain ⟨g, same⟩ := graphics e (List.mem_of_mem_take entry)
    rw [same]
    exact accounted_graphic_nonneg v g
  · obtain ⟨g, same⟩ := graphics e (List.mem_of_mem_take among)
    rw [same]
    exact fewer g

/-- Where the count is the sum of what is registered, a sweep over graphics completes. -/
theorem Ends.done_of_exact (ends : Ends ask m gs w v) (relieved : Relieved m gs w v)
    (graphics : ∀ e ∈ (w.manager m).registry.entries, ∃ g, e.2 = .graphic g)
    (sums : InRange w m) (exact' : (w.manager m).used = literalUsage w m) :
    complete ask m w = .ok () v := by
  cases ends with
  | completes done recorded needed enough => exact done
  | breaks halted beyond => exact absurd (relieved.inRange sums graphics) beyond
  | halts halted beyond =>
    have all := Amount.fits_iff.1 (sums (contributions w m).length)
    rw [List.take_length, contributions_sum, ← exact'] at all
    have less := occupied_nonneg w gs
    have most := occupied_le relieved.first graphics
    have fits : Amount.fits ((w.manager m).used - occupied w gs) = true :=
      Amount.fits_iff.2 ⟨Int.le_trans (by decide) (Int.sub_nonneg.2 (exact' ▸ most)), by omega⟩
    rw [fits] at beyond
    cases beyond

/-! ## The result -/

/-- Failed swap-outs change nothing. In every state of every run a graphic is swapped out exactly if
it is in memory, no operation holds it, and it has a link or can be stored: then only its payload
is dropped, and its size taken off the count of its manager. The one way in which that fails is that
the difference is no amount. Otherwise the answer is that nothing was done, or that nothing can be
stored, and the world is as it was. So, while nothing can be stored, a sweep over graphics swaps out
graphics with links only, counts these as its evictions and leaves all others as they are; it
completes if the count is the sum of what is registered, and otherwise unless the difference or the
sum of the sizes that are left is no amount. -/
theorem failed_swap_outs_change_nothing (reached : Reached environment acts c) :
    (∀ g,
      (Yields c.world g → Amount.fits (usedWithout c.world g) = true →
        ∃ v, swapOut g c.world = .ok (.ok true) v ∧ SwappedOut g c.world v) ∧
      (Yields c.world g → Amount.fits (usedWithout c.world g) = false →
        ∃ v, swapOut g c.world = .error (.overflow .sub) v) ∧
      (¬ Yields c.world g → swapOut g c.world =
        .ok (if (c.world.graphic g).isAvailable ∧ (c.world.graphic g).operations = 0
          then .error .noSwapFile else .ok false) c.world)) ∧
    ∀ ask, Lawful ask → ∀ m < c.world.managers.size,
      (∀ e ∈ (c.world.manager m).registry.entries, ∃ g, e.2 = .graphic g) →
      c.world.storageBroken = true →
        ∃ gs v, Relieved m gs c.world v ∧ Ends ask m gs c.world v ∧
          (InRange c.world m → (c.world.manager m).used = literalUsage c.world m →
            complete ask m c.world = .ok () v) := by
  have rooted := reached.orderly.world
  refine ⟨fun g => ⟨fun yields fits => ?_, fun yields beyond => ?_, swapOut_of_not_yields⟩,
    fun ask lawful m there graphics broken => ?_⟩
  · exact ⟨_, swapOut_of_fits yields fits, swappedOut_takenOut rooted yields.1⟩
  · exact ⟨_, swapOut_of_overflow yields beyond⟩
  · obtain ⟨gs, v, relieved, ends⟩ := rooted.sweeps lawful.graphic there graphics broken
    exact ⟨gs, v, relieved, ends, ends.done_of_exact relieved graphics⟩

set_option maxRecDepth 20000 in
/-- Nothing can be stored: a film that lies idle is refused, and a sweep that may evict it completes
and leaves it. -/
theorem refused_film_stays :
    ∃ acts c v, Reached [] acts c ∧ c.world.storageBroken = true ∧
      (c.world.profile (.graphic 0)).decide (c.world.manager 0).config c.world.now = .evict ∧
      swapOut 0 c.world = .ok (.error .noSwapFile) c.world ∧
      complete askQuietly 0 c.world = .ok () v ∧ v.graphic 0 = c.world.graphic 0 := by
  have managed := (reached_start []).next (.op (o := .addManager .builtIn false) rfl trivial rfl)
  have made := managed.next (.make (m := 0) (o := .payload film) rfl (by decide) fits_film rfl)
  have settled := made.next (.settle rfl)
  have later := settled.next (.op (o := .advance (.ofSeconds 20)) rfl trivial rfl)
  have broken := later.next (.op (o := .arrange fun w => { w with storageBroken := true })
    rfl (World.rearranged_outside _ true _ _) rfl)
  obtain ⟨single, sweeps⟩ := failed_swap_outs_change_nothing broken
  obtain ⟨gs, v, relieved, -, completes⟩ := sweeps askQuietly lawful_askQuietly 0 (by decide)
    (fun e listed => ⟨0, congrArg Prod.snd (List.mem_singleton.1 listed)⟩) rfl
  have kept : 0 ∉ gs := fun listed => nomatch (relieved.linked 0 listed).2.2
  refine ⟨_, _, v, broken, rfl, rfl, (single 0).2.2 fun yields => ?_, completes (fun n => ?_) rfl,
    relieved.kept 0 kept⟩
  · rcases yields.2.2 with linked | stores
    · cases linked
    · cases stores
  · cases n with
    | zero => rfl
    | succ n => cases n <;> rfl

/-- Where a manager was told of more bytes than there are, the size of a graphic cannot be taken off
its count any more. -/
theorem swap_out_can_halt :
    ¬ ∀ (environment : Names String) (acts : List Action) (c : State),
      Reached environment acts c → ∀ g, Yields c.world g →
        ∃ v, swapOut g c.world = .ok (.ok true) v := by
  intro claim
  have managed := (reached_start []).next
    (.op (o := .addManager { Config.builtIn with swapEnabled := false } false) rfl trivial rfl)
  have made := managed.next (.make (m := 0) (o := .payload (.bitmap ⟨1, 1, 8, ⟨#[7]⟩⟩))
    rfl (by decide) (by rintro p ⟨⟩; decide) rfl)
  have settled := made.next (.settle rfl)
  have less := settled.next (.op (o := .announceOut 0 Amount.greatest) rfl trivial rfl)
  have least := less.next (.op (o := .announceOut 0 2) rfl trivial rfl)
  obtain ⟨v, out⟩ := claim [] _ _ least 0 (by decide)
  cases out

end Run

end GraphicCache
