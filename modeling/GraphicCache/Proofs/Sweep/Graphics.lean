/-
Sweeps over graphics. Asking a graphic to swap out runs no foreign code, so the walk of a sweep over
graphics only is determined when it begins: the graphics that may be evicted and that yield are taken
out one after the other, the smallest id first, until the count of the manager is below the target.
A graphic that does not yield, since it can neither be stored nor has a link, is passed by and keeps
everything it has.
-/
import GraphicCache.Proofs.Swapping
import GraphicCache.Proofs.Sweep.Course
import Mathlib.Data.List.Induction

namespace GraphicCache.Sweep

open Effect Swapping

variable {ask : ObjectRef → Effect Unit} {m g h : Nat} {target : Int} {w v : World}

/-! ## Worlds without some payloads -/

/-- The world without the payloads of some graphics, taken out one after the other. -/
def thinned (gs : List Nat) (w : World) : World := gs.foldl takenOut w

/-- A graphic may be evicted and yields. -/
def Evictable (w : World) (m g : Nat) : Prop :=
  (w.profile (.graphic g)).decide (w.manager m).config w.now = .evict ∧
    ((w.graphic g).isLinked = true ∨ w.storageBroken = false)

instance decidableEvictable (w : World) (m g : Nat) : Decidable (Evictable w m g) :=
  inferInstanceAs (Decidable (_ ∧ _))

theorem Evictable.yields (evictable : Evictable w m g) : Yields w g := by
  obtain ⟨evict, stores⟩ := evictable
  obtain ⟨inside, large, free, -⟩ := Profile.decide_eq_evict.1 evict
  have inside : (w.graphic g).swappedOut = false := inside
  have free : (w.graphic g).operations = 0 := by simpa [World.profile, Graphic.profile] using free
  have available : (w.graphic g).isAvailable = true := by
    by_contra missing
    have nothing : (w.profile (.graphic g)).dependableSize = 0 := by
      unfold Profile.dependableSize
      exact if_neg missing
    rw [nothing] at large
    exact absurd large (by decide)
  exact ⟨available, free, stores⟩

theorem evictable_congr (graphic : v.graphic g = w.graphic g)
    (config : (v.manager m).config = (w.manager m).config) (now : v.now = w.now)
    (storage : v.storageBroken = w.storageBroken) : Evictable v m g ↔ Evictable w m g := by
  have profile : v.profile (.graphic g) = w.profile (.graphic g) := congrArg Graphic.profile graphic
  unfold Evictable
  rw [profile, config, now, storage, graphic]

/-- The graphic that an object is, if it may be evicted and yields. -/
def candidate? (w : World) (m : Nat) : ObjectRef → Option Nat
  | .graphic g => if Evictable w m g then some g else none
  | .scripted _ => none

theorem candidate?_eq_some {o : ObjectRef} :
    candidate? w m o = some g ↔ o = .graphic g ∧ Evictable w m g := by
  cases o with
  | scripted k => simp [candidate?]
  | graphic k =>
    simp only [candidate?, Option.ite_none_right_eq_some, Option.some.injEq,
      ObjectRef.graphic.injEq]
    constructor
    · rintro ⟨evictable, rfl⟩
      exact ⟨rfl, evictable⟩
    · rintro ⟨rfl, evictable⟩
      exact ⟨evictable, rfl⟩

/-- The graphics among entries that may be evicted and yield, in the order of the entries. -/
def candidates (w : World) (m : Nat) (entries : List (Nat × ObjectRef)) : List Nat :=
  (entries.map Prod.snd).filterMap (candidate? w m)

theorem mem_candidates {entries : List (Nat × ObjectRef)} :
    g ∈ candidates w m entries ↔ .graphic g ∈ entries.map Prod.snd ∧ Evictable w m g := by
  unfold candidates
  rw [List.mem_filterMap]
  simp only [candidate?_eq_some]
  constructor
  · rintro ⟨o, listed, rfl, evictable⟩
    exact ⟨listed, evictable⟩
  · rintro ⟨listed, evictable⟩
    exact ⟨_, listed, rfl, evictable⟩

/-- What has one entry is a candidate once. -/
theorem nodup_candidates {entries : List (Nat × ObjectRef)} (once : (entries.map Prod.snd).Nodup) :
    (candidates w m entries).Nodup :=
  once.filterMap fun _ _ _ found found' =>
    (candidate?_eq_some.1 found).1.trans (candidate?_eq_some.1 found').1.symm

theorem candidates_cons_of_evictable {id : Nat} (evictable : Evictable w m g)
    (rest : List (Nat × ObjectRef)) :
    candidates w m ((id, .graphic g) :: rest) = g :: candidates w m rest := by
  simp [candidates, candidate?, evictable]

theorem candidates_cons_of_not {id : Nat} (spared : ¬ Evictable w m g)
    (rest : List (Nat × ObjectRef)) :
    candidates w m ((id, .graphic g) :: rest) = candidates w m rest := by
  simp [candidates, candidate?, spared]

/-! ## One payload less -/

theorem graphic_takenOut (w : World) (g h : Nat) :
    (takenOut w g).graphic h =
      if g = h ∧ h < w.graphics.size then { w.graphic h with toContent := (w.graphic h).stowed }
      else w.graphic h := by
  unfold takenOut dropped World.setContent
  rw [World.graphic_updateManager, World.graphic_updateGraphic]
  split
  · next same => rw [same.1]
  · rfl

theorem graphic_takenOut_ne (apart : g ≠ h) : (takenOut w g).graphic h = w.graphic h := by
  rw [graphic_takenOut, if_neg fun both => apart both.1]

/-- Taking a payload out changes the count of a manager only. -/
theorem manager_takenOut {γ : Type} {q : Manager → γ} (hq : ∀ x used, q (x.setUsed used) = q x)
    (w : World) (g m : Nat) : q ((takenOut w g).manager m) = q (w.manager m) :=
  World.updateManager_keeps (dropped w g) _ m fun x => hq x _

theorem evictable_takenOut (apart : g ≠ h) :
    Evictable (takenOut w g) m h ↔ Evictable w m h :=
  evictable_congr (graphic_takenOut_ne apart) (manager_takenOut (fun _ _ => rfl) w g m) rfl rfl

/-- Entries of a manager that are graphics of its own, each of them once. -/
structure Hosts (w : World) (m : Nat) (entries : List (Nat × ObjectRef)) : Prop where
  there : m < w.managers.size
  graphics : ∀ e ∈ entries, ∃ g, e.2 = .graphic g ∧ g < w.graphics.size ∧ (w.graphic g).manager = m
  once : (entries.map Prod.snd).Nodup
  registered : ∀ e ∈ entries, (w.manager m).registry.contains e.1 = true

namespace Hosts

variable {entries : List (Nat × ObjectRef)} {e : Nat × ObjectRef}

theorem tail (hosts : Hosts w m (e :: entries)) : Hosts w m entries where
  there := hosts.there
  graphics x hx := hosts.graphics x (List.mem_cons_of_mem e hx)
  once := (List.nodup_cons.1 hosts.once).2
  registered x hx := hosts.registered x (List.mem_cons_of_mem e hx)

theorem takenOut (hosts : Hosts w m entries) (g : Nat) : Hosts (takenOut w g) m entries where
  there := by
    unfold Swapping.takenOut
    rw [World.size_updateManager]
    exact hosts.there
  graphics x hx := by
    obtain ⟨h, object, made, own⟩ := hosts.graphics x hx
    refine ⟨h, object, ?_, ?_⟩
    · unfold Swapping.takenOut dropped World.setContent
      exact (w.size_updateGraphic g _).symm ▸ made
    · rw [graphic_takenOut]
      split
      · exact own
      · exact own
  once := hosts.once
  registered x hx := by
    rw [manager_takenOut (q := Manager.registry) (fun _ _ => rfl)]
    exact hosts.registered x hx

theorem only_graphics (hosts : Hosts w m entries) : ∀ e ∈ entries, ∃ g, e.2 = .graphic g := by
  intro e entry
  obtain ⟨g, object, -, -⟩ := hosts.graphics e entry
  exact ⟨g, object⟩

/-- Candidates are graphics of the manager. -/
theorem own (hosts : Hosts w m entries) :
    ∀ g ∈ candidates w m entries, (w.graphic g).manager = m := by
  intro g listed
  obtain ⟨e, entry, object⟩ := List.mem_map.1 (mem_candidates.1 listed).1
  obtain ⟨k, object', -, own⟩ := hosts.graphics e entry
  cases object.symm.trans object'
  exact own

/-- A manager may change with its entries kept. -/
theorem updateManager (hosts : Hosts w m entries) {f : Manager → Manager}
    (registry : ∀ x, (f x).registry = x.registry) :
    Hosts (w.updateManager m f) m entries where
  there := (w.size_updateManager m f).symm ▸ hosts.there
  graphics := hosts.graphics
  once := hosts.once
  registered x hx := by
    rw [w.updateManager_keeps (q := Manager.registry) m m registry]
    exact hosts.registered x hx

end Hosts

/-- Candidates are the same where the same graphics may be evicted and yield. -/
theorem candidates_congr {entries : List (Nat × ObjectRef)}
    (same : ∀ g, .graphic g ∈ entries.map Prod.snd → (Evictable v m g ↔ Evictable w m g)) :
    candidates v m entries = candidates w m entries := by
  unfold candidates
  refine List.filterMap_congr fun o listed => ?_
  cases o with
  | scripted k => rfl
  | graphic h =>
    unfold candidate?
    simp only [same h listed]

/-- What a manager counts does not matter for that. -/
theorem candidates_updateManager {entries : List (Nat × ObjectRef)} {f : Manager → Manager}
    (config : ∀ x, (f x).config = x.config) :
    candidates (w.updateManager m f) m entries = candidates w m entries :=
  candidates_congr fun _ _ =>
    evictable_congr rfl (w.updateManager_keeps (q := Manager.config) m m config) rfl rfl

/-- What comes after a graphic in a walk is judged as if the graphic were still there. -/
theorem candidates_takenOut {entries : List (Nat × ObjectRef)}
    (absent : .graphic g ∉ entries.map Prod.snd) :
    candidates (takenOut w g) m entries = candidates w m entries := by
  refine candidates_congr fun h listed => evictable_takenOut ?_
  rintro rfl
  exact absent listed

/-! ## Several payloads less -/

/-- The bytes that some graphics have in memory. -/
def occupied (w : World) (gs : List Nat) : Int := (gs.map fun g => ((w.graphic g).size : Int)).sum

theorem occupied_nil (w : World) : occupied w [] = 0 := rfl

theorem occupied_concat (w : World) (gs : List Nat) (g : Nat) :
    occupied w (gs ++ [g]) = occupied w gs + (w.graphic g).size := by
  simp [occupied]

theorem thinned_concat (gs : List Nat) (g : Nat) (w : World) :
    thinned (gs ++ [g]) w = takenOut (thinned gs w) g := by
  simp [thinned]

/-- Some graphics lost their payloads, and apart from the count of their manager nothing else has
changed. -/
structure Cleared (m : Nat) (gs : List Nat) (w v : World) : Prop where
  graphic : ∀ g, v.graphic g =
    if g ∈ gs ∧ g < w.graphics.size then { w.graphic g with toContent := (w.graphic g).stowed }
    else w.graphic g
  manager : v.manager m = (w.manager m).setUsed (v.manager m).used
  others : ∀ k, k ≠ m → v.manager k = w.manager k
  now : v.now = w.now
  graphics : v.graphics.size = w.graphics.size
  managers : v.managers.size = w.managers.size

namespace Cleared

variable {gs : List Nat}

theorem refl (m : Nat) (w : World) : Cleared m [] w w :=
  ⟨fun _ => (if_neg fun both => nomatch both.1).symm, rfl, fun _ _ => rfl, rfl, rfl, rfl⟩

theorem graphic_of_not_mem (h : Cleared m gs w v) (kept : g ∉ gs) : v.graphic g = w.graphic g := by
  rw [h.graphic, if_neg fun both => kept both.1]

/-- One more payload is gone. -/
theorem drop (h : Cleared m gs w v) (new : g ∉ gs) : Cleared m (gs ++ [g]) w (dropped v g) where
  graphic k := by
    unfold dropped World.setContent
    rw [World.graphic_updateGraphic, h.graphics]
    by_cases same : g = k
    · subst same
      simp only [true_and, List.mem_append, List.mem_singleton, or_true, h.graphic_of_not_mem new]
    · rw [if_neg fun both => same both.1, h.graphic]
      simp only [List.mem_append, List.mem_singleton, Ne.symm same, or_false]
  manager := h.manager
  others := h.others
  now := h.now
  graphics := (v.size_updateGraphic g _).trans h.graphics
  managers := h.managers

/-- It is not counted any more either. -/
theorem take (h : Cleared m gs w v) (new : g ∉ gs) (own : (w.graphic g).manager = m) :
    Cleared m (gs ++ [g]) w (takenOut v g) where
  graphic := (h.drop new).graphic
  manager := by
    have counted : (takenOut v g).manager m =
        (v.manager m).setUsed ((takenOut v g).manager m).used := by
      unfold takenOut
      rw [World.manager_updateManager]
      split
      · rfl
      · rfl
    rw [counted, h.manager]
    rfl
  others k other := by
    have apart : (v.graphic g).manager ≠ k := by
      rw [h.graphic_of_not_mem new, own]
      exact Ne.symm other
    exact ((dropped v g).manager_updateManager_ne _ k apart).trans (h.others k other)
  now := h.now
  graphics := (h.drop new).graphics
  managers := (World.size_updateManager _ _ _).trans h.managers

end Cleared

section Thinned

variable {gs : List Nat}

theorem nodup_snoc : (gs ++ [g]).Nodup ↔ g ∉ gs ∧ gs.Nodup := by
  rw [← List.concat_eq_append, List.nodup_concat]

/-- Taking out graphics of a manager touches nothing else. -/
theorem cleared_thinned (own : ∀ g ∈ gs, (w.graphic g).manager = m) (once : gs.Nodup) :
    Cleared m gs w (thinned gs w) := by
  induction gs using List.reverseRec with
  | nil => exact .refl m w
  | append_singleton gs g ih =>
    obtain ⟨own, last⟩ := List.forall_mem_append.1 own
    obtain ⟨new, once⟩ := nodup_snoc.1 once
    rw [thinned_concat]
    exact (ih own once).take new (last g (List.mem_singleton.2 rfl))

/-- A count without the bytes of some graphics, and without those of the next. -/
theorem Cleared.usedWithout_eq (h : Cleared m gs w v) (new : g ∉ gs)
    (own : (w.graphic g).manager = m)
    (counted : (v.manager m).used = (w.manager m).used - occupied w gs) :
    usedWithout v g = (w.manager m).used - occupied w (gs ++ [g]) := by
  unfold usedWithout
  rw [h.graphic_of_not_mem new, own, counted, occupied_concat]
  omega

/-- What is left to count is what the graphics do not occupy. -/
theorem used_thinned (there : m < w.managers.size) (own : ∀ g ∈ gs, (w.graphic g).manager = m)
    (once : gs.Nodup) :
    ((thinned gs w).manager m).used = (w.manager m).used - occupied w gs := by
  induction gs using List.reverseRec with
  | nil => simp [thinned, occupied]
  | append_singleton gs g ih =>
    obtain ⟨own, last⟩ := List.forall_mem_append.1 own
    obtain ⟨new, once⟩ := nodup_snoc.1 once
    have last : (w.graphic g).manager = m := last g (List.mem_singleton.2 rfl)
    have cleared := cleared_thinned own once
    have site : ((thinned gs w).graphic g).manager = m := cleared.graphic_of_not_mem new ▸ last
    rw [thinned_concat, ← cleared.usedWithout_eq new last (ih own once)]
    unfold takenOut
    rw [site, World.manager_updateManager_self _ _ (cleared.managers.symm ▸ there)]
    rfl

end Thinned

/-! ## The walk -/

/-- How a walk over graphics goes. It takes out the first of the candidates, no more than it takes to
bring the count below the target; or it comes to one whose size cannot be taken off the count, and
halts with its payload gone. -/
inductive Thinning (m : Nat) (target : Int) (candidates : List Nat) (w : World) :
    EStateM.Result Script.Halt World (List Visit) → Prop where
  | through {gs : List Nat} {visits : List Visit} (first : gs <+: candidates)
      (above : ∀ hs, hs <+: gs → hs ≠ gs → target ≤ ((thinned hs w).manager m).used)
      (done : gs = candidates ∨ ((thinned gs w).manager m).used < target)
      (counted : visits.countP Visit.isEviction = gs.length) :
      Thinning m target candidates w (.ok visits (thinned gs w))
  | halted {gs : List Nat} {g : Nat} (next : gs ++ [g] <+: candidates)
      (beyond : Amount.fits (usedWithout (thinned gs w) g) = false) :
      Thinning m target candidates w (.error (.overflow .sub) (dropped (thinned gs w) g))

namespace Thinning

variable {cs : List Nat} {visit : Visit} {others : Effect (List Visit)}

/-- A walk that stops where it begins. -/
theorem stop (done : cs = [] ∨ (w.manager m).used < target) :
    Thinning m target cs w (.ok [] w) := by
  refine .through (List.nil_prefix : [] <+: cs) (fun hs first other => ?_) ?_ rfl
  · exact absurd (List.prefix_nil.1 first) other
  · exact done.imp_left Eq.symm

/-- An entry is passed by. -/
theorem pass (passed : visit.isEviction = false) (h : Thinning m target cs w (others w)) :
    Thinning m target cs w ((do return visit :: (← others) : Effect (List Visit)) w) := by
  generalize ho : others w = r at h
  cases h with
  | through first above done counted =>
    rw [bind_of_ok ho]
    refine .through first above done ?_
    rw [List.countP_cons, passed, counted]
    rfl
  | halted next beyond =>
    rw [bind_of_error ho]
    exact .halted next beyond

/-- A graphic is taken out. -/
theorem take (evicted : visit.isEviction = true) (above : target ≤ (w.manager m).used)
    (h : Thinning m target cs (takenOut w g) (others (takenOut w g))) :
    Thinning m target (g :: cs) w
      ((do return visit :: (← others) : Effect (List Visit)) (takenOut w g)) := by
  generalize ho : others (takenOut w g) = r at h
  cases h with
  | @through gs visits first above' done counted =>
    rw [bind_of_ok ho]
    have first : g :: gs <+: g :: cs := List.cons_prefix_cons.2 ⟨rfl, first⟩
    refine .through first ?_ ?_ ?_
    · intro hs before other
      cases hs with
      | nil => exact above
      | cons k hs =>
        rw [List.cons_prefix_cons] at before
        obtain ⟨rfl, before⟩ := before
        exact above' hs before fun same => other (congrArg _ same)
    · exact done.imp_left (congrArg _)
    · rw [List.countP_cons, evicted, counted]
      rfl
  | @halted gs k next beyond =>
    rw [bind_of_error ho]
    have next : (g :: gs) ++ [k] <+: g :: cs := List.cons_prefix_cons.2 ⟨rfl, next⟩
    exact .halted next beyond

/-- A walk that came to its end has taken out the first candidates, as many as it takes. -/
theorem ok {visits : List Visit} (h : Thinning m target cs w (.ok visits v))
    (there : m < w.managers.size) (own : ∀ g ∈ cs, (w.graphic g).manager = m) (once : cs.Nodup) :
    ∃ gs, gs <+: cs ∧ Cleared m gs w v ∧
      (∀ hs, hs <+: gs → hs ≠ gs → target ≤ (w.manager m).used - occupied w hs) ∧
      (gs = cs ∨ (w.manager m).used - occupied w gs < target) ∧
      visits.countP Visit.isEviction = gs.length := by
  generalize result : EStateM.Result.ok visits v = r at h
  cases h with
  | @through gs visits' first above done counted =>
    cases result
    have own (hs : List Nat) (early : hs <+: cs) : ∀ g ∈ hs, (w.graphic g).manager = m :=
      fun g listed => own g (early.subset listed)
    have used (hs : List Nat) (early : hs <+: cs) :=
      used_thinned there (own hs early) (early.sublist.nodup once)
    refine ⟨gs, first, cleared_thinned (own gs first) (first.sublist.nodup once),
      fun hs early other => ?_, ?_, counted⟩
    · rw [← used hs (early.trans first)]
      exact above hs early other
    · rw [← used gs first]
      exact done
  | halted => cases result

/-- A walk that halted has taken out first candidates, too, and could not count that. -/
theorem error {e : Script.Halt} (h : Thinning m target cs w (.error e v))
    (there : m < w.managers.size) (own : ∀ g ∈ cs, (w.graphic g).manager = m) (once : cs.Nodup) :
    ∃ gs, gs <+: cs ∧ Cleared m gs w v ∧ e = .overflow .sub ∧
      Amount.fits ((w.manager m).used - occupied w gs) = false := by
  generalize result : (EStateM.Result.error e v : EStateM.Result _ _ (List Visit)) = r at h
  cases h with
  | through => cases result
  | @halted gs g next beyond =>
    cases result
    have own : ∀ k ∈ gs ++ [g], (w.graphic k).manager = m :=
      fun k listed => own k (next.subset listed)
    have once : (gs ++ [g]).Nodup := next.sublist.nodup once
    obtain ⟨own, last⟩ := List.forall_mem_append.1 own
    obtain ⟨new, once⟩ := nodup_snoc.1 once
    have cleared := cleared_thinned own once
    refine ⟨gs ++ [g], next, cleared.drop new, rfl, ?_⟩
    rw [← cleared.usedWithout_eq new (last g (List.mem_singleton.2 rfl))
      (used_thinned there own once)]
    exact beyond

end Thinning

/-- Asking a graphic swaps it out if it can, and does nothing else. -/
def Plain (ask : ObjectRef → Effect Unit) : Prop :=
  ∀ g, ask (.graphic g) = do let _ ← swapOut g

namespace Plain

/-- Who yields is taken out. -/
theorem takes (plain : Plain ask) (yields : Yields w g)
    (fits : Amount.fits (usedWithout w g) = true) : ask (.graphic g) w = .ok () (takenOut w g) := by
  rw [plain g]
  exact bind_of_ok (swapOut_of_fits yields fits)

/-- The manager halts if it cannot count that. -/
theorem halts (plain : Plain ask) (yields : Yields w g)
    (beyond : Amount.fits (usedWithout w g) = false) :
    ask (.graphic g) w = .error (.overflow .sub) (dropped w g) := by
  rw [plain g]
  exact bind_of_error (swapOut_of_overflow yields beyond)

/-- Who does not yield is asked in vain. -/
theorem leaves (plain : Plain ask) (stays : ¬ Yields w g) : ask (.graphic g) w = .ok () w := by
  rw [plain g]
  exact bind_of_ok (swapOut_of_not_yields stays)

end Plain

/-- A graphic that is not to be evicted is no candidate. -/
theorem not_evictable
    (spared : (w.profile (.graphic g)).decide (w.manager m).config w.now ≠ .evict) :
    ¬ Evictable w m g := fun evictable => spared evictable.1

/-- A graphic that may be evicted is asked, and taken out if it yields. -/
theorem Thinning.asked {id : Nat} {rest : List (Nat × ObjectRef)} {others : Effect (List Visit)}
    (plain : Plain ask) (hosts : Hosts w m ((id, .graphic g) :: rest)) (made : g < w.graphics.size)
    (above : target ≤ (w.manager m).used)
    (evict : (w.profile (.graphic g)).decide (w.manager m).config w.now = .evict)
    (follows : ∀ {v}, Hosts v m rest → Thinning m target (candidates v m rest) v (others v)) :
    Thinning m target (candidates w m ((id, .graphic g) :: rest)) w
      ((do
        ask (.graphic g)
        let w ← get
        return .asked id (w.profile (.graphic g)).swappedOut :: (← others) :
          Effect (List Visit)) w) := by
  by_cases evictable : Evictable w m g
  · rw [candidates_cons_of_evictable evictable]
    cases fits : Amount.fits (usedWithout w g) with
    | true =>
      have out : ((Swapping.takenOut w g).profile (.graphic g)).swappedOut = true := by
        show ((Swapping.takenOut w g).graphic g).swappedOut = true
        rw [graphic_takenOut, if_pos ⟨rfl, made⟩]
        rfl
      rw [bind_of_ok (plain.takes evictable.yields fits), get_bind_apply,
        ← candidates_takenOut (List.nodup_cons.1 hosts.once).1]
      exact .take out above (follows (hosts.tail.takenOut g))
    | false =>
      rw [bind_of_error (plain.halts evictable.yields fits)]
      have first : [] ++ [g] <+: g :: candidates w m rest :=
        List.cons_prefix_cons.2 ⟨rfl, List.nil_prefix⟩
      exact .halted first fits
  · have stays : ¬ Yields w g := fun yields => evictable ⟨evict, yields.2.2⟩
    have inside : (w.profile (.graphic g)).swappedOut = false :=
      (Profile.decide_eq_evict.1 evict).1
    rw [bind_of_ok (plain.leaves stays), get_bind_apply, candidates_cons_of_not evictable]
    exact .pass inside (follows hosts.tail)

/-- The walk over graphics takes out candidates in their order. -/
theorem walk_graphics (plain : Plain ask) (target : Int) {entries : List (Nat × ObjectRef)}
    (hosts : Hosts w m entries) :
    Thinning m target (candidates w m entries) w (walk ask m target entries w) := by
  induction entries generalizing w with
  | nil => exact .stop (.inl rfl)
  | cons e rest ih =>
    obtain ⟨id, o⟩ := e
    obtain ⟨g, object, made, -⟩ := hosts.graphics _ List.mem_cons_self
    obtain rfl : o = .graphic g := object
    have registered : (w.manager m).registry.contains id = true :=
      hosts.registered _ List.mem_cons_self
    unfold walk
    rw [get_bind_apply]
    split
    · next below => exact .stop (.inr below)
    · next above =>
      rw [if_neg (by simp [registered])]
      cases decision : (w.profile (.graphic g)).decide (w.manager m).config w.now with
      | evict => exact .asked plain hosts made (by omega) decision ih
      | alreadySwappedOut | tooSmall | activeOperation | recentlyUsed =>
        rw [candidates_cons_of_not (not_evictable (by rw [decision]; decide))]
        exact .pass rfl (ih hosts.tail)

end GraphicCache.Sweep
