/-
Exact accounting. While all registered objects are graphics, and programs leave the accounts to the
library, the running count of every manager is the sum of the sizes of its graphics at every moment
of a run, and never has to be put right.

The count is exact between operations: a graphic that changes its size is registered, so the change
is credited or debited where the size is counted, and a graphic is booked or forgotten together with
its size. Nothing else changes a size, a count or a registry.
-/
import GraphicCache.Proofs.Content
import GraphicCache.Proofs.Run.Skeleton
import GraphicCache.Proofs.Sweep.Record

namespace GraphicCache.Run

open Effect Accounting

variable {w w' : World} {m k g id : Nat}

/-! ## Totals -/

/-- What the objects of a manager add up to. -/
def total (w : World) (m : Nat) : Int := (contributions w m).sum

/-- The running counts are exact and were never put right. -/
def Exact (w : World) : Prop :=
  ∀ m, (w.manager m).used = total w m ∧ (w.manager m).counters.driftCorrections = 0

theorem accounted_graphic (w : World) (g : Nat) : w.accounted (.graphic g) = (w.graphic g).size :=
  Content.accounted_profile (w.graphic g)

/-- Totals depend on what is registered and how large it is. -/
theorem total_congr (registry : (w'.manager m).registry = (w.manager m).registry)
    (sizes : ∀ e ∈ (w.manager m).registry.entries, w'.accounted e.2 = w.accounted e.2) :
    total w' m = total w m := by
  unfold total contributions
  rw [registry, List.map_congr_left sizes]

/-- What the objects under other ids add up to. -/
def totalWithout (w : World) (m id : Nat) : Int :=
  (((w.manager m).registry.erase id).entries.map fun e => w.accounted e.2).sum

theorem total_eq {o : ObjectRef} (entry : (id, o) ∈ (w.manager m).registry.entries) :
    total w m = w.accounted o + totalWithout w m id := by
  have perm := (Registry.erase_perm entry).map fun e : Nat × ObjectRef => w.accounted e.2
  exact perm.sum_eq.trans List.sum_cons

/-- An entry takes with it what its object added. -/
theorem total_forget (there : m < w.managers.size) :
    total (w.updateManager m (·.forget id)) m =
      totalWithout w m id := by
  unfold total contributions
  rw [World.manager_updateManager_self _ _ there]
  rfl

/-- A new entry adds what its object does. -/
theorem total_enter {o : ObjectRef} (there : m < w.managers.size)
    (absent : (w.manager m).registry.find? id = none) :
    total (w.updateManager m (·.enter id o)) m =
      w.accounted o + total w m := by
  unfold total contributions
  rw [World.manager_updateManager_self _ _ there]
  have perm := (Registry.insert_perm (o := o) absent).map fun e : Nat × ObjectRef =>
    w.accounted e.2
  exact perm.sum_eq.trans List.sum_cons

/-- The total of its manager follows the size of a registered graphic. -/
theorem total_setContent (sound : (skeleton w).Sound) (registered : (skeleton w).Registered g)
    (content : Content) (m : Nat) :
    total (w.setContent g content) m =
      total w m + if m = (w.graphic g).manager then (content.size : Int) - (w.graphic g).size
        else 0 := by
  obtain ⟨made, entry⟩ := registered
  have entry : ((w.graphic g).id, .graphic g) ∈
      (w.manager (w.graphic g).manager).registry.entries := entry
  have same {h : Nat} (other : h ≠ g) :
      (w.setContent g content).accounted (.graphic h) = w.accounted (.graphic h) := by
    rw [accounted_graphic, accounted_graphic]
    unfold World.setContent
    rw [World.graphic_updateGraphic_ne _ _ _ other.symm]
  have new : (w.setContent g content).accounted (.graphic g) = content.size := by
    rw [accounted_graphic]
    unfold World.setContent
    rw [World.graphic_updateGraphic_self _ _ made]
  split
  · next own =>
    subst own
    -- ids tell graphics apart, so the other entries are of other graphics
    have others : totalWithout (w.setContent g content) (w.graphic g).manager (w.graphic g).id =
        totalWithout w (w.graphic g).manager (w.graphic g).id := by
      refine congrArg List.sum (List.map_congr_left fun e he => ?_)
      obtain ⟨listed, otherId⟩ := Registry.mem_erase.1 he
      obtain ⟨h, graphic, known⟩ := sound.listed listed
      rw [graphic]
      exact same fun h => otherId (by rw [← known.2.1, h]; rfl)
    have after : total (w.setContent g content) (w.graphic g).manager = _ :=
      total_eq (w := w.setContent g content) entry
    rw [after, total_eq entry, others, new, accounted_graphic]
    omega
  · next other =>
    rw [Int.add_zero]
    refine total_congr rfl fun e he => ?_
    -- what is registered with a manager belongs to it, and the graphic does not
    obtain ⟨h, graphic, known⟩ := sound.listed he
    rw [graphic]
    exact same fun h => other (by rw [← known.2.2, h]; rfl)

theorem total_updateManager (w : World) (m k : Nat) {f : Manager → Manager}
    (hf : ∀ x, (f x).registry = x.registry) : total (w.updateManager m f) k = total w k :=
  total_congr (w.updateManager_keeps m k hf) fun e _ => by
    unfold World.accounted
    rw [World.profile_updateManager]

theorem total_updateManager_ne (w : World) {m k : Nat} (h : m ≠ k) (f : Manager → Manager) :
    total (w.updateManager m f) k = total w k :=
  total_congr (congrArg Manager.registry (w.manager_updateManager_ne m k h)) fun e _ => by
    unfold World.accounted
    rw [World.profile_updateManager]

theorem total_setUsed (w : World) (m k : Nat) (used : Int) :
    total (w.updateManager m (·.setUsed used)) k = total w k :=
  total_updateManager w m k fun _ => rfl

/-! ## Worlds in balance -/

/-- The books are sound and the running counts exact. -/
structure InBalance (w : World) : Prop where
  sound : (skeleton w).Sound
  exact : Exact w

/-- A change after which the books are as before, and the counts exact. -/
structure Level (w w' : World) : Prop where
  balance : InBalance w'
  same : skeleton w' = skeleton w

theorem InBalance.refl (h : InBalance w) : Level w w := ⟨h, rfl⟩

theorem Level.trans {v : World} (first : Level w v) (second : Level v w') : Level w w' :=
  ⟨second.balance, second.same.trans first.same⟩

/-- Graphics may change but for their identity and size. -/
theorem InBalance.updateGraphic (h : InBalance w) (g : Nat) {f : Graphic → Graphic}
    (identity : ∀ x, (f x).id = x.id ∧ (f x).manager = x.manager)
    (size : ∀ x, (f x).size = x.size) : Level w (w.updateGraphic g f) := by
  have same := skeleton_updateGraphic w g identity
  refine ⟨⟨same ▸ h.sound, ?_⟩, same⟩
  intro m
  have totals : total (w.updateGraphic g f) m = total w m := by
    refine total_congr rfl fun e he => ?_
    obtain ⟨h, graphic, -⟩ := h.sound.listed he
    rw [graphic, accounted_graphic, accounted_graphic]
    exact congrArg Nat.cast (w.updateGraphic_keeps (q := fun x => x.size) g h size)
  rw [totals]
  exact h.exact m

/-- Managers may change but for their books and counts. -/
theorem InBalance.updateManager (h : InBalance w) (m : Nat) {f : Manager → Manager}
    (books : ∀ x, (f x).registry = x.registry ∧ (f x).nextId = x.nextId)
    (counts : ∀ x, (f x).used = x.used ∧
      (f x).counters.driftCorrections = x.counters.driftCorrections) :
    Level w (w.updateManager m f) := by
  have same := skeleton_updateManager w m books
  refine ⟨⟨same ▸ h.sound, ?_⟩, same⟩
  intro k
  have used : ((w.updateManager m f).manager k).used = (w.manager k).used :=
    w.updateManager_keeps m k fun x => (counts x).1
  have drift : ((w.updateManager m f).manager k).counters.driftCorrections =
      (w.manager k).counters.driftCorrections :=
    w.updateManager_keeps (q := fun x => x.counters.driftCorrections) m k fun x => (counts x).2
  rw [used, drift, total_updateManager w m k fun x => (books x).1]
  exact h.exact k

/-- A registered graphic changes its content, and the count of its manager follows. -/
theorem InBalance.setContent (h : InBalance w) (registered : (skeleton w).Registered g)
    {content : Content} {used : Int}
    (follows : used =
      (w.manager (w.graphic g).manager).used + ((content.size : Int) - (w.graphic g).size)) :
    Level w ((w.setContent g content).updateManager (w.graphic g).manager (·.setUsed used)) := by
  have there : (w.graphic g).manager < (w.setContent g content).managers.size :=
    h.sound.owned registered.1
  have same : skeleton ((w.setContent g content).updateManager (w.graphic g).manager
      (·.setUsed used)) = skeleton w :=
    (skeleton_setUsed _ _ used).trans (skeleton_setContent w g content)
  refine ⟨⟨same ▸ h.sound, ?_⟩, same⟩
  intro k
  obtain ⟨exact, calm⟩ := h.exact k
  have follow := total_setContent h.sound registered content k
  rw [total_setUsed, follow]
  by_cases own : k = (w.graphic g).manager
  · subst own
    rw [World.manager_updateManager_self _ _ there, if_pos rfl]
    refine ⟨?_, calm⟩
    rw [follows, exact]
    rfl
  · rw [World.manager_updateManager_ne _ _ _ fun h => own h.symm, if_neg own, Int.add_zero]
    exact ⟨exact, calm⟩

/-! ## Operations on graphics -/

theorem InBalance.swapOut (h : InBalance w) (registered : (skeleton w).Registered g)
    {r : Except Fault Bool} (done : Swapping.swapOut g w = .ok r w') : Level w w' := by
  rcases Swapping.swapOut_cases g w with ⟨r', stays⟩ | ⟨content, freed, -, out, moves⟩
  · cases stays.symm.trans done
    exact h.refl
  · obtain ⟨size, size'⟩ := Content.size_swapOut out
    obtain ⟨_, v, debited, rest⟩ := ok_of_bind (moves.symm.trans done)
    cases rest
    cases debit_ok debited
    refine h.setContent registered ?_
    show (w.manager (w.graphic g).manager).used - (freed : Int) = _
    omega

theorem InBalance.swapIn (h : InBalance w) (registered : (skeleton w).Registered g)
    {r : Except Fault Bool} (done : Swapping.swapIn g w = .ok r w') : Level w w' := by
  rcases Swapping.swapIn_cases g w with ⟨fault, -, stays⟩ | ⟨-, stays⟩ |
    ⟨content, restored, back, moves⟩
  · cases stays.symm.trans done
    exact h.refl
  · cases stays.symm.trans done
    exact h.refl
  · obtain ⟨size, size'⟩ := Content.size_restore back
    obtain ⟨_, v, credited, rest⟩ := ok_of_bind (moves.symm.trans done)
    cases rest
    cases credit_ok credited
    refine h.setContent registered ?_
    show (w.manager (w.graphic g).manager).used + (restored : Int) = _
    omega

theorem InBalance.setLastUsed (h : InBalance w) (g : Nat) (lastUsed : Moment) :
    Level w (w.updateGraphic g fun x => { x with lastUsed := lastUsed }) :=
  h.updateGraphic g (fun _ => ⟨rfl, rfl⟩) fun _ => rfl

theorem InBalance.operations (h : InBalance w) (g : Nat) (f : Nat → Nat) :
    Level w (w.updateGraphic g fun x => { x with operations := f x.operations }) :=
  h.updateGraphic g (fun _ => ⟨rfl, rfl⟩) fun _ => rfl

theorem InBalance.fetch (h : InBalance w) (registered : (skeleton w).Registered g)
    {r : Except Fault Payload} (done : Swapping.fetch g w = .ok r w') : Level w w' := by
  have used := h.setLastUsed g w.now
  rw [Swapping.fetch_apply] at done
  obtain ⟨r', v, swapped, rest⟩ := ok_of_bind done
  have level := used.trans (used.balance.swapIn (used.same ▸ registered) swapped)
  cases r' with
  | error fault => cases rest; exact level
  | ok b =>
    dsimp only at rest
    rw [get_bind_apply] at rest
    cases payload : (v.graphic g).payload with
    | none => rw [payload] at rest; cases rest; exact level
    | some p => rw [payload] at rest; cases rest; exact level

theorem InBalance.peek (h : InBalance w) (registered : (skeleton w).Registered g)
    {r : Except Fault Payload} (done : Swapping.use g pure w = .ok r w') : Level w w' := by
  have begun := h.operations g (· + 1)
  generalize hv : w.updateGraphic g (fun x => { x with operations := x.operations + 1 }) = v
    at begun
  have begins : Swapping.beginOperation g w = .ok () v := hv ▸ rfl
  have ended {v' : World} (h' : InBalance v') :
      Level v' (left (Swapping.endOperation g) v') := h'.operations g (· - 1)
  cases fetched : Swapping.fetch g v with
  | error e v' =>
    rw [Swapping.use_of_halt begins fetched] at done
    cases done
  | ok r' v' =>
    have level := begun.trans (begun.balance.fetch (begun.same ▸ registered) fetched)
    cases r' with
    | error fault =>
      rw [Swapping.use_of_fault begins fetched] at done
      cases done
      exact level.trans (ended level.balance)
    | ok p =>
      rw [Swapping.use_of_fetched begins fetched] at done
      cases done
      exact level.trans (ended level.balance)

/-- The manager of a registered graphic is told how much larger another payload is. -/
theorem replace_apply (registered : (skeleton w).Registered g) (p : Payload) :
    Swapping.replace g p w =
      (ofExcept (Amount.sub p.size (w.graphic g).size) >>= credit (w.graphic g).manager)
        (w.setContent g ((w.graphic g).toContent.replace p w.now)) := by
  obtain ⟨made, entry⟩ := registered
  have entry : ((w.graphic g).id, .graphic g) ∈
      (w.manager (w.graphic g).manager).registry.entries := entry
  have found : ((w.setContent g ((w.graphic g).toContent.replace p w.now)).manager
      (w.graphic g).manager).registry.find? (w.graphic g).id = some (.graphic g) :=
    Registry.find?_eq_some.2 entry
  have new : (w.setContent g ((w.graphic g).toContent.replace p w.now)).graphic g =
      { w.graphic g with toContent := (w.graphic g).toContent.replace p w.now } :=
    w.graphic_updateGraphic_self g made
  have size : ((w.setContent g ((w.graphic g).toContent.replace p w.now)).profile
      (.graphic g)).dependableSize = p.size := by
    show ((w.setContent g _).graphic g).profile.dependableSize = _
    rw [Content.dependableSize_profile, new]
    rfl
  show announceResize (w.graphic g).manager (w.graphic g).id (w.graphic g).size
    (w.setContent g ((w.graphic g).toContent.replace p w.now)) = _
  unfold announceResize
  rw [get_bind_apply, found]
  dsimp only
  rw [size]

/-- A registered graphic is given another payload, and the count of its manager follows. -/
theorem replace_ok (registered : (skeleton w).Registered g) {p : Payload}
    (done : Swapping.replace g p w = .ok () w') :
    w' = (w.setContent g ((w.graphic g).toContent.replace p w.now)).updateManager
      (w.graphic g).manager (·.setUsed ((w.manager (w.graphic g).manager).used +
        ((p.size : Int) - (w.graphic g).size))) := by
  rw [replace_apply registered] at done
  obtain ⟨growth, v, grown, credited⟩ := ok_of_bind done
  cases difference : Amount.sub (p.size : Int) ((w.graphic g).size : Int) with
  | error e => rw [difference] at grown; cases grown
  | ok d =>
    rw [difference] at grown
    obtain ⟨-, rfl⟩ := Amount.sub_eq_ok.1 difference
    cases grown
    exact credit_ok credited

theorem InBalance.replace (h : InBalance w) (registered : (skeleton w).Registered g) {p : Payload}
    (done : Swapping.replace g p w = .ok () w') : Level w w' := by
  rw [replace_ok registered done]
  exact h.setContent registered rfl

/-! ## Counts that are put right -/

/-- Where the count is exact there is nothing to put right. -/
theorem Exact.reconcile (exact : Exact w) (done : Accounting.reconcile m w = .ok () w') :
    w' = w := by
  obtain ⟨sum, added, rfl⟩ := reconcile_ok done
  obtain ⟨-, rfl⟩ := Amount.sum_eq_ok.1 added
  refine w.updateManager_eq_self m ?_
  unfold Manager.correct
  exact if_pos (exact m).1.symm

theorem InBalance.finish (h : InBalance w) {n : Nat} (done : Sweep.finish m n w = .ok () w') :
    Level w w' := by
  obtain ⟨_, v, reconciled, counted⟩ := ok_of_bind done
  obtain rfl := h.exact.reconcile reconciled
  cases counted
  exact h.updateManager m (fun _ => ⟨rfl, rfl⟩) fun _ => ⟨rfl, rfl⟩

/-! ## Operations on handles -/

/-- A change after which the books are sound and the counts exact. -/
structure Settled (w w' : World) : Prop where
  balance : InBalance w'
  evolves : Evolves (skeleton w) (skeleton w')

theorem Level.settled (h : Level w w') : Settled w w' :=
  ⟨h.balance, h.same ▸ .refl _⟩

theorem Settled.trans {v : World} (first : Settled w v) (second : Settled v w') : Settled w w' :=
  ⟨second.balance, first.evolves.trans second.evolves⟩

/-- Handles, guards and ids change. -/
theorem InBalance.regrip (h : InBalance w) {handles : Names Handle} {held : List Nat}
    {guards ids : Names Nat}
    (registered : ∀ {g}, ((skeleton w).regrip handles held).isHeld g = true →
      (skeleton w).Registered g)
    (graphics : ∀ e ∈ handles, ∃ g, e.2 = .graphic g) :
    Settled w { w with handles := handles, held := held, guards := guards, ids := ids } :=
  ⟨⟨h.sound.regrip registered graphics, h.exact⟩, fun known => known, fun absent => absent⟩

/-- The world without an entry, and without what it has added to the count of its manager. -/
def unbooked (w : World) (m id : Nat) (o : ObjectRef) : World :=
  (w.updateManager m (·.forget id)).updateManager m
    (·.setUsed ((w.manager m).used - w.accounted o))

theorem unregister_ok {o : ObjectRef} (found : (w.manager m).registry.find? id = some o)
    (done : Accounting.unregister m id w = .ok () w') : w' = unbooked w m id o := by
  have used : ((w.updateManager m (·.forget id)).manager m).used = (w.manager m).used :=
    w.updateManager_keeps m m fun _ => rfl
  rw [unregister_of_found found] at done
  rw [debit_ok done, used]
  rfl

theorem counters_unbooked (w : World) (m id : Nat) (o : ObjectRef) (k : Nat) :
    ((unbooked w m id o).manager k).counters = (w.manager k).counters := by
  have forgotten : ((w.updateManager m (·.forget id)).manager k).counters =
      (w.manager k).counters := w.updateManager_keeps m k fun _ => rfl
  rw [← forgotten]
  exact World.updateManager_keeps (q := Manager.counters) _ m k fun _ => rfl

/-- A count that is right follows an entry that goes. -/
theorem count_unbooked {o : ObjectRef} (entry : (id, o) ∈ (w.manager m).registry.entries)
    (count : (w.manager k).used = total w k) :
    ((unbooked w m id o).manager k).used = total (unbooked w m id o) k := by
  have there : m < w.managers.size := there_of_entry entry
  unfold unbooked
  rw [total_setUsed]
  by_cases own : m = k
  · subst own
    rw [World.manager_updateManager_self _ _ (by simpa using there), total_forget there]
    show (w.manager m).used - w.accounted o = _
    rw [count, total_eq entry]
    omega
  · rw [World.manager_updateManager_ne _ _ _ own, World.manager_updateManager_ne _ _ _ own,
      total_updateManager_ne _ own]
    exact count

/-- A graphic without handles is taken out of the books. -/
theorem InBalance.unregister (h : InBalance w) (free : w.isHeld g = false)
    (done : Accounting.unregister (w.graphic g).manager (w.graphic g).id w = .ok () w') :
    Settled w w' := by
  cases found : (w.manager (w.graphic g).manager).registry.find? (w.graphic g).id with
  | none =>
    cases (unregister_of_absent found).symm.trans done
    exact h.refl.settled
  | some o =>
    have entry := Registry.find?_eq_some.1 found
    have there : (w.graphic g).manager < w.managers.size := there_of_entry entry
    obtain ⟨k, rfl, known⟩ := h.sound.entries entry
    -- an id of zero is never handed out, so the graphic was made
    have made : g < w.graphics.size := by
      by_contra absent
      have positive := (h.sound.issued known.1).1
      rw [known.2.1, w.graphic_of_size_le g (by omega)] at positive
      exact absurd positive (Nat.lt_irrefl _)
    obtain rfl : k = g := h.sound.distinct known ⟨made, rfl, rfl⟩
    obtain rfl := unregister_ok found done
    have same : skeleton (unbooked w (w.graphic k).manager (w.graphic k).id (.graphic k)) =
        (skeleton w).forget (w.graphic k).manager (w.graphic k).id :=
      (skeleton_setUsed _ _ _).trans (skeleton_forget there _)
    refine ⟨⟨same ▸ h.sound.forget known free, fun m => ?_⟩, same ▸ evolves_forget _ _ _⟩
    rw [counters_unbooked]
    exact ⟨count_unbooked entry (h.exact m).1, (h.exact m).2⟩

/-- What happens to a graphic after one of its handles is gone. -/
theorem InBalance.release (h : InBalance w)
    (done : Handling.release (.graphic g) w = .ok () w') : Settled w w' := by
  rw [Handling.release_graphic] at done
  split at done
  · cases done
    exact h.refl.settled
  · next free => exact h.unregister (by simpa using free) done

theorem InBalance.hold (h : InBalance w) (held : w.isHeld g = true) :
    Settled w { w with held := g :: w.held } := by
  refine h.regrip (fun {k} held' => ?_) h.sound.handles
  rcases Skeleton.isHeld_iff.1 held' with unnamed | named
  · rcases List.mem_cons.1 unnamed with rfl | unnamed
    · exact h.sound.held held
    · exact h.sound.held (Skeleton.isHeld_iff.2 (.inl unnamed))
  · exact h.sound.held (Skeleton.isHeld_iff.2 (.inr named))

theorem InBalance.letGo (h : InBalance w) (done : Handling.letGo g w = .ok () w') :
    Settled w w' := by
  have freed : Settled w { w with held := w.held.erase g } := by
    refine h.regrip (fun {k} held => h.sound.held (Skeleton.isHeld_iff.2 ?_)) h.sound.handles
    exact (Skeleton.isHeld_iff.1 held).imp_left List.mem_of_mem_erase
  have done : Handling.release (.graphic g) { w with held := w.held.erase g } = .ok () w' := done
  exact freed.trans (freed.balance.release done)

/-- After a name was taken from a handle the handle is let go. -/
theorem InBalance.released {v : World} (h : InBalance w) (changed : Settled w v)
    {name : String} {old : Handle} (found : w.handles.get? name = some old)
    (done : Handling.release old v = .ok () w') : Settled w w' := by
  obtain ⟨before, after, split, -⟩ := List.lookup_eq_some_iff.1 found
  obtain ⟨g, rfl⟩ : ∃ g, old = .graphic g :=
    h.sound.handles (name, old) (by
      show (name, old) ∈ w.handles
      rw [split]
      simp)
  exact changed.trans (changed.balance.release done)

/-- A name is given to a graphic with a handle or to one that was just registered. -/
theorem InBalance.name (h : InBalance w) {name : String} {handle : Handle} {id : Nat}
    (ready : (Op.bind name handle id).Ready w)
    (done : Handling.bind name handle id w = .ok () w') : Settled w w' := by
  have new : ∃ g, handle = .graphic g ∧ (skeleton w).Registered g := by
    cases handle with
    | graphic g =>
      refine ⟨g, rfl, ?_⟩
      rcases ready with held | entry
      · exact h.sound.held held
      · obtain ⟨k, same, known⟩ := h.sound.entries (o := .graphic g) entry
        cases same
        exact ⟨known.1, entry⟩
    | registration m id =>
      obtain ⟨o, entry⟩ := ready
      obtain ⟨g, other, -⟩ := h.sound.entries (o := .scripted o) entry
      cases other
  obtain ⟨g, rfl, registered⟩ := new
  have named : Settled w
      { w with handles := w.handles.put name (.graphic g), ids := w.ids.put name id } := by
    refine h.regrip (fun {k} held => ?_) fun e he => ?_
    · rcases Skeleton.isHeld_iff.1 held with unnamed | ⟨other, named⟩
      · exact h.sound.held (Skeleton.isHeld_iff.2 (.inl unnamed))
      · rcases List.mem_cons.1 named with new | named
        · cases new
          exact registered
        · exact h.sound.held (Skeleton.isHeld_iff.2 (.inr ⟨other, (List.mem_filter.1 named).1⟩))
    · rcases List.mem_cons.1 he with rfl | he
      · exact ⟨g, rfl⟩
      · exact h.sound.handles e (List.mem_filter.1 he).1
  rw [Handling.bind_eq] at done
  cases old : w.handles.get? name with
  | none =>
    rw [old] at done
    cases done
    exact named
  | some handle =>
    rw [old] at done
    exact h.released named old done

theorem InBalance.drop (h : InBalance w) {name : String} {r : Bool}
    (done : Handling.drop name w = .ok r w') : Settled w w' := by
  rcases Handling.drop_ok done with ⟨-, rfl⟩ | ⟨old, found, released⟩
  · exact h.refl.settled
  · have dropped : Settled w { w with handles := w.handles.erase name } := by
      refine h.regrip (fun {k} held => h.sound.held (Skeleton.isHeld_iff.2 ?_)) fun e he =>
        h.sound.handles e (List.mem_filter.1 he).1
      refine (Skeleton.isHeld_iff.1 held).imp_right ?_
      rintro ⟨other, named⟩
      exact ⟨other, (List.mem_filter.1 named).1⟩
    exact h.released dropped found released

end GraphicCache.Run
