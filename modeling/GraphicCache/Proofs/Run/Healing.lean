/-
Healing. The running count of a manager can be far from what its objects occupy: objects may change
without telling, and may do anything while they are asked to swap out. Where the count is
recomputed, at the end of a registration, of a sweep and of an audit, it becomes the sum over the
registry of that moment, whatever the count, the registry and the objects have come to before; and
a correction is counted exactly if the count that was found is another.

A recomputation is told by the world in which it takes place: that of the audit itself, the one a
walk has left, or the one in which a new object is accounted and entered.
-/
import GraphicCache.Proofs.Run.Triggers

namespace GraphicCache

open Effect

namespace Accounting

variable {m id : Nat} {o : ObjectRef} {w w' : World}

/-! ## The literal sum -/

/-- The sizes of the registered objects that are available and not swapped out, added up. -/
def literalUsage (w : World) (m : Nat) : Int :=
  (((w.manager m).registry.entries.filter fun e =>
    (w.profile e.2).available && !(w.profile e.2).swappedOut).map fun e => (w.profile e.2).size).sum

/-- No sum on the way through the registry leaves the range of amounts. -/
def InRange (w : World) (m : Nat) : Prop :=
  ∀ n, Amount.fits ((contributions w m).take n).sum = true

theorem contributions_sum (w : World) (m : Nat) : (contributions w m).sum = literalUsage w m := by
  unfold contributions literalUsage
  induction (w.manager m).registry.entries with
  | nil => rfl
  | cons e rest ih =>
    rw [List.map_cons, List.sum_cons, ih, List.filter_cons]
    unfold World.accounted Profile.accounted Profile.dependableSize
    cases (w.profile e.2).swappedOut with
    | true => simp
    | false =>
      cases (w.profile e.2).available with
      | true => simp
      | false => simp

/-! ## A recomputation -/

/-- The world with the running count of a manager put right. -/
def corrected (w : World) (m : Nat) : World := w.updateManager m (·.correct (literalUsage w m))

theorem reconcile_iff : reconcile m w = .ok () w' ↔ InRange w m ∧ w' = corrected w m := by
  rw [reconcile_apply]
  constructor
  · intro h
    split at h
    · next total sum =>
      obtain ⟨sums, rfl⟩ := Amount.sum_eq_ok.1 sum
      rw [contributions_sum] at h
      cases h
      exact ⟨sums, rfl⟩
    · cases h
  · rintro ⟨sums, rfl⟩
    rw [Amount.sum_eq_ok.2 ⟨sums, rfl⟩, contributions_sum]
    rfl

/-- The running count of a manager was recomputed in the world `found`: it is the sum over the
registry, which is as it was found like all objects and all other managers, and one more correction
is counted exactly if the count that was found is not the sum. -/
structure Healed (m : Nat) (found healed : World) : Prop where
  usage : (healed.manager m).used = literalUsage healed m
  corrections : (healed.manager m).counters.driftCorrections =
    (found.manager m).counters.driftCorrections +
      if (found.manager m).used = literalUsage found m then 0 else 1
  registry : (healed.manager m).registry = (found.manager m).registry
  objects : ∀ o, healed.profile o = found.profile o
  others : ∀ k, k ≠ m → healed.manager k = found.manager k

theorem literalUsage_congr (registry : (w'.manager m).registry = (w.manager m).registry)
    (objects : ∀ o, w'.profile o = w.profile o) : literalUsage w' m = literalUsage w m := by
  unfold literalUsage
  rw [registry]
  simp only [objects]

theorem InRange.congr (h : InRange w m)
    (registry : (w'.manager m).registry = (w.manager m).registry)
    (objects : ∀ o, w'.profile o = w.profile o) : InRange w' m := by
  have same : contributions w' m = contributions w m := by
    unfold contributions World.accounted
    rw [registry]
    simp only [objects]
  unfold InRange
  rw [same]
  exact h

theorem used_correct (x : Manager) (calculated : Int) : (x.correct calculated).used = calculated := by
  unfold Manager.correct
  split
  · next right => exact right.symm
  · rfl

theorem corrections_correct (x : Manager) (calculated : Int) :
    (x.correct calculated).counters.driftCorrections =
      x.counters.driftCorrections + if x.used = calculated then 0 else 1 := by
  unfold Manager.correct
  by_cases right : calculated = x.used
  · rw [if_pos right, if_pos right.symm, Nat.add_zero]
  · rw [if_neg right, if_neg fun h => right h.symm]

theorem healed_corrected (w : World) (m : Nat) : Healed m w (corrected w m) := by
  have registry : ((corrected w m).manager m).registry = (w.manager m).registry :=
    w.updateManager_keeps m m fun x => x.registry_correct _
  have objects (o : ObjectRef) : (corrected w m).profile o = w.profile o :=
    w.profile_updateManager m _ o
  have others (k : Nat) (other : k ≠ m) : (corrected w m).manager k = w.manager k :=
    w.manager_updateManager_ne m k other.symm
  have literal := literalUsage_congr registry objects
  by_cases there : m < w.managers.size
  · have changed : (corrected w m).manager m = (w.manager m).correct (literalUsage w m) :=
      w.manager_updateManager_self m there
    refine ⟨?_, ?_, registry, objects, others⟩
    · rw [literal, changed, used_correct]
    · rw [changed, corrections_correct]
  -- a manager that was never made has no objects and counts nothing
  · have new := w.manager_of_size_le m (by omega)
    have nothing : literalUsage w m = 0 := by
      unfold literalUsage
      rw [new]
      rfl
    have same : (corrected w m).manager m = w.manager m := by
      unfold corrected
      rw [World.manager_updateManager, if_neg fun h => there h.2]
    refine ⟨?_, ?_, registry, objects, others⟩
    · rw [literal, same, nothing, new]
      rfl
    · rw [same, nothing, new]
      rfl

/-- What else changes of a manager does not undo the recomputation. -/
theorem Healed.updateManager {found healed : World} (h : Healed m found healed)
    {f : Manager → Manager} (used : ∀ x, (f x).used = x.used)
    (corrections : ∀ x, (f x).counters.driftCorrections = x.counters.driftCorrections)
    (registry : ∀ x, (f x).registry = x.registry) :
    Healed m found (healed.updateManager m f) := by
  have registries : ((healed.updateManager m f).manager m).registry = (healed.manager m).registry :=
    healed.updateManager_keeps m m registry
  have objects (o : ObjectRef) : (healed.updateManager m f).profile o = healed.profile o :=
    healed.profile_updateManager m f o
  refine ⟨?_, ?_, registries.trans h.registry, fun o => (objects o).trans (h.objects o),
    fun k other => ?_⟩
  · rw [literalUsage_congr registries objects, ← h.usage]
    exact healed.updateManager_keeps m m used
  · rw [← h.corrections]
    exact healed.updateManager_keeps (q := fun x => x.counters.driftCorrections) m m corrections
  · rw [healed.manager_updateManager_ne m k other.symm]
    exact h.others k other

/-- A count that is right stays as it is. -/
theorem corrected_of_right (right : (w.manager m).used = literalUsage w m) : corrected w m = w := by
  refine w.updateManager_eq_self m ?_
  unfold Manager.correct
  exact if_pos right.symm

/-! ## Audits -/

theorem audit_iff {usage : Int} :
    audit m w = .ok usage w' ↔
      InRange w m ∧ w' = corrected w m ∧ usage = literalUsage (corrected w m) m := by
  have answer : audit m w = .ok usage w' ↔
      reconcile m w = .ok () w' ∧ usage = (w'.manager m).used := by
    constructor
    · intro h
      obtain ⟨_, v, reconciled, answered⟩ := ok_of_bind h
      cases answered
      exact ⟨reconciled, rfl⟩
    · rintro ⟨reconciled, rfl⟩
      exact bind_of_ok reconciled
  rw [answer, reconcile_iff, and_assoc]
  refine and_congr_right fun _ => and_congr_right fun same => ?_
  rw [same, (healed_corrected w m).usage]

/-- An audit right after an audit finds nothing to put right. -/
theorem audit_again {usage : Int} (h : audit m w = .ok usage w') : audit m w' = .ok usage w' := by
  obtain ⟨sums, rfl, rfl⟩ := audit_iff.1 h
  have healed := healed_corrected w m
  have settled : corrected (corrected w m) m = corrected w m := corrected_of_right healed.usage
  refine audit_iff.2 ⟨sums.congr healed.registry healed.objects, settled.symm, ?_⟩
  rw [settled]

/-! ## Bookings -/

/-- An object is accounted and entered; its manager's count is still to be recomputed. -/
def booked (w : World) (m id : Nat) (o : ObjectRef) : World :=
  (w.updateManager m (·.setUsed ((w.manager m).used + w.accounted o))).updateManager m (·.enter id o)

theorem book_iff :
    book m id o w = .ok () w' ↔
      Amount.fits ((w.manager m).used + w.accounted o) = true ∧
        InRange (booked w m id o) m ∧ w' = corrected (booked w m id o) m := by
  unfold book
  rw [get_bind_apply, ← reconcile_iff]
  by_cases fits : Amount.fits ((w.manager m).used + w.accounted o) = true
  · rw [bind_of_ok (credit_of_fits fits)]
    exact (and_iff_right fits).symm
  · rw [bind_of_error (credit_of_overflow (by simpa using fits))]
    exact ⟨nofun, fun both => absurd both.1 fits⟩

end Accounting

namespace Sweep

open Accounting

variable {ask : ObjectRef → Effect Unit} {m id n : Nat} {o : ObjectRef} {w w' : World}

/-! ## Sweeps -/

theorem finish_iff :
    finish m n w = .ok () w' ↔
      InRange w m ∧ w' = (corrected w m).updateManager m
        fun x => { x.countSweep n (corrected w m).now with reducing := false } := by
  constructor
  · intro h
    obtain ⟨_, v, reconciled, counted⟩ := ok_of_bind h
    obtain ⟨sums, rfl⟩ := reconcile_iff.1 reconciled
    cases counted
    exact ⟨sums, rfl⟩
  · rintro ⟨sums, rfl⟩
    exact bind_of_ok (reconcile_iff.2 ⟨sums, rfl⟩)

/-- The walk of a sweep that begins now. -/
def walkNow (ask : ObjectRef → Effect Unit) (m : Nat) (w : World) :
    EStateM.Result Script.Halt World (List Visit) :=
  let begun := w.updateManager m Manager.beginSweep
  walk ask m (begun.manager m).config.target (begun.manager m).registry.entries begun

theorem complete_iff :
    complete ask m w = .ok () w' ↔
      ∃ visits v, walkNow ask m w = .ok visits v ∧
        finish m (visits.countP Visit.isEviction) v = .ok () w' := by
  constructor
  · exact fun h => ok_of_bind h
  · rintro ⟨visits, v, walked, finished⟩
    exact (bind_of_ok walked).trans finished

/-- A sweep that ran to its end has recomputed the count in the world its walk has left. -/
theorem healed_of_finish (h : finish m n w = .ok () w') : Healed m w w' := by
  obtain ⟨-, rfl⟩ := finish_iff.1 h
  exact (healed_corrected w m).updateManager (fun _ => rfl) (fun _ => rfl) fun _ => rfl

/-- An attempt completes a sweep or recomputes nothing. -/
theorem attempt_cases (h : attempt ask m w = .ok () w') :
    complete ask m w = .ok () w' ∨
      (w'.manager m).used = (w.manager m).used ∧
        (w'.manager m).counters.driftCorrections = (w.manager m).counters.driftCorrections ∧
        (w'.manager m).registry = (w.manager m).registry := by
  by_cases due : Run.Due w m
  · cases busy : (w.manager m).reducing with
    | false => exact .inl ((attempt_of_idle ask due busy).symm.trans h)
    | true =>
      cases (attempt_of_busy ask due busy).symm.trans h
      exact .inr ⟨w.updateManager_keeps m m fun _ => rfl,
        w.updateManager_keeps (q := fun x => x.counters.driftCorrections) m m fun _ => rfl,
        w.updateManager_keeps m m fun _ => rfl⟩
  · cases (attempt_of_not_due ask due).symm.trans h
    exact .inr ⟨rfl, rfl, rfl⟩

/-! ## Registrations -/

/-- The world `v` is the one in which a registration that begins now books its object: above the
limit, room was made before. -/
def RoomMade (ask : ObjectRef → Effect Unit) (m : Nat) (w v : World) : Prop :=
  if (w.manager m).config.memoryLimit < (w.manager m).used then attempt ask m w = .ok () v
  else v = w

theorem register_iff :
    register ask m id o w = .ok () w' ↔
      ∃ v, RoomMade ask m w v ∧ book m id o v = .ok () w' := by
  unfold RoomMade
  by_cases above : (w.manager m).config.memoryLimit < (w.manager m).used
  · simp only [if_pos above]
    rw [Run.register_of_above above]
    constructor
    · intro h
      obtain ⟨_, v, attempted, done⟩ := ok_of_bind h
      exact ⟨v, attempted, done⟩
    · rintro ⟨v, attempted, done⟩
      exact (bind_of_ok attempted).trans done
  · simp only [if_neg above, exists_eq_left]
    rw [Run.register_of_below above]

/-! ## Healing -/

/-- However far the running count of a manager is off, and whatever objects do when they are asked
to swap out: an audit, a registration and a sweep that is completed end with a recomputation, which
leaves the count as the sum over the registry and counts a correction exactly if it found another.
They fail to return only where a callback does or a sum leaves the range. An audit answers the sum,
and another right after it changes nothing. -/
theorem usage_heals (ask : ObjectRef → Effect Unit) (m : Nat) (w : World) :
    ((∀ usage w', audit m w = .ok usage w' →
        usage = literalUsage w' m ∧ Healed m w w' ∧ audit m w' = .ok usage w') ∧
      (InRange w m → ∃ usage w', audit m w = .ok usage w')) ∧
    ((∀ w', complete ask m w = .ok () w' →
        ∃ visits v, walkNow ask m w = .ok visits v ∧ Healed m v w') ∧
      (∀ visits v, walkNow ask m w = .ok visits v → InRange v m →
        ∃ w', complete ask m w = .ok () w')) ∧
    (∀ w', attempt ask m w = .ok () w' →
      complete ask m w = .ok () w' ∨
        (w'.manager m).used = (w.manager m).used ∧
          (w'.manager m).counters.driftCorrections = (w.manager m).counters.driftCorrections ∧
          (w'.manager m).registry = (w.manager m).registry) ∧
    ∀ id o,
      (∀ w', register ask m id o w = .ok () w' →
        ∃ v, RoomMade ask m w v ∧ Healed m (booked v m id o) w') ∧
      (∀ v, RoomMade ask m w v → Amount.fits ((v.manager m).used + v.accounted o) = true →
        InRange (booked v m id o) m → ∃ w', register ask m id o w = .ok () w') := by
  refine ⟨⟨?_, ?_⟩, ⟨?_, ?_⟩, fun w' => attempt_cases, fun id o => ⟨?_, ?_⟩⟩
  · intro usage w' h
    obtain ⟨-, rfl, rfl⟩ := audit_iff.1 h
    exact ⟨rfl, healed_corrected w m, audit_again h⟩
  · intro sums
    exact ⟨_, _, audit_iff.2 ⟨sums, rfl, rfl⟩⟩
  · intro w' h
    obtain ⟨visits, v, walked, finished⟩ := complete_iff.1 h
    exact ⟨visits, v, walked, healed_of_finish finished⟩
  · intro visits v walked sums
    exact ⟨_, complete_iff.2 ⟨visits, v, walked, finish_iff.2 ⟨sums, rfl⟩⟩⟩
  · intro w' h
    obtain ⟨v, made, done⟩ := register_iff.1 h
    obtain ⟨-, -, rfl⟩ := book_iff.1 done
    exact ⟨v, made, healed_corrected _ m⟩
  · intro v made fits sums
    exact ⟨_, register_iff.2 ⟨v, made, book_iff.2 ⟨fits, sums, rfl⟩⟩⟩

/-- A manager counts 3 bytes for an object that has 5 by now; another object has 2. -/
def outgrown : World :=
  { World.start [] with
    managers := #[{ Manager.new .builtIn with
      used := 3, registry := Registry.empty.insert 1 (.scripted 0) }]
    objects := #[⟨"grown", 5, false, true, false, false, 0, .silent, [], 0, none⟩,
      ⟨"other", 2, false, true, false, false, 0, .silent, [], 0, none⟩] }

/-- An audit puts the count right, and so does registering the other object. -/
theorem outgrown_count_heals :
    (∃ w', audit 0 outgrown = .ok 5 w' ∧ (w'.manager 0).used = 5 ∧
      (w'.manager 0).counters.driftCorrections = 1 ∧ audit 0 w' = .ok 5 w') ∧
    ∃ w', register (fun _ => pure ()) 0 2 (.scripted 1) outgrown = .ok () w' ∧
      (w'.manager 0).used = literalUsage w' 0 ∧ (w'.manager 0).used = 7 ∧
      (w'.manager 0).counters.driftCorrections = 1 := by
  obtain ⟨⟨audits, -⟩, -, -, registers⟩ := usage_heals (fun _ => pure ()) 0 outgrown
  constructor
  · have audited : audit 0 outgrown = .ok 5 (corrected outgrown 0) := rfl
    obtain ⟨-, healed, again⟩ := audits 5 _ audited
    exact ⟨_, audited, rfl, healed.corrections, again⟩
  · have registered : register (fun _ => pure ()) 0 2 (.scripted 1) outgrown =
        .ok () (corrected (booked outgrown 0 2 (.scripted 1)) 0) := rfl
    obtain ⟨v, made, healed⟩ := (registers 2 (.scripted 1)).1 _ registered
    exact ⟨_, registered, healed.usage, rfl, rfl⟩

end Sweep

end GraphicCache
