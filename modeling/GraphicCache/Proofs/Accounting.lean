/-
What the operations of accounting do to a world. Each either changes one manager and comes to its
end, or meets an overflow and halts. None of them touches what a manager counts about its sweeps,
and only booking an object registers anything.
-/
import GraphicCache.Proofs.Effect
import GraphicCache.Proofs.Registry
import GraphicCache.Proofs.World
import Mathlib.Algebra.BigOperators.Group.List.Basic
import Mathlib.Algebra.Order.Ring.Int

namespace GraphicCache

open Effect

/-- What only sweeps change of a manager, next to its settings. -/
def Manager.sweepPart (x : Manager) : Config × Bool × Nat × Nat × Nat × Option Moment :=
  (x.config, x.reducing, x.counters.sweeps, x.counters.evictions, x.counters.suppressedReentries,
    x.counters.lastSweep)

/-- Starting the timer sets it, if anything. -/
theorem Manager.startTimer_eq (x : Manager) (now : Moment) :
    ∃ timer, x.startTimer now = x.setTimer timer := by
  unfold startTimer
  split
  · exact ⟨_, rfl⟩
  · exact ⟨x.timer, rfl⟩

/-- So does winding it anew. -/
theorem Manager.rewindTimer_eq (x : Manager) (now : Moment) :
    ∃ timer, x.rewindTimer now = x.setTimer timer := by
  unfold rewindTimer
  split
  · exact ⟨_, rfl⟩
  · exact ⟨x.timer, rfl⟩

/-- Winding a timer anew is setting it. -/
theorem World.updateManager_rewindTimer (w : World) (m : Nat) (now : Moment) :
    w.updateManager m (·.rewindTimer now) =
      w.updateManager m (·.setTimer ((w.manager m).rewindTimer now).timer) := by
  refine w.updateManager_congr m ?_
  obtain ⟨timer, rewound⟩ := (w.manager m).rewindTimer_eq now
  rw [rewound]
  rfl

/-- Putting the count right has nothing to do with what is registered. -/
theorem Manager.registry_correct (x : Manager) (calculated : Int) :
    (x.correct calculated).registry = x.registry := by
  unfold Manager.correct
  split <;> rfl

/-- A list adds up if every sum on the way is an amount, and then to its sum. -/
theorem Amount.sumFrom_eq_ok {total sum : Int} {amounts : List Int} (h : fits total = true) :
    sumFrom total amounts = .ok sum ↔
      (∀ n, fits (total + (amounts.take n).sum) = true) ∧ sum = total + amounts.sum := by
  induction amounts generalizing total with
  | nil =>
    simp only [sumFrom, List.take_nil, List.sum_nil, Int.add_zero, Except.ok.injEq]
    exact ⟨fun same => ⟨fun _ => h, same.symm⟩, fun both => both.2.symm⟩
  | cons a rest ih =>
    unfold sumFrom
    by_cases next : fits (total + a) = true
    · have added : add total a = .ok (total + a) := add_eq_ok.2 ⟨next, rfl⟩
      rw [added]
      refine (ih next).trans ?_
      rw [List.sum_cons, Int.add_assoc]
      refine and_congr_left fun _ => ⟨fun sums n => ?_, fun sums n => ?_⟩
      · cases n with
        | zero => simpa using h
        | succ n =>
          rw [List.take_succ_cons, List.sum_cons, ← Int.add_assoc]
          exact sums n
      · have sum := sums (n + 1)
        rwa [List.take_succ_cons, List.sum_cons, ← Int.add_assoc] at sum
    · have refused : add total a = .error .add := by
        unfold add
        exact if_neg next
      rw [refused]
      refine ⟨nofun, fun both => ?_⟩
      have sum := both.1 1
      rw [List.take_succ_cons, List.take_zero, List.sum_cons, List.sum_nil, Int.add_zero] at sum
      exact absurd sum next

theorem Amount.sum_eq_ok {sum : Int} {amounts : List Int} :
    Amount.sum amounts = .ok sum ↔
      (∀ n, fits (amounts.take n).sum = true) ∧ sum = amounts.sum := by
  have zero : fits 0 = true := rfl
  unfold Amount.sum
  rw [sumFrom_eq_ok zero]
  simp only [Int.zero_add]

namespace Accounting

variable {m n id : Nat} {bytes : Int} {o : ObjectRef} {w w' : World}

/-! ## What they do -/

theorem credit_apply (m : Nat) (bytes : Int) (w : World) :
    credit m bytes w = match Amount.add (w.manager m).used bytes with
      | .ok used => .ok () (w.updateManager m (·.setUsed used))
      | .error e => .error (.overflow e) w := by
  unfold credit
  rw [get_bind_apply]
  cases Amount.add (w.manager m).used bytes <;> rfl

theorem debit_apply (m : Nat) (bytes : Int) (w : World) :
    debit m bytes w = match Amount.sub (w.manager m).used bytes with
      | .ok used => .ok () (w.updateManager m (·.setUsed used))
      | .error e => .error (.overflow e) w := by
  unfold debit
  rw [get_bind_apply]
  cases Amount.sub (w.manager m).used bytes <;> rfl

theorem reconcile_apply (m : Nat) (w : World) :
    reconcile m w = match Amount.sum (contributions w m) with
      | .ok total => .ok () (w.updateManager m (·.correct total))
      | .error e => .error (.overflow e) w := by
  unfold reconcile
  rw [get_bind_apply]
  cases Amount.sum (contributions w m) <;> rfl

theorem credit_ok (h : credit m bytes w = .ok () w') :
    w' = w.updateManager m (·.setUsed ((w.manager m).used + bytes)) := by
  rw [credit_apply] at h
  split at h
  · next used sum =>
    obtain ⟨-, rfl⟩ := Amount.add_eq_ok.1 sum
    cases h; rfl
  · cases h

theorem credit_of_fits (h : Amount.fits ((w.manager m).used + bytes) = true) :
    credit m bytes w =
      .ok () (w.updateManager m (·.setUsed ((w.manager m).used + bytes))) := by
  rw [credit_apply, Amount.add_eq_ok.2 ⟨h, rfl⟩]

theorem credit_of_overflow (h : Amount.fits ((w.manager m).used + bytes) = false) :
    credit m bytes w = .error (.overflow .add) w := by
  have overflows : Amount.add (w.manager m).used bytes = .error .add := by
    unfold Amount.add
    rw [h]
    rfl
  rw [credit_apply, overflows]

theorem debit_ok (h : debit m bytes w = .ok () w') :
    w' = w.updateManager m (·.setUsed ((w.manager m).used - bytes)) := by
  rw [debit_apply] at h
  split at h
  · next used difference =>
    obtain ⟨-, rfl⟩ := Amount.sub_eq_ok.1 difference
    cases h; rfl
  · cases h

theorem debit_of_fits (h : Amount.fits ((w.manager m).used - bytes) = true) :
    debit m bytes w =
      .ok () (w.updateManager m (·.setUsed ((w.manager m).used - bytes))) := by
  rw [debit_apply, Amount.sub_eq_ok.2 ⟨h, rfl⟩]

theorem debit_of_overflow (h : Amount.fits ((w.manager m).used - bytes) = false) :
    debit m bytes w = .error (.overflow .sub) w := by
  have overflows : Amount.sub (w.manager m).used bytes = .error .sub := by
    unfold Amount.sub
    rw [h]
    rfl
  rw [debit_apply, overflows]

theorem reconcile_ok (h : reconcile m w = .ok () w') :
    ∃ total, Amount.sum (contributions w m) = .ok total ∧
      w' = w.updateManager m (·.correct total) := by
  rw [reconcile_apply] at h
  split at h
  · next total sum => cases h; exact ⟨total, sum, rfl⟩
  · cases h

/-- Nothing is taken out under an id that is not registered. -/
theorem unregister_of_absent (absent : (w.manager m).registry.find? id = none) :
    unregister m id w = .ok () w := by
  unfold unregister
  rw [get_bind_apply, absent]
  rfl

/-- An entry is forgotten before the count follows. -/
theorem unregister_of_found {o : ObjectRef} (found : (w.manager m).registry.find? id = some o) :
    unregister m id w = debit m (w.accounted o) (w.updateManager m (·.forget id)) := by
  unfold unregister
  rw [get_bind_apply, found]
  rfl

theorem left_unregister {o : ObjectRef} (found : (w.manager m).registry.find? id = some o) :
    left (unregister m id) w = left (debit m (w.accounted o)) (w.updateManager m (·.forget id)) := by
  unfold left
  rw [unregister_of_found found]

/-- What was booked is registered. -/
theorem entry_of_book (h : book m id o w = .ok () w') (there : m < w.managers.size) :
    (id, o) ∈ (w'.manager m).registry.entries := by
  unfold book at h
  rw [get_bind_apply] at h
  obtain ⟨_, v, credited, h⟩ := ok_of_bind h
  obtain ⟨_, v', entered, h⟩ := ok_of_bind h
  obtain ⟨total, -, rfl⟩ := reconcile_ok h
  cases credit_ok credited
  cases entered
  rw [World.updateManager_updateManager, World.updateManager_updateManager,
    World.manager_updateManager_self _ _ there, Manager.registry_correct]
  exact Registry.place_self _

/-! ## What they preserve -/

/-- A change of a manager that has no part in its sweeps, registers nothing and takes no id back. -/
def Tame (f : Manager → Manager) : Prop :=
  ∀ x, (f x).sweepPart = x.sweepPart ∧ (f x).registry.entries ⊆ x.registry.entries ∧
    x.nextId ≤ (f x).nextId

/-- A change that leaves the registry and the ids alone too. -/
def Counting (f : Manager → Manager) : Prop :=
  ∀ x, (f x).sweepPart = x.sweepPart ∧ (f x).registry = x.registry ∧ (f x).nextId = x.nextId

theorem Counting.tame {f : Manager → Manager} (h : Counting f) : Tame f := by
  intro x
  obtain ⟨part, registry, nextId⟩ := h x
  rw [registry, nextId]
  exact ⟨part, List.Subset.refl _, Nat.le_refl _⟩

theorem counting_setUsed (used : Int) : Counting (·.setUsed used) := fun _ => ⟨rfl, rfl, rfl⟩

theorem counting_setTimer (timer : Timer) : Counting (·.setTimer timer) := fun _ => ⟨rfl, rfl, rfl⟩

theorem counting_correct (calculated : Int) : Counting (·.correct calculated) := by
  intro x
  dsimp only [Manager.correct]
  split
  · exact ⟨rfl, rfl, rfl⟩
  · exact ⟨rfl, rfl, rfl⟩

theorem tame_takeId : Tame Manager.takeId := fun _ => ⟨rfl, List.Subset.refl _, Nat.le_succ _⟩

theorem tame_forget (id : Nat) : Tame (·.forget id) :=
  fun _ => ⟨rfl, List.filter_subset_self _, Nat.le_refl _⟩

variable {I : World → Prop}

section Counting

variable
  (hI : ∀ {w : World} {f : Manager → Manager}, Counting f → I w → I (w.updateManager m f))

include hI

theorem preserves_credit : Preserves I (credit m bytes) :=
  preserves_bind preserves_get fun _ => preserves_bind (preserves_ofExcept _) fun _ =>
    preserves_change fun _ => hI (counting_setUsed _)

theorem preserves_debit : Preserves I (debit m bytes) :=
  preserves_bind preserves_get fun _ => preserves_bind (preserves_ofExcept _) fun _ =>
    preserves_change fun _ => hI (counting_setUsed _)

theorem preserves_reconcile : Preserves I (reconcile m) :=
  preserves_bind preserves_get fun _ => preserves_bind (preserves_ofExcept _) fun _ =>
    preserves_change fun _ => hI (counting_correct _)

theorem preserves_audit : Preserves I (audit m) :=
  preserves_bind (preserves_reconcile hI) fun _ => preserves_bind preserves_get fun _ =>
    preserves_pure _

theorem preserves_announceResize : Preserves I (announceResize m id bytes) := by
  refine preserves_bind preserves_get fun w => ?_
  split
  · exact preserves_pure _
  · exact preserves_bind (preserves_ofExcept _) fun _ => preserves_credit hI

/-- Booking an object preserves what entering it does. -/
theorem preserves_book (enters : Preserves I (enter m id o)) : Preserves I (book m id o) :=
  preserves_bind preserves_get fun _ => preserves_bind (preserves_credit hI) fun _ =>
    preserves_bind enters fun _ => preserves_reconcile hI

end Counting

section Tame

variable
  (hI : ∀ {w : World} {f : Manager → Manager}, Tame f → I w → I (w.updateManager m f))

include hI

theorem preserves_freshId : Preserves I (freshId m) :=
  preserves_bind preserves_get fun _ =>
    preserves_bind (preserves_change fun _ => hI tame_takeId) fun _ => preserves_pure _

theorem preserves_unregister : Preserves I (unregister m id) := by
  refine preserves_bind preserves_get fun w => ?_
  split
  · exact preserves_pure _
  · exact preserves_bind (preserves_change fun _ => hI (tame_forget id)) fun _ =>
      preserves_debit fun hf => hI hf.tame

end Tame

end Accounting

end GraphicCache
