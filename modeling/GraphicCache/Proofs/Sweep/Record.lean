/-
What a manager records about its sweeps: whether one is running, how many ran to their end, how many
objects they swapped out, and when the last one ended. Accounting leaves the record alone; a sweep
changes it when it begins and when it is finished.
-/
import GraphicCache.Proofs.Accounting

namespace GraphicCache

open Effect

/-- What a manager records about its sweeps. -/
structure Record where
  running : Bool
  sweeps : Nat
  evictions : Nat
  lastSweep : Option Moment

def Manager.record (x : Manager) : Record where
  running := x.reducing
  sweeps := x.counters.sweeps
  evictions := x.counters.evictions
  lastSweep := x.counters.lastSweep

/-- The record after one more sweep, which swapped out `evicted` objects and ended now. -/
def Record.next (r : Record) (evicted : Nat) (now : Moment) : Record :=
  ⟨false, r.sweeps + 1, r.evictions + evicted, some now⟩

/-- The record is a part of what only sweeps change. -/
theorem Manager.record_congr {x y : Manager} (h : x.sweepPart = y.sweepPart) :
    x.record = y.record := by
  simp only [sweepPart, Prod.mk.injEq] at h
  obtain ⟨-, running, sweeps, evictions, -, last⟩ := h
  unfold record
  rw [running, sweeps, evictions, last]

theorem Manager.sweepPart_correct (x : Manager) (total : Int) :
    (x.correct total).sweepPart = x.sweepPart := by
  unfold correct
  split <;> rfl

namespace Sweep

variable {m k n : Nat} {w w' : World}

/-- Accounts apart, the records of all managers stay as they are. -/
theorem record_updateManager (w : World) (m k : Nat) {f : Manager → Manager}
    (hf : ∀ x, (f x).sweepPart = x.sweepPart) :
    ((w.updateManager m f).manager k).record = (w.manager k).record :=
  w.updateManager_keeps m k fun x => Manager.record_congr (hf x)

/-! ## The end of a sweep -/

theorem finish_ok (h : finish m n w = .ok () w') :
    ∃ total, Amount.sum (Accounting.contributions w m) = .ok total ∧
      w' = (w.updateManager m (·.correct total)).updateManager m
        fun x => { x.countSweep n w.now with reducing := false } := by
  obtain ⟨_, v, reconciled, counted⟩ := ok_of_bind h
  obtain ⟨total, sum, rfl⟩ := Accounting.reconcile_ok reconciled
  cases counted
  exact ⟨total, sum, rfl⟩

/-- A sweep that cannot be finished leaves the world as it is. -/
theorem finish_error {e : Script.Halt} (h : finish m n w = .error e w') : w' = w := by
  rcases error_of_bind h with failed | ⟨_, v, -, counted⟩
  · rw [Accounting.reconcile_apply] at failed
    split at failed
    · cases failed
    · cases failed
      rfl
  · cases counted

theorem now_finish (h : finish m n w = .ok () w') : w'.now = w.now := by
  obtain ⟨total, -, rfl⟩ := finish_ok h
  rfl

/-- The end of a sweep is recorded. -/
theorem record_finish (h : finish m n w = .ok () w') (hm : m < w.managers.size) :
    (w'.manager m).record = (w.manager m).record.next n w.now := by
  obtain ⟨total, -, rfl⟩ := finish_ok h
  have before := record_updateManager w m m (·.sweepPart_correct total)
  rw [World.manager_updateManager_self _ _ (by simpa using hm), ← before]
  rfl

/-- The end of a sweep is recorded by its own manager only. -/
theorem record_finish_ne (h : finish m n w = .ok () w') (hk : m ≠ k) :
    (w'.manager k).record = (w.manager k).record := by
  obtain ⟨total, -, rfl⟩ := finish_ok h
  rw [World.manager_updateManager_ne _ _ _ hk, World.manager_updateManager_ne _ _ _ hk]

end Sweep

end GraphicCache
