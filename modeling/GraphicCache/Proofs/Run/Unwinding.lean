/-
What a halt does to the sweeps that it goes through. The flag of a manager is raised at the
beginning of a sweep and taken down at its end. A halt unwinds the calls of the library down to the
program that goes on; a sweep among them is over and did not come to its end, so its flag stays up.
From then on no sweep of the manager begins, for every attempt takes the flag for a sweep that is
running: the record of the manager is final, and no object of it is asked to swap out any more.

So flags are told by the past of a run. They are up for the sweeps that did not return, and for
those that were unwound.
-/
import GraphicCache.Proofs.Run.History
import GraphicCache.Proofs.Run.Triggers

namespace GraphicCache.Run

open Effect

variable {environment : Names String} {past : List Taken} {t : Taken} {c d : State} {a : Action}
  {acts : List Action} {w w' : World} {m : Nat}

/-! ## Sweeps that were unwound -/

/-- The step is a halt, and went through the only sweep of the manager. -/
structure Taken.Unwinds (t : Taken) (m : Nat) : Prop where
  running : m ∈ swept t.before.calls
  gone : m ∉ swept t.after.calls
  halts : ∃ o, t.action = .halt o

/-- A halt has gone through a sweep of the manager. -/
def Unwound (past : List Taken) (m : Nat) : Prop := ∃ t ∈ past, t.Unwinds m

theorem unwound_snoc : Unwound (past ++ [t]) m ↔ Unwound past m ∨ t.Unwinds m := by
  unfold Unwound
  simp only [List.mem_append, List.mem_singleton]
  constructor
  · rintro ⟨u, before | rfl, unwinds⟩
    · exact .inl ⟨u, before, unwinds⟩
    · exact .inr unwinds
  · rintro (⟨u, before, unwinds⟩ | unwinds)
    · exact ⟨u, .inl before, unwinds⟩
    · exact ⟨t, .inr rfl, unwinds⟩

/-! ## Flags -/

/-- The flag of a manager is up while a sweep of it did not return, and for good once one was
unwound; after that no sweep of it is running. -/
structure Flagged (past : List Taken) (c : State) : Prop where
  once : (swept c.calls).Nodup
  flag : ∀ m, (c.world.manager m).reducing = true ↔ m ∈ swept c.calls ∨ Unwound past m
  apart : ∀ m, Unwound past m → m ∉ swept c.calls

theorem flagged_start (environment : Names String) : Flagged [] ⟨[], .start environment⟩ where
  once := List.nodup_nil
  flag m := by
    rw [(nested_start environment).flag m]
    simp [Unwound]
  apart m := by simp [Unwound]

/-- Every step keeps flags and the past together. -/
theorem Flagged.step (h : Flagged past c) (step : Step c a d) :
    Flagged (past ++ [⟨c, a, d⟩]) d := by
  rcases step.bearing with ⟨record, fewer, same⟩ | ⟨k, due, idle, calls, world⟩ |
    ⟨k, n, calls, done, runs⟩
  -- no sweep begins or comes to its end, and only a halt makes one disappear
  · have flag (m : Nat) : (d.world.manager m).reducing = (c.world.manager m).reducing :=
      congrArg Record.running (record m)
    refine ⟨h.once.sublist fewer.sublist, fun m => ?_, fun m unwound => ?_⟩
    · rw [flag, h.flag m, unwound_snoc]
      constructor
      · rintro (inside | before)
        · by_cases remains : m ∈ swept d.calls
          · exact .inl remains
          · refine .inr (.inr ⟨inside, remains, ?_⟩)
            by_contra runs
            rw [same fun o halts => runs ⟨o, halts⟩] at remains
            exact remains inside
        · exact .inr (.inl before)
      · rintro (remains | before | unwinds)
        · exact .inl (fewer.subset remains)
        · exact .inr before
        · exact .inl unwinds.running
    · rcases unwound_snoc.1 unwound with before | unwinds
      · exact fun remains => h.apart m before (fewer.subset remains)
      · exact unwinds.gone
  -- a sweep begins where the flag is down, so none was unwound
  · have down : ¬ (k ∈ swept c.calls ∨ Unwound past k) := by
      rw [← h.flag k, idle]
      exact Bool.false_ne_true
    have unwound (m : Nat) : Unwound (past ++ [⟨c, a, d⟩]) m ↔ Unwound past m := by
      rw [unwound_snoc]
      refine or_iff_left fun unwinds => unwinds.gone ?_
      rw [calls]
      exact List.mem_cons_of_mem k unwinds.running
    refine ⟨calls ▸ List.nodup_cons.2 ⟨fun inside => down (.inl inside), h.once⟩, fun m => ?_,
      fun m before inside => ?_⟩
    · rw [world, reducing_beginSweep due.there, h.flag m, unwound, calls, List.mem_cons, or_assoc]
    · rw [unwound] at before
      rw [calls] at inside
      rcases List.mem_cons.1 inside with rfl | inside
      · exact down (.inr before)
      · exact h.apart m before inside
  -- a sweep that comes to its end was not unwound
  · have running : k ∈ swept c.calls := by simp [calls]
    have once := h.once
    rw [calls, List.nodup_cons] at once
    have unwound (m : Nat) : Unwound (past ++ [⟨c, a, d⟩]) m ↔ Unwound past m := by
      rw [unwound_snoc]
      refine or_iff_left fun unwinds => ?_
      obtain ⟨o, halts⟩ := unwinds.halts
      exact runs o halts
    refine ⟨once.2, fun m => ?_, fun m before inside => ?_⟩
    · rw [reducing_finish ((h.flag k).2 (.inl running)) done, h.flag m, unwound, calls,
        List.mem_cons]
      constructor
      · rintro ⟨other, (same | inside) | before⟩
        · exact absurd same other
        · exact .inl inside
        · exact .inr before
      · rintro (inside | before)
        · exact ⟨fun same => once.1 (same ▸ inside), .inl (.inr inside)⟩
        · exact ⟨fun same => h.apart m before (same ▸ running), .inr before⟩
    · rw [unwound] at before
      exact h.apart m before (calls ▸ List.mem_cons_of_mem k inside)

/-- In every run flags and the past are together. -/
theorem History.flagged (history : History environment past c) : Flagged past c := by
  induction history with
  | start => exact flagged_start environment
  | next history step ih => exact ih.step step

/-! ## After a sweep was unwound -/

/-- Where the flag is up and no sweep is running, a step changes no record. -/
theorem Step.record_of_flag (step : Step c a d) (up : (c.world.manager m).reducing = true)
    (ended : m ∉ swept c.calls) :
    (d.world.manager m).record = (c.world.manager m).record ∧ m ∉ swept d.calls := by
  rcases step.bearing with ⟨record, fewer, -⟩ | ⟨k, due, idle, calls, world⟩ |
    ⟨k, n, calls, done, -⟩
  · exact ⟨record m, fun inside => ended (fewer.subset inside)⟩
  · have other : k ≠ m := fun same => by rw [same, up] at idle; cases idle
    refine ⟨?_, fun inside => ?_⟩
    · rw [world, World.manager_updateManager_ne _ _ _ other]
    · rw [calls] at inside
      exact (List.mem_cons.1 inside).elim (fun same => other same.symm) ended
  · have other : k ≠ m := fun same => ended (by simp [calls, same])
    exact ⟨Sweep.record_finish_ne done other, fun inside => ended (by simp [calls, inside])⟩

/-- So the record is final. -/
theorem Path.record_of_flag {base : List Call} (path : Path base c acts d)
    (up : (c.world.manager m).reducing = true) (ended : m ∉ swept c.calls) :
    (d.world.manager m).record = (c.world.manager m).record ∧ m ∉ swept d.calls := by
  induction path with
  | refl => exact ⟨rfl, ended⟩
  | snoc path step above ih =>
    obtain ⟨same, ended'⟩ := ih
    obtain ⟨same', ended''⟩ := step.record_of_flag ((congrArg Record.running same).trans up) ended'
    exact ⟨same'.trans same, ended''⟩

/-! ## A sum that overflows -/

/-- Two objects grow after they were registered, so that their sizes do not add up any more, and the
sweep that adds them up halts. -/
theorem overflow_in_a_sweep :
    ∃ past c, History [] past c ∧ Unwound past 0 ∧ c.calls = [] ∧ Due c.world 0 ∧
      (c.world.manager 0).reducing = true := by
  have managed := History.next (.start : History [] _ _)
    (.op (o := .addManager { Config.builtIn with memoryLimit := 0 } false) rfl trivial rfl)
  have arranged := managed.next
    (.op (o := .arrange (bulks [0, 0])) rfl (rearranged_bulks _ _) rfl)
  have first := (arranged.next (.enlist (m := 0) (o := 0) rfl (by decide) rfl)).next (.settle rfl)
  have second := (first.next (.enlist (m := 0) (o := 1) rfl (by decide) rfl)).next (.settle rfl)
  have grown := second.next
    (.op (o := .arrange (bulks [9223372036854775807, 1])) rfl (rearranged_bulks _ _) rfl)
  have begun := grown.next (.sweep (m := 0) (.inl rfl) (by decide) rfl)
  have passed := (begun.next (.skip ⟨by decide, .inr (by decide)⟩)).next
    (.skip ⟨by decide, .inr (by decide)⟩)
  have halted := passed.next (.finishHalts (.inl rfl) rfl)
  refine ⟨_, _, halted, unwound_snoc.2 (.inr ⟨?_, ?_, _, rfl⟩), rfl, ?_, rfl⟩
  all_goals decide

/-! ## The result -/

/-- A sweep that was unwound blocks all later ones. In every state of every run, with halts
anywhere, one sweep of a manager at most did not return, and the flag of the manager is up exactly
if one did not return or a halt has gone through one. In the second case no sweep of the manager is
running, its record stays as it is for the rest of the run, and each later attempt that finds a
sweep due counts itself and does nothing else, however objects are asked. Only where no sweep is
running and none was ever unwound, an attempt that finds one due runs it. -/
theorem unwound_sweep_blocks_others (history : History environment past c) (m : Nat) :
    (swept c.calls).Nodup ∧
    ((c.world.manager m).reducing = true ↔ m ∈ swept c.calls ∨ Unwound past m) ∧
    (Unwound past m → ∀ base acts d, Path base c acts d →
      m ∉ swept d.calls ∧ (d.world.manager m).record = (c.world.manager m).record ∧
      (Due d.world m → ∀ ask, Sweep.attempt ask m d.world =
        .ok () (d.world.updateManager m Manager.countSuppressed))) ∧
    (¬ Unwound past m → m ∉ swept c.calls → Due c.world m → ∀ ask,
      Sweep.attempt ask m c.world = Sweep.complete ask m c.world) := by
  have flagged := history.flagged
  refine ⟨flagged.once, flagged.flag m, ?_, ?_⟩
  · intro unwound base acts d path
    have up : (c.world.manager m).reducing = true := (flagged.flag m).2 (.inr unwound)
    obtain ⟨same, ended⟩ := path.record_of_flag up (flagged.apart m unwound)
    refine ⟨ended, same, fun due ask => ?_⟩
    exact Sweep.attempt_of_busy ask due ((congrArg Record.running same).trans up)
  · intro never ended due ask
    have idle : (c.world.manager m).reducing = false := by
      rw [Bool.eq_false_iff]
      exact fun up => ((flagged.flag m).1 up).elim ended never
    exact Sweep.attempt_of_idle ask due idle

/-- A sum that overflows at the end of a sweep keeps a manager from sweeping again. -/
theorem overflow_blocks_sweeps :
    ∃ past c, History [] past c ∧ Unwound past 0 ∧ Due c.world 0 ∧
      ∀ ask, Sweep.attempt ask 0 c.world =
        .ok () (c.world.updateManager 0 Manager.countSuppressed) := by
  obtain ⟨past, c, history, unwound, -, due, -⟩ := overflow_in_a_sweep
  obtain ⟨-, -, blocked, -⟩ := unwound_sweep_blocks_others history 0
  obtain ⟨-, -, suppressed⟩ := blocked unwound [] [] c (.refl List.nil_suffix)
  exact ⟨past, c, history, unwound, due, suppressed due⟩

/-- So it is not so that the flag of a manager is down whenever no sweep of it is running, and that
a sweep that is due then runs. -/
theorem flag_outlives_sweep :
    ∃ acts c, Reached [] acts c ∧ swept c.calls = [] ∧ Due c.world 0 ∧
      (c.world.manager 0).reducing = true ∧
      ∀ ask, Sweep.attempt ask 0 c.world =
        .ok () (c.world.updateManager 0 Manager.countSuppressed) := by
  obtain ⟨past, c, history, -, calls, due, up⟩ := overflow_in_a_sweep
  refine ⟨_, c, history.reached, ?_, due, up, fun ask => Sweep.attempt_of_busy ask due up⟩
  rw [calls]
  rfl

end GraphicCache.Run
