/-
Runs together with their past. A state tells where a run is, and not how it came there; what was
true at an earlier moment, or which step brought something about, can be spoken of once the steps
are kept. Every run has a past, and what happens after a moment is added to the past of that moment.
-/
import GraphicCache.Proofs.Run

namespace GraphicCache.Run

/-- A step that was taken, and the states before and after it. -/
structure Taken where
  before : State
  action : Action
  after : State

/-- A run of a program that starts with nothing, told by its steps, the first one first. -/
inductive History (environment : Names String) : List Taken → State → Prop where
  | start : History environment [] ⟨[], .start environment⟩
  | next {past c d a} (history : History environment past c) (step : Step c a d) :
      History environment (past ++ [⟨c, a, d⟩]) d

/-- The run goes on from a state to another by some steps, the first one first. -/
inductive Onward (c : State) : List Taken → State → Prop where
  | refl : Onward c [] c
  | snoc {later d e a} (onward : Onward c later d) (step : Step d a e) :
      Onward c (later ++ [⟨d, a, e⟩]) e

variable {environment : Names String} {past later : List Taken} {c d : State} {acts : List Action}

/-- A history is a run. -/
theorem History.reached (history : History environment past c) :
    Reached environment (past.map Taken.action) c := by
  induction history with
  | start => exact reached_start environment
  | next history step ih =>
    rw [List.map_append]
    exact ih.next step

/-- Nothing was done yet since the last step of a history. -/
theorem History.rest (_ : History environment past c) : Onward c [] c := .refl

/-- What was done since a moment is added to the past of that moment. -/
theorem Onward.history (onward : Onward c later d) (history : History environment past c) :
    History environment (past ++ later) d := by
  induction onward with
  | refl => rwa [List.append_nil]
  | snoc onward step ih =>
    rw [← List.append_assoc]
    exact ih.next step

/-- A step on the way comes after the steps before it. -/
theorem Onward.step_of_mem {t : Taken} (onward : Onward c later d) (taken : t ∈ later) :
    ∃ earlier, Onward c earlier t.before ∧ Step t.before t.action t.after ∧
      earlier ++ [t] <+: later := by
  induction onward with
  | refl => cases taken
  | @snoc later d e a onward step ih =>
    rcases List.mem_append.1 taken with old | new
    · obtain ⟨earlier, before, step, first⟩ := ih old
      exact ⟨earlier, before, step, first.trans (List.prefix_append _ _)⟩
    · cases List.mem_singleton.1 new
      exact ⟨later, onward, step, List.prefix_rfl⟩

/-- A step of a history has a history of its own, and the run goes on by it. -/
theorem History.step_of_mem {t : Taken} (history : History environment past c) (taken : t ∈ past) :
    ∃ earlier later, History environment earlier t.before ∧ Step t.before t.action t.after ∧
      Onward t.before (t :: later) c := by
  induction history with
  | start => cases taken
  | @next past c d a history step ih =>
    rcases List.mem_append.1 taken with old | new
    · obtain ⟨earlier, later, before, first, onward⟩ := ih old
      exact ⟨earlier, _, before, first, onward.snoc step⟩
    · cases List.mem_singleton.1 new
      exact ⟨past, [], history, step, .snoc .refl step⟩

/-- Every run goes on by steps. -/
theorem Path.onward {base : List Call} (path : Path base c acts d) :
    ∃ later, Onward c later d ∧ later.map Taken.action = acts := by
  induction path with
  | refl => exact ⟨[], .refl, rfl⟩
  | snoc path step above ih =>
    obtain ⟨later, onward, rfl⟩ := ih
    exact ⟨later ++ [_], onward.snoc step, by simp⟩

/-- Every run has a past. -/
theorem Reached.history (reached : Reached environment acts c) :
    ∃ past, History environment past c ∧ past.map Taken.action = acts := by
  obtain ⟨past, onward, acts⟩ := Path.onward reached
  exact ⟨past, onward.history .start, acts⟩

end GraphicCache.Run
