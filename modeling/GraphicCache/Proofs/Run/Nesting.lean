/-
Sweeps of one manager never nest, and every trigger is accounted for. In a run without halts the
flag of a manager is up exactly while a sweep of it did not return, and there is one such sweep at
most. A trigger of a sweep, whatever the objects do that the sweep asks, completes one sweep if none
is running; if one is running it counts itself and does nothing; and otherwise nothing is recorded.

Both rest on one look at a single step: only the beginning and the end of a sweep change what its
manager records, and a sweep begins only while the flag of its manager is down.
-/
import GraphicCache.Proofs.Run.Frame
import GraphicCache.Proofs.Sweep.Course

namespace GraphicCache.Run

open Effect

variable {c d : State} {a : Action} {acts : List Action} {w w' : World} {m : Nat}

/-! ## One step -/

/-- A record does not mind what most operations do. -/
theorem stable_record (m : Nat) (r : Record) : Stable fun w => (w.manager m).record = r where
  manager hf hw := (Sweep.record_updateManager _ _ m fun x => (hf x).1).trans hw
  content _ hw := hw
  busy _ hw := hw
  hands _ _ hw := hw
  clock _ hw := hw

/-- An effect that preserves stable invariants changes no record. -/
theorem record_of_stable {α : Type} {x : Effect α}
    (h : ∀ {I : World → Prop}, Stable I → Preserves I x) (w : World) (m : Nat) :
    ((left x w).manager m).record = (w.manager m).record :=
  h (stable_record m _) w rfl

/-- No operation changes the record of a manager. -/
theorem record_effect {o : Op} (ready : o.Ready w) (m : Nat) :
    ((left o.effect w).manager m).record = (w.manager m).record := by
  refine (stable_record m _).effect ready rfl (fun g p _ => rfl) (fun g f _ _ _ => rfl)
    (fun g _ => rfl) (fun name handle id _ => rfl)
    (fun config timer => w.addManager_keeps m rfl) fun f arranges => ?_
  subst arranges
  have managers : (f w).managers = w.managers := ready.managers
  unfold World.manager
  rw [managers]

theorem record_book (m id : Nat) (o : ObjectRef) (w : World) (k : Nat) :
    ((left (Accounting.book m id o) w).manager k).record = (w.manager k).record := by
  have enters : Preserves (fun v => (v.manager k).record = (w.manager k).record)
      (Accounting.enter m id o) := by
    refine preserves_change fun v hv => ?_
    rw [Sweep.record_updateManager v m k (f := (·.enter id o)) fun _ => rfl]
    exact hv
  exact Accounting.preserves_book (stable_record k _).usable.counts enters w rfl

/-- How a step bears on sweeps. -/
inductive Bearing (c : State) (a : Action) (d : State) : Prop where
  /-- Nothing is recorded, and sweeps end at a halt only. -/
  | none (record : ∀ m, (d.world.manager m).record = (c.world.manager m).record)
      (calls : swept d.calls <:+ swept c.calls)
      (same : (∀ o, a ≠ .halt o) → swept d.calls = swept c.calls)
  | begins (m : Nat) (due : Due c.world m) (idle : (c.world.manager m).reducing = false)
      (calls : swept d.calls = m :: swept c.calls)
      (world : d.world = c.world.updateManager m Manager.beginSweep)
  | ends (m n : Nat) (calls : swept c.calls = m :: swept d.calls)
      (done : Sweep.finish m n c.world = .ok () d.world) (runs : ∀ o, a ≠ .halt o)

/-- A step that neither begins nor ends a sweep and does not halt. -/
theorem Bearing.calm (record : ∀ m, (d.world.manager m).record = (c.world.manager m).record)
    (calls : swept d.calls = swept c.calls) : Bearing c a d :=
  .none record (calls ▸ List.suffix_rfl) fun _ => calls

/-- A halt ends the sweeps that it goes through. -/
theorem Bearing.halts {o : Option Op}
    (record : ∀ m, (d.world.manager m).record = (c.world.manager m).record)
    (calls : d.calls <:+ c.calls) : Bearing c (.halt o) d :=
  .none record (calls.filterMap _) fun h => absurd rfl (h o)

theorem Step.bearing (step : Step c a d) : Bearing c a d := by
  cases step with
  | op free ready done => exact .calm (fun m => left_of_ok done ▸ record_effect ready m) rfl
  | opHalts free ready halts =>
    exact .halts (fun m => left_of_error halts ▸ record_effect ready m) List.suffix_rfl
  | make free there fits made =>
    obtain ⟨-, -, rfl⟩ := Swapping.create_ok made
    exact .calm (fun m => Sweep.record_updateManager _ _ m fun _ => rfl) rfl
  | copy free there held duplicated made =>
    obtain ⟨-, -, rfl⟩ := Swapping.create_ok made
    exact .calm (fun m => Sweep.record_updateManager _ _ m fun _ => rfl) rfl
  | enlist free there fresh =>
    refine .calm (fun m => left_of_ok fresh ▸ record_of_stable (fun st => ?_) _ m) rfl
    exact Accounting.preserves_freshId st.manager
  | settle done => exact .calm (fun m => left_of_ok done ▸ record_book _ _ _ _ m) rfl
  | settleHalts halts =>
    exact .halts (fun m => left_of_error halts ▸ record_book _ _ _ _ m) (home_suffix _ _)
  | enter free held begun fetched =>
    refine .calm (fun m => ?_) rfl
    have begun := left_of_ok begun ▸ record_of_stable Stable.beginOperation _ m
    exact (left_of_ok fetched ▸ record_of_stable Stable.fetch _ m).trans begun
  | leave done =>
    exact .calm (fun m => left_of_ok done ▸ record_of_stable Stable.endOperation _ m) rfl
  | call free => exact .calm (fun _ => rfl) rfl
  | answer => exact .calm (fun _ => rfl) rfl
  | answerHalts => exact .halts (fun _ => rfl) (home_suffix _ _)
  | sweep triggered due idle => exact .begins _ due idle rfl rfl
  | suppress triggered due busy =>
    exact .calm (fun m => World.updateManager_keeps _ _ m fun _ => rfl) rfl
  | skip passed => exact .calm (fun _ => rfl) rfl
  | ask asked done =>
    exact .calm (fun m => left_of_ok done ▸ record_of_stable Stable.swapOut _ m) rfl
  | askHalts asked halts =>
    exact .halts (fun m => left_of_error halts ▸ record_of_stable Stable.swapOut _ m)
      (home_suffix _ _)
  | askScripted asked => exact .calm (fun _ => rfl) rfl
  | look => exact .calm (fun _ => rfl) rfl
  | finish ended done => exact .ends _ _ rfl done nofun
  | finishHalts ended halts =>
    exact .halts (fun m => by rw [Sweep.finish_error halts]) (home_suffix _ _)

/-- There is a manager to sweep. -/
theorem Due.there (due : Due w m) : m < w.managers.size := by
  by_contra absent
  obtain ⟨-, above⟩ := due
  rw [w.manager_of_size_le m (by omega)] at above
  exact absurd above (by decide)

/-! ## Flags -/

/-- The beginning of a sweep raises the flag of its manager. -/
theorem reducing_beginSweep {k : Nat} (there : k < w.managers.size) :
    ((w.updateManager k Manager.beginSweep).manager m).reducing = true ↔
      m = k ∨ (w.manager m).reducing = true := by
  by_cases same : m = k
  · subst same
    rw [World.manager_updateManager_self _ _ there]
    exact iff_of_true rfl (.inl rfl)
  · rw [World.manager_updateManager_ne _ _ _ (Ne.symm same)]
    exact (or_iff_right same).symm

/-- The end of a sweep takes the flag of its manager down. -/
theorem reducing_finish {k n : Nat} (running : (w.manager k).reducing = true)
    (done : Sweep.finish k n w = .ok () w') :
    (w'.manager m).reducing = true ↔ m ≠ k ∧ (w.manager m).reducing = true := by
  by_cases same : m = k
  · subst same
    have there : m < w.managers.size := by
      by_contra absent
      rw [World.manager_of_size_le _ m (by omega)] at running
      cases running
    have down : (w'.manager m).reducing = false :=
      congrArg Record.running (Sweep.record_finish done there)
    simp [down]
  · have kept : (w'.manager m).reducing = (w.manager m).reducing :=
      congrArg Record.running (Sweep.record_finish_ne done (Ne.symm same))
    rw [kept]
    exact (and_iff_right same).symm

/-- The flag of a manager is up while a sweep of it did not return, and there is one at most. -/
structure Nested (c : State) : Prop where
  once : (swept c.calls).Nodup
  flag : ∀ m, (c.world.manager m).reducing = true ↔ m ∈ swept c.calls

theorem nested_start (environment : Names String) : Nested ⟨[], .start environment⟩ where
  once := List.nodup_nil
  flag m := by
    show ((World.start environment).manager m).reducing = true ↔ m ∈ swept []
    rw [World.manager_of_size_le (.start environment) m (Nat.zero_le m)]
    simp [Manager.new, swept]

/-- Every step that does not halt keeps flags and calls together. -/
theorem Nested.step (h : Nested c) (runs : ∀ o, a ≠ .halt o) (step : Step c a d) : Nested d := by
  rcases step.bearing with ⟨record, -, same⟩ | ⟨k, due, idle, calls, world⟩ |
    ⟨k, n, calls, done, -⟩
  -- no sweep begins or ends
  · have calls := same runs
    refine ⟨calls ▸ h.once, ?_⟩
    intro m
    rw [calls, ← h.flag m]
    exact Eq.congr_left (congrArg Record.running (record m))
  -- a sweep begins only while its flag is down
  · have absent : k ∉ swept c.calls := by
      rw [← h.flag k, idle]
      exact Bool.false_ne_true
    refine ⟨calls ▸ List.nodup_cons.2 ⟨absent, h.once⟩, ?_⟩
    intro m
    rw [calls, world, reducing_beginSweep due.there, h.flag m, List.mem_cons]
  -- the sweep that ends was the only one of its manager
  · have once := h.once
    rw [calls, List.nodup_cons] at once
    refine ⟨once.2, ?_⟩
    intro m
    have running : (c.world.manager k).reducing = true := (h.flag k).2 (by simp [calls])
    rw [reducing_finish running done, h.flag m, calls, List.mem_cons]
    constructor
    · rintro ⟨other, same | inside⟩
      · exact absurd same other
      · exact inside
    · intro inside
      exact ⟨fun same => once.1 (same ▸ inside), .inr inside⟩

/-- In every state of a run without halts the flags tell which sweeps did not return. -/
theorem Reached.nested {environment : Names String} (reached : Reached environment acts c)
    (runs : ∀ a ∈ acts, ∀ o, a ≠ .halt o) : Nested c :=
  Path.invariant reached runs (nested_start environment) fun h ok step => h.step ok step

/-! ## While a sweep waits -/

/-- While a sweep of a manager waits for calls that it has made, its record stays as it is: another
sweep of the manager does not begin, and this one is not finished. That holds with halts too, as
long as they do not reach the sweep. -/
theorem Path.record {base : List Call} (path : Path base c acts d) (start : c.calls = base)
    (running : (c.world.manager m).reducing = true) :
    (d.world.manager m).record = (c.world.manager m).record := by
  -- the flag stays up, so no other sweep of the manager can stand above the one that waits
  suffices h : (d.world.manager m).record = (c.world.manager m).record ∧
      ∃ pre, d.calls = pre ++ base ∧ m ∉ swept pre from h.1
  induction path with
  | refl => exact ⟨rfl, [], start, by simp [swept]⟩
  | @snoc d e acts a path step above ih =>
    obtain ⟨same, pre, calls, absent⟩ := ih
    obtain ⟨pre', calls'⟩ := above
    have running' : (d.world.manager m).reducing = true :=
      (congrArg Record.running same).trans running
    have split : swept d.calls = swept pre ++ swept base := by
      rw [calls, swept, List.filterMap_append]
      rfl
    have split' : swept e.calls = swept pre' ++ swept base := by
      rw [← calls', swept, List.filterMap_append]
      rfl
    rcases step.bearing with ⟨record, fewer, -⟩ | ⟨k, due, idle, more, world⟩ |
      ⟨k, n, fewer, done, -⟩
    · refine ⟨(record m).trans same, pre', calls'.symm, fun inside => absent ?_⟩
      rw [split, split'] at fewer
      obtain ⟨rest, hrest⟩ := fewer
      rw [← List.append_assoc] at hrest
      exact List.append_cancel_right hrest ▸ List.mem_append_right _ inside
    · have other : k ≠ m := fun h => by rw [h, running'] at idle; cases idle
      rw [split, split', ← List.cons_append] at more
      have calls : swept pre' = k :: swept pre := List.append_cancel_right more
      refine ⟨?_, pre', calls'.symm, ?_⟩
      · rw [world, World.manager_updateManager_ne _ _ _ other]
        exact same
      · intro inside
        rw [calls] at inside
        rcases List.mem_cons.1 inside with h | inside
        · exact other h.symm
        · exact absent inside
    · rw [split, split', ← List.cons_append] at fewer
      have calls : swept pre = k :: swept pre' := List.append_cancel_right fewer
      have other : k ≠ m := fun h => absent (by simp [calls, h])
      refine ⟨(Sweep.record_finish_ne done other).trans same, pre', calls'.symm, ?_⟩
      intro inside
      exact absent (calls ▸ List.mem_cons_of_mem k inside)

/-! ## A whole sweep -/

section Whole

variable {ask : ObjectRef → Effect Unit}

/-- While a sweep asks an object, the record of its manager stays as it is. -/
theorem Lawful.record (lawful : Lawful ask) {o : ObjectRef} (proper : w.Proper)
    (running : (w.manager m).reducing = true) (asked : ask o w = .ok () w') :
    (w'.manager m).record = (w.manager m).record ∧ Grows w w' := by
  cases o with
  | graphic g =>
    rw [lawful.graphic] at asked
    obtain ⟨r, v, done, rest⟩ := ok_of_bind asked
    cases rest
    exact ⟨left_of_ok done ▸ record_of_stable Stable.swapOut w m,
      left_of_ok done ▸ .of_stable Stable.swapOut w⟩
  | scripted o =>
    obtain ⟨acts, path⟩ := lawful.scripted (s := []) proper asked
    exact ⟨path.record rfl running, path.grows⟩

/-- A sweep that comes to its end adds one to the sweeps, notes the time, and takes its flag
down. -/
theorem Lawful.record_complete (lawful : Lawful ask) (proper : w.Proper)
    (there : m < w.managers.size) (done : Sweep.complete ask m w = .ok () w') :
    ∃ n, (w'.manager m).record = (w.manager m).record.next n w'.now := by
  obtain ⟨turns, stop, course, -, finished⟩ := Sweep.course_of_complete done
  have begun : (w.updateManager m Manager.beginSweep).manager m = (w.manager m).beginSweep :=
    w.manager_updateManager_self m there
  have grown := Grows.updateManager w m Manager.beginSweep
  -- the record says that the sweep is running, so nothing that is called changes it
  have same : (stop.manager m).record = (w.manager m).beginSweep.record := by
    refine (course.invariant (I := fun v =>
      v.Proper ∧ (v.manager m).record = (w.manager m).beginSweep.record) ?_ ?_).2
    · rintro o v v' ⟨proper, same⟩ asked
      obtain ⟨kept, grows⟩ := lawful.record proper (congrArg Record.running same) asked
      exact ⟨grows.proper proper, kept.trans same⟩
    · exact ⟨grown.proper proper, congrArg Manager.record begun⟩
  have stays : m < stop.managers.size := by
    by_contra absent
    rw [World.manager_of_size_le _ m (by omega)] at same
    exact Bool.false_ne_true (congrArg Record.running same)
  have recorded := Sweep.record_finish finished stays
  rw [same, ← Sweep.now_finish finished] at recorded
  exact ⟨_, recorded⟩

end Whole

end GraphicCache.Run
