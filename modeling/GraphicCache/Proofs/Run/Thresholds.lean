/-
The two thresholds of a sweep. It begins when the usage has reached the limit, and it ends when the
usage is below the target, which lies below the limit. So a sweep that begins finds its walk not yet
at an end, and one that has ended below its target leaves nothing due.
-/
import GraphicCache.Proofs.Config.Target
import GraphicCache.Proofs.Run.Timing
import GraphicCache.Proofs.Run.Triggers

namespace GraphicCache

open Effect Run

variable {ask : ObjectRef → Effect Unit} {m : Nat} {w w' : World}

/-! ## Where a sweep begins -/

namespace Sweep

/-- What the walk does with an entry that it comes to, whatever the usage is. -/
def inspect (ask : ObjectRef → Effect Unit) (m : Nat) (e : Nat × ObjectRef) : Effect Visit := do
  let w ← get
  if !(w.manager m).registry.contains e.1 then
    return .gone e.1
  else
    match (w.profile e.2).decide (w.manager m).config w.now with
    | .evict => do
      ask e.2
      let w ← get
      return .asked e.1 (w.profile e.2).swappedOut
    | decision => return .spared e.1 decision

/-- Unless the usage is below the target, the walk inspects its next entry. -/
theorem walk_cons {target : Int} (above : target ≤ (w.manager m).used) (e : Nat × ObjectRef)
    (rest : List (Nat × ObjectRef)) :
    walk ask m target (e :: rest) w = (do
      let visit ← inspect ask m e
      return visit :: (← walk ask m target rest) : Effect (List Visit)) w := by
  obtain ⟨id, o⟩ := e
  rw [walk, get_bind_apply, if_neg (Int.not_lt.2 above)]
  unfold inspect
  rw [bind_assoc, get_bind_apply]
  dsimp only
  split
  · rfl
  · cases (w.profile o).decide (w.manager m).config w.now with
    | evict => simp only [bind_assoc, pure_bind]
    | alreadySwappedOut | tooSmall | activeOperation | recentlyUsed => rfl

/-- A sweep that begins inspects the first entry of the registry, if there is one. -/
theorem attempt_inspects {first : Nat × ObjectRef} {rest : List (Nat × ObjectRef)}
    (nonneg : 0 ≤ (w.manager m).config.memoryLimit) (due : Due w m)
    (idle : (w.manager m).reducing = false)
    (entries : (w.manager m).registry.entries = first :: rest) :
    attempt ask m w = (do
      let visit ← inspect ask m first
      let visits ← walk ask m (w.manager m).config.target rest
      finish m ((visit :: visits).countP Visit.isEviction))
        (w.updateManager m Manager.beginSweep) := by
  have used : ((w.updateManager m Manager.beginSweep).manager m).used = (w.manager m).used :=
    w.updateManager_keeps m m fun _ => rfl
  have above : (w.manager m).config.target ≤
      ((w.updateManager m Manager.beginSweep).manager m).used := by
    rw [used]
    exact ((w.manager m).config.target_between.1 nonneg).2.trans due.2
  rw [attempt_of_idle ask due idle, complete_apply, entries, bind_apply, walk_cons above,
    ← bind_apply]
  simp only [bind_assoc, pure_bind]

end Sweep

/-! ## Where a sweep has ended -/

namespace Run

/-- Asking an object to swap out leaves the settings of managers. -/
theorem Lawful.configured (lawful : Lawful ask) {o : ObjectRef} {config : Config}
    (proper : w.Proper) (h : Configured m config w) (asked : ask o w = .ok () w') :
    w'.Proper ∧ Configured m config w' := by
  cases o with
  | graphic g =>
    rw [lawful.graphic] at asked
    obtain ⟨r, v, done, rest⟩ := ok_of_bind asked
    cases rest
    have lib := (ofManagers_configured m config).invariant.library
    have grows : Grows w w' := left_of_ok done ▸ .of_stable Stable.swapOut w
    exact ⟨grows.proper proper, left_of_ok done ▸ (lib.swapOut ⟨rfl, h⟩).left.2⟩
  | scripted o =>
    obtain ⟨acts, path⟩ := lawful.scripted (s := []) proper asked
    exact ⟨path.grows.proper proper, Path.invariant (P := fun c => Configured m config c.world) path
      (fun _ _ => trivial) h fun kept (_ : True) step => step.configured kept⟩

theorem Lawful.config_complete (lawful : Lawful ask) (proper : w.Proper)
    (there : m < w.managers.size) (done : Sweep.complete ask m w = .ok () w') :
    (w'.manager m).config = (w.manager m).config := by
  obtain ⟨turns, stop, course, -, finished⟩ := Sweep.course_of_complete done
  obtain ⟨config, settings⟩ : ∃ config, (w.manager m).config = config := ⟨_, rfl⟩
  have begun : Configured m config (w.updateManager m Manager.beginSweep) :=
    configured_updateManager (fun _ => rfl) ⟨there, settings⟩
  have turned := course.invariant (I := fun v => v.Proper ∧ Configured m config v)
    (fun kept asked => lawful.configured kept.1 kept.2 asked)
    ⟨(Grows.updateManager w m _).proper proper, begun⟩
  have lib := (ofManagers_configured m config).invariant.library
  have ended : Configured m config w' :=
    left_of_ok finished ▸ (lib.finish ⟨rfl, turned.2⟩).left.2
  exact ended.2.trans settings.symm

/-- Below the limit no trigger finds a sweep due. -/
theorem Trigger.not_finds_of_below (t : Trigger)
    (below : (w.manager m).used < (w.manager m).config.memoryLimit) : ¬ t.Finds w m := by
  cases t with
  | request | tick => exact fun due => Int.not_lt.2 due.2 below
  | registration id o => exact fun finds => Int.not_lt.2 (Int.le_of_lt finds.2) below

/-! ## The order of the thresholds -/

/-- The target that doubles compute grows with the limit. It is the product cut to a whole number,
which is always an amount; it is 0 if the limit is 0, and below the limit if that is positive. So a
sweep that begins inspects the first entry of the registry, if the limit is not negative; and if the
limit is positive, a sweep that leaves the usage below its target leaves no trigger a sweep to
run. -/
theorem thresholds_are_in_order :
    (∀ c d : Config, c.memoryLimit ≤ d.memoryLimit → c.target ≤ d.target) ∧
    (∀ c : Config, Amount.fits c.memoryLimit = true →
      (∀ target, (∃ converted factor product,
        Config.Computes c.memoryLimit converted factor product target) ↔ target = c.target) ∧
      ∀ converted factor product target,
        Config.Computes c.memoryLimit converted factor product target →
          Amount.truncate product = target ∧ Amount.fits target = true) ∧
    (∀ c : Config, c.memoryLimit = 0 → c.target = 0) ∧
    (∀ c : Config, 1 ≤ c.memoryLimit → 0 ≤ c.target ∧ c.target < c.memoryLimit) ∧
    (∀ ask m (w : World) first rest, 0 ≤ (w.manager m).config.memoryLimit → Due w m →
      (w.manager m).reducing = false → (w.manager m).registry.entries = first :: rest →
      Sweep.attempt ask m w = (do
        let visit ← Sweep.inspect ask m first
        let visits ← Sweep.walk ask m (w.manager m).config.target rest
        Sweep.finish m ((visit :: visits).countP Sweep.Visit.isEviction))
          (w.updateManager m Manager.beginSweep)) ∧
    ∀ ask, Lawful ask → ∀ m (w w' : World), w.Proper → 1 ≤ (w.manager m).config.memoryLimit →
      Due w m → (w.manager m).reducing = false → Sweep.attempt ask m w = .ok () w' →
      (w'.manager m).used < (w.manager m).config.target →
      ∀ t : Trigger, ¬ t.Finds w' m ∧ ∀ ask', t.effect ask' m w' = t.withoutSweep m w' := by
  refine ⟨fun c d => Config.target_mono,
    fun c fits => ⟨Config.computes_iff fits, fun _ _ _ _ computed => computed.truncate_eq fits⟩,
    fun c zero => ?_,
    fun c pos => ⟨(c.target_between.1 (by omega)).1, Config.target_lt (by omega)⟩,
    fun ask m w first rest => Sweep.attempt_inspects, ?_⟩
  · obtain ⟨above, below⟩ := c.target_between
    omega
  · intro ask lawful m w w' proper pos due idle done below t
    rw [Sweep.attempt_of_idle ask due idle] at done
    have settings := lawful.config_complete proper due.there done
    have missed : ¬ t.Finds w' m := by
      refine t.not_finds_of_below ?_
      rw [settings]
      exact below.trans (Config.target_lt (by omega))
    exact ⟨missed, fun ask' => t.effect_of_missed ask' missed⟩

/-- A manager with a limit of ten bytes is told of a hundred that are not there. Its sweep finds a
graphic of one byte and counts again, and that is all there is to sweep. -/
theorem overstated_usage_is_swept_once :
    ∃ acts c w', Reached [] acts c ∧ (c.world.manager 0).used = 101 ∧
      (c.world.manager 0).config.target = 7 ∧
      Sweep.attempt askQuietly 0 c.world = (do
        let visit ← Sweep.inspect askQuietly 0 (1, .graphic 0)
        let visits ← Sweep.walk askQuietly 0 7 []
        Sweep.finish 0 ((visit :: visits).countP Sweep.Visit.isEviction))
          (c.world.updateManager 0 Manager.beginSweep) ∧
      Sweep.attempt askQuietly 0 c.world = .ok () w' ∧ (w'.manager 0).used = 1 ∧
      ∀ t : Trigger, ¬ t.Finds w' 0 := by
  have managed := (reached_start []).next
    (.op (o := .addManager { Config.builtIn with memoryLimit := 10 } false) rfl trivial rfl)
  have made := managed.next (.make (m := 0) (o := .payload (.bitmap ⟨1, 1, 8, ⟨#[7]⟩⟩))
    rfl (by decide) (by rintro p ⟨⟩; decide) rfl)
  have settled := made.next (.settle rfl)
  have told := settled.next (.op (o := .announceIn 0 100) rfl trivial rfl)
  have proper := (Path.grows told).proper (proper_start [])
  have target : ({ Config.builtIn with memoryLimit := 10 } : Config).target = 7 := by decide
  obtain ⟨-, -, -, -, inspects, leaves⟩ := thresholds_are_in_order
  refine ⟨_, _, _, told, rfl, target, ?_, rfl, rfl, fun t => ?_⟩
  · rw [← target]
    exact inspects askQuietly 0 _ (1, .graphic 0) [] (by decide) (by decide) rfl rfl
  · exact (leaves askQuietly lawful_askQuietly 0 _ _ proper (by decide) (by decide) rfl rfl
      (by decide) t).1

end Run

end GraphicCache
