/-
Managers do not interfere. Whatever is done to one manager and its graphics, in however many steps,
leaves every other manager as it is, with its registry, its count, its counters, its ids and its
timer, and every graphic of the other manager. A copy is a graphic of its own: making it leaves the
graphic that is copied as it is, and neither notices later what is done to the other.
-/
import GraphicCache.Proofs.Run.Sites

namespace GraphicCache.Run

open Effect

variable {environment : Names String} {past later : List Taken} {t : Taken} {c d : State}
  {w w' : World} {m : Nat}

/-! ## One manager at a time -/

/-- The operation takes a name from the handle or the guard that had it. -/
def Op.Displaces (w : World) : Op → Prop
  | .bind name .. => w.handles.get? name ≠ none
  | .beginOperation _ guard => w.guards.get? guard ≠ none
  | _ => False

/-- The step takes a name from the handle or the guard that had it. -/
def Taken.Displaces (t : Taken) : Prop :=
  ∃ o, (t.action = .op o ∨ t.action = .halt (some o)) ∧ o.Displaces t.before.world

theorem Op.sites_eq {o : Op} (site : m ∈ o.sites w) (keeps : ¬ o.Displaces w) :
    o.sites w = [m] := by
  cases o with
  | bind name handle id =>
    have unused : w.handles.get? name = none := by simpa [Displaces] using keeps
    simp only [sites, unused, Option.map_none, Option.toList_none] at site ⊢
    rw [List.mem_singleton.1 site]
  | beginOperation g guard =>
    have unused : w.guards.get? guard = none := by simpa [Displaces] using keeps
    simp only [sites, subjects, unused, Option.toList_none, List.map_cons, List.map_nil] at site ⊢
    rw [List.mem_singleton.1 site]
  | drop name =>
    simp only [sites] at site ⊢
    cases found : w.handles.get? name with
    | none =>
      rw [found] at site
      cases site
    | some old =>
      rw [found] at site
      rw [List.mem_singleton.1 site]
      rfl
  | endOperation guard =>
    simp only [sites, subjects] at site ⊢
    cases found : w.guards.get? guard with
    | none =>
      rw [found] at site
      cases site
    | some old =>
      rw [found] at site
      rw [List.mem_singleton.1 site]
      rfl
  | addManager | advance | arrange => cases site
  | _ => rw [List.mem_singleton.1 site]; rfl

theorem Call.sites_eq {call : Call} (site : m ∈ call.sites w) : call.sites w = [m] := by
  cases call with
  | swappingOut => cases site
  | _ => rw [List.mem_singleton.1 site]; rfl

/-- A step is about one manager at most, unless it takes away a name. -/
theorem Taken.sites_eq (site : m ∈ t.sites) (keeps : ¬ t.Displaces) : t.sites = [m] := by
  obtain ⟨⟨calls, w⟩, a, ⟨calls', w'⟩⟩ := t
  have head {s : List Call} {v : World} (site : m ∈ (s.head?.map (Call.sites v)).getD []) :
      (s.head?.map (Call.sites v)).getD [] = [m] := by
    cases s with
    | nil => cases site
    | cons call s => exact Call.sites_eq site
  cases a with
  | op o => exact Op.sites_eq site fun displaces => keeps ⟨o, .inl rfl, displaces⟩
  | enter | sweep | suppress => rw [List.mem_singleton.1 site]; rfl
  | call => cases site
  | halt o =>
    cases o with
    | none => exact head site
    | some o => exact Op.sites_eq site fun displaces => keeps ⟨o, .inr rfl, displaces⟩
  | _ => exact head site

/-! ## Copies -/

/-- Copying a graphic makes a new one, with a content of its own and the next id of a manager, and
changes nothing else. -/
structure Copied (source : Nat) (t : Taken) (m : Nat) : Prop where
  sites : t.sites = [m]
  content : ∃ content,
    (t.before.world.graphic source).duplicate t.before.world.now = .ok content ∧
      t.after.world.graphic t.before.world.graphics.size =
        ⟨content, (t.before.world.manager m).nextId, m, 0⟩
  graphics : ∀ g < t.before.world.graphics.size,
    t.after.world.graphic g = t.before.world.graphic g
  managers : ∀ k, k ≠ m → t.after.world.manager k = t.before.world.manager k

theorem Step.copied {source : Nat} (step : Step c (.copy source) d) :
    ∃ m, Copied source ⟨c, .copy source, d⟩ m := by
  cases step with
  | @copy s w w' m source content id g free there held duplicated made =>
    obtain ⟨-, -, rfl⟩ := Swapping.create_ok made
    refine ⟨m, rfl, ⟨content, duplicated, ?_⟩, fun g made => ?_, fun k other => ?_⟩
    · exact (World.graphic_addGraphic _ _ _).trans (if_pos rfl)
    · exact (World.graphic_addGraphic _ _ _).trans (if_neg (Nat.ne_of_lt made))
    · exact w.manager_updateManager_ne m k (Ne.symm other)

/-! ## Runs -/

/-- However a run goes on, a manager that its steps are not about stays exactly as it is, and so does
every graphic of that manager; and a step that takes away no name is about one manager at most, that
of its graphic, the one it makes something for, or the one that is swept. A graphic that no step is
about stays exactly as it is, also if it was copied or is a copy; and copying a graphic changes none
that was there, nor any manager but the one that the copy is for. -/
theorem managers_do_not_interfere (history : History environment past c)
    (onward : Onward c later d) :
    (∀ b < c.world.managers.size, (∀ t ∈ later, b ∉ t.sites) →
      d.world.manager b = c.world.manager b ∧
        ∀ g < c.world.graphics.size, (c.world.graphic g).manager = b →
          d.world.graphic g = c.world.graphic g) ∧
    (∀ t ∈ later, ∀ a ∈ t.sites, ¬ t.Displaces → t.sites = [a]) ∧
    (∀ g < c.world.graphics.size, (∀ t ∈ later, g ∉ t.subjects) →
      d.world.graphic g = c.world.graphic g) ∧
    ∀ t ∈ later, ∀ source, t.action = .copy source → ∃ a, Copied source t a := by
  have confined := onward.confined history
  refine ⟨fun b there away => ⟨confined.manager b there ?_, fun g made own => ?_⟩,
    fun t taken a site keeps => Taken.sites_eq site keeps, fun g made away => ?_,
    fun t taken source copies => ?_⟩
  · intro listed
    obtain ⟨t, taken, site⟩ := List.mem_flatMap.1 listed
    exact away t taken site
  · subst own
    exact confined.graphic g made (onward.subject_free history made away)
  · refine confined.graphic g made fun listed => ?_
    obtain ⟨t, taken, subject⟩ := List.mem_flatMap.1 listed
    exact away t taken subject
  · obtain ⟨earlier, -, step, -⟩ := onward.step_of_mem taken
    obtain ⟨before, action, after⟩ := t
    cases copies
    exact step.copied

/-- A bitmap that is out is copied into another manager, where the copy is unregistered under an id
that the bitmap has too, and replaced: the bitmap stays out, and its manager as it is. -/
theorem copied_bitmap_stays :
    ∃ past c later d, History [] past c ∧ Onward c later d ∧
      later.map Taken.action = [.copy 0, .settle, .op (.bind "copy" (.graphic 1) 1),
        .op (.unregister 0 1), .op (.replace 1 (.bitmap ⟨2, 1, 8, ⟨#[7, 7]⟩⟩))] ∧
      (c.world.graphic 0).manager = 1 ∧ (c.world.graphic 0).id = 1 ∧
      (c.world.graphic 0).swappedOut = true ∧
      d.world.manager 1 = c.world.manager 1 ∧ d.world.graphic 0 = c.world.graphic 0 := by
  have managed := (History.next (.start : History [] _ _)
    (.op (o := .addManager .builtIn false) rfl trivial rfl)).next
    (.op (o := .addManager .builtIn false) rfl trivial rfl)
  have made := managed.next (.make (m := 1) (o := .payload (.bitmap ⟨1, 1, 8, ⟨#[7]⟩⟩))
    rfl (by decide) (by rintro p ⟨⟩; decide) rfl)
  have bound := (made.next (.settle rfl)).next
    (.op (o := .bind "picture" (.graphic 0) 1) rfl (.inr (by decide)) rfl)
  have out := bound.next (.op (o := .swapOut 0) rfl rfl rfl)
  have copied := out.rest.snoc
    (.copy (m := 0) rfl (by decide) (rfl : World.isHeld _ 0 = true) rfl rfl)
  have settled := copied.snoc (.settle rfl)
  have named := settled.snoc (.op (o := .bind "copy" (.graphic 1) 1) rfl (.inr (by decide)) rfl)
  have gone := named.snoc (.op (o := .unregister 0 1) rfl trivial rfl)
  have replaced := gone.snoc (.op (o := .replace 1 (.bitmap ⟨2, 1, 8, ⟨#[7, 7]⟩⟩)) rfl
    ⟨rfl, by decide⟩ rfl)
  obtain ⟨managers, -⟩ := managers_do_not_interfere out replaced
  obtain ⟨manager, graphics⟩ := managers 1 (by decide) (by decide)
  exact ⟨_, _, _, _, out, replaced, rfl, rfl, rfl, rfl, manager, graphics 0 (by decide) rfl⟩

end GraphicCache.Run
