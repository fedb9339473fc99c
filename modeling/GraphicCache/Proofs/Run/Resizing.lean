/-
Notices of a new size. An object that comes to another size names the bytes it counted for before,
and its manager adds the difference to what it relies on now. All other accounts leave out what is
swapped out, and this one does not: the count stays the sum over the registry for an object in
memory, and gets ahead of it by the new size for one that keeps a size while it is swapped out.
-/
import GraphicCache.Proofs.Run.Healing
import GraphicCache.Proofs.Run.Scripts
import GraphicCache.Proofs.Run.Skeleton
import GraphicCache.Proofs.Run.Unwinding

namespace GraphicCache

open Effect

/-! ## Overcounting -/

/-- What a notice of a new size counts of an object, and no other account does. -/
def Profile.overcount (p : Profile) : Int := p.dependableSize - p.accounted

theorem Profile.overcount_eq_zero {p : Profile} :
    p.overcount = 0 ↔ (p.swappedOut = true → p.available = true → p.size = 0) := by
  unfold overcount accounted dependableSize
  cases p.swappedOut <;> cases p.available <;> simp

/-- A graphic has no size while it is swapped out. -/
theorem World.overcount_graphic (w : World) (g : Nat) : (w.profile (.graphic g)).overcount = 0 := by
  show (w.graphic g).profile.dependableSize - (w.graphic g).profile.accounted = 0
  rw [Content.dependableSize_profile, Content.accounted_profile, Int.sub_self]

namespace Accounting

variable {m id : Nat} {o : ObjectRef} {w v : World}

/-! ## Objects that change -/

/-- Between the two worlds nothing happened that the manager could see but to the object `o`. -/
structure Altered (m : Nat) (o : ObjectRef) (w v : World) : Prop where
  manager : v.manager m = w.manager m
  others : ∀ p, p ≠ o → v.profile p = w.profile p

theorem altered_updateObject (m i : Nat) (f : ScriptedObject → ScriptedObject) (w : World) :
    Altered m (.scripted i) w (w.updateObject i f) where
  manager := rfl
  others p other := by
    cases p with
    | graphic g => rfl
    | scripted k =>
      exact congrArg ScriptedObject.profile
        (w.object_updateObject_ne (fun same => other (by rw [same])) f)

/-- How often an object is registered. -/
def registrations (w : World) (m : Nat) (o : ObjectRef) : Nat :=
  (w.manager m).registry.entries.countP fun e => e.2 = o

/-- The sum over the registry follows an object once for each of its registrations. -/
theorem literalUsage_of_altered (h : Altered m o w v) :
    literalUsage v m =
      literalUsage w m + registrations w m o * (v.accounted o - w.accounted o) := by
  rw [← contributions_sum, ← contributions_sum]
  unfold contributions registrations
  rw [h.manager]
  induction (w.manager m).registry.entries with
  | nil => simp
  | cons e rest ih =>
    rw [List.map_cons, List.map_cons, List.sum_cons, List.sum_cons, ih]
    by_cases own : e.2 = o
    · rw [List.countP_cons_of_pos (by simpa using own), own, Nat.cast_succ, Int.add_mul]
      omega
    · have same : v.accounted e.2 = w.accounted e.2 := congrArg Profile.accounted (h.others _ own)
      rw [List.countP_cons_of_neg (by simpa using own), same]
      omega

/-! ## Notices -/

/-- What a manager takes the growth of an object to be that counted for `old`. -/
def growth (w : World) (o : ObjectRef) (old : Int) : Int := (w.profile o).dependableSize - old

/-- The world after a notice. -/
def noticed (w : World) (m : Nat) (o : ObjectRef) (old : Int) : World :=
  w.updateManager m (·.setUsed ((w.manager m).used + growth w o old))

theorem announceResize_apply (found : (w.manager m).registry.find? id = some o) (old : Int) :
    announceResize m id old w = match Amount.sub (w.profile o).dependableSize old with
      | .ok bytes => credit m bytes w
      | .error e => .error (.overflow e) w := by
  unfold announceResize
  rw [get_bind_apply, found]
  show (ofExcept (Amount.sub (w.profile o).dependableSize old) >>= credit m) w = _
  cases Amount.sub (w.profile o).dependableSize old <;> rfl

theorem announceResize_iff (found : (w.manager m).registry.find? id = some o) (old : Int)
    (w' : World) :
    announceResize m id old w = .ok () w' ↔
      Amount.fits (growth w o old) = true ∧
        Amount.fits ((w.manager m).used + growth w o old) = true ∧ w' = noticed w m o old := by
  rw [announceResize_apply found]
  by_cases grows : Amount.fits (growth w o old) = true
  · have difference : Amount.sub (w.profile o).dependableSize old = .ok (growth w o old) :=
      Amount.sub_eq_ok.2 ⟨grows, rfl⟩
    rw [difference, and_iff_right grows]
    constructor
    · intro credited
      refine ⟨?_, credit_ok credited⟩
      by_contra overflows
      cases (credit_of_overflow (by simpa using overflows)).symm.trans credited
    · rintro ⟨fits, rfl⟩
      exact credit_of_fits fits
  · have refused : Amount.sub (w.profile o).dependableSize old = .error .sub := by
      unfold Amount.sub
      exact if_neg grows
    rw [refused]
    exact ⟨nofun, fun all => absurd all.1 grows⟩

theorem literalUsage_noticed (w : World) (m : Nat) (o : ObjectRef) (old : Int) :
    literalUsage (noticed w m o old) m = literalUsage w m :=
  literalUsage_congr (w.updateManager_keeps m m fun _ => rfl) fun p => w.profile_updateManager m _ p

/-- A count that was right follows an object for one of its registrations, and counts it even if it
is swapped out. -/
theorem used_noticed (there : m < v.managers.size)
    (right : (w.manager m).used = literalUsage w m) (altered : Altered m o w v) :
    ((noticed v m o (w.accounted o)).manager m).used =
      literalUsage (noticed v m o (w.accounted o)) m + (v.profile o).overcount -
        (registrations w m o - 1) * (v.accounted o - w.accounted o) := by
  have used : ((noticed v m o (w.accounted o)).manager m).used =
      (v.manager m).used + growth v o (w.accounted o) := by
    unfold noticed
    rw [v.manager_updateManager_self m there]
    rfl
  rw [used, literalUsage_noticed, literalUsage_of_altered altered, altered.manager, right,
    Int.sub_mul, Int.one_mul]
  unfold growth Profile.overcount World.accounted
  omega

/-- The count stays right for a graphic. -/
theorem used_noticed_graphic {g : Nat} (there : m < v.managers.size)
    (right : (w.manager m).used = literalUsage w m) (altered : Altered m (.graphic g) w v)
    (once : registrations w m (.graphic g) = 1) :
    ((noticed v m (.graphic g) (w.accounted (.graphic g))).manager m).used =
      literalUsage (noticed v m (.graphic g) (w.accounted (.graphic g))) m := by
  rw [used_noticed there right altered, once, v.overcount_graphic]
  omega

/-- An object that counted for what it adds to the sum changes, in size or in anything else, and
tells its manager. The count was right: without an overflow the notice returns and nothing but the
count is moved by it. If the object is registered once, the count is right again unless the object
is swapped out and yet names a size; then it is ahead by that size, which the next audit takes off
as drift. -/
theorem resizing_counts_what_is_swapped_out (found : (w.manager m).registry.find? id = some o)
    (right : (w.manager m).used = literalUsage w m) (altered : Altered m o w v) :
    ((∃ v', announceResize m id (w.accounted o) v = .ok () v') ↔
      Amount.fits (growth v o (w.accounted o)) = true ∧
        Amount.fits ((v.manager m).used + growth v o (w.accounted o)) = true) ∧
    ∀ v', announceResize m id (w.accounted o) v = .ok () v' →
      v' = v.updateManager m (·.setUsed (v'.manager m).used) ∧
      (v'.manager m).used = literalUsage v' m + (v.profile o).overcount -
        (registrations w m o - 1) * (v.accounted o - w.accounted o) ∧
      (registrations w m o = 1 →
        ((v'.manager m).used = literalUsage v' m ↔
          ((v.profile o).swappedOut = true → (v.profile o).available = true →
            (v.profile o).size = 0)) ∧
        ∀ usage u, audit m v' = .ok usage u →
          usage = literalUsage v' m ∧
          (u.manager m).counters.driftCorrections = (v.manager m).counters.driftCorrections +
            if (v.profile o).overcount = 0 then 0 else 1) := by
  have found' : (v.manager m).registry.find? id = some o := by rw [altered.manager, found]
  have there : m < v.managers.size := Run.there_of_entry (Registry.find?_eq_some.1 found')
  have returns := announceResize_iff found' (w.accounted o)
  refine ⟨⟨fun ⟨v', h⟩ => ?_, fun ⟨grows, fits⟩ => ?_⟩, fun v' h => ?_⟩
  · obtain ⟨grows, fits, -⟩ := (returns v').1 h
    exact ⟨grows, fits⟩
  · exact ⟨_, (returns _).2 ⟨grows, fits, rfl⟩⟩
  obtain ⟨-, -, rfl⟩ := (returns v').1 h
  have ahead := used_noticed there right altered
  refine ⟨?_, ahead, fun once => ?_⟩
  · refine v.updateManager_congr m ?_
    unfold noticed
    rw [v.manager_updateManager_self m there]
    rfl
  -- of an object that is registered once no registration is left out
  rw [once, Nat.cast_one, Int.sub_self, Int.zero_mul, Int.sub_zero] at ahead
  have exact_iff : ((noticed v m o (w.accounted o)).manager m).used =
      literalUsage (noticed v m o (w.accounted o)) m ↔ (v.profile o).overcount = 0 := by
    rw [ahead]
    omega
  refine ⟨exact_iff.trans Profile.overcount_eq_zero, fun usage u audited => ?_⟩
  obtain ⟨-, rfl, rfl⟩ := audit_iff.1 audited
  have healed := healed_corrected (noticed v m o (w.accounted o)) m
  refine ⟨literalUsage_congr healed.registry healed.objects, ?_⟩
  rw [healed.corrections]
  simp only [exact_iff]
  congr 1
  exact v.updateManager_keeps (q := fun x => x.counters.driftCorrections) m m fun _ => rfl

/-- A manager counts 5 bytes for the only object there is. -/
def small : World :=
  { World.start [] with
    managers := #[{ Manager.new .builtIn with
      used := 5, registry := Registry.empty.insert 1 (.scripted 0) }]
    objects := #[Run.bulk 5] }

/-- The object comes to another size, in memory or out of it. -/
def grow (size : Int) (out : Bool) (w : World) : World :=
  w.updateObject 0 fun x => { x with size := size, swappedOut := out }

/-- The object grows to 7 bytes, which its manager counts; also if they are not in memory, and then
the count is wrong. -/
theorem grown_object_is_counted :
    (∃ v, announceResize 0 1 5 (grow 7 false small) = .ok () v ∧
      (v.manager 0).used = literalUsage v 0) ∧
    ∃ v, announceResize 0 1 5 (grow 7 true small) = .ok () v ∧
      (v.manager 0).used ≠ literalUsage v 0 := by
  have found : (small.manager 0).registry.find? 1 = some (.scripted 0) := rfl
  have altered (out : Bool) : Altered 0 (.scripted 0) small (grow 7 out small) :=
    altered_updateObject 0 0 _ small
  have counts (out : Bool) := resizing_counts_what_is_swapped_out found rfl (altered out)
  constructor
  · obtain ⟨returns, counted⟩ := counts false
    obtain ⟨v, told⟩ := returns.2 (by decide)
    exact ⟨v, told, ((counted v told).2.2 rfl).1.2 (by decide)⟩
  · obtain ⟨returns, counted⟩ := counts true
    obtain ⟨v, told⟩ := returns.2 (by decide)
    exact ⟨v, told, fun right => absurd (((counted v told).2.2 rfl).1.1 right) (by decide)⟩

/-- A swapped-out object that keeps its size of 5 bytes counts for nothing; it grows to 7 bytes,
tells, and the count is 7 where the sum is nothing. -/
theorem swapped_out_object_is_counted :
    ∃ acts c d e, Run.Reached [] acts c ∧ Run.Step c (.op (.arrange (grow 7 true))) d ∧
      Run.Step d (.op (.announceResize 0 1 (c.world.accounted (.scripted 0)))) e ∧
      (c.world.manager 0).registry.find? 1 = some (.scripted 0) ∧
      (c.world.manager 0).used = literalUsage c.world 0 ∧
      d.world.profile (.scripted 0) = { c.world.profile (.scripted 0) with size := 7 } ∧
      (e.world.manager 0).used = 7 ∧ literalUsage e.world 0 = 0 ∧
      ∃ u, audit 0 e.world = .ok 0 u ∧ (u.manager 0).counters.driftCorrections = 1 := by
  have managed := (Run.reached_start []).next
    (.op (o := .addManager .builtIn false) rfl trivial rfl)
  have arranged := (managed.next
    (.op (o := .arrange (Run.bulks [5])) rfl (Run.rearranged_bulks _ _) rfl)).next
    (.op (o := .arrange (grow 5 true)) rfl (World.rearranged_updateObject _ 0 fun _ => rfl) rfl)
  have registered := (arranged.next (.enlist (m := 0) (o := 0) rfl (by decide) rfl)).next
    (.settle rfl)
  refine ⟨_, _, _, _, registered,
    .op (o := .arrange (grow 7 true)) rfl (World.rearranged_updateObject _ 0 fun _ => rfl) rfl,
    .op (o := .announceResize 0 1 _) rfl trivial rfl, ?_⟩
  exact ⟨rfl, rfl, rfl, rfl, rfl, _, rfl, rfl⟩

end Accounting

end GraphicCache
