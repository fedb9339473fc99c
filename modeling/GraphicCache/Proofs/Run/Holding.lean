/-
What is held is what is registered. In every run of a program that leaves registries and accounts to
the library a graphic is registered exactly while it has a handle, whoever lets go of which handle
first, and wherever: in the middle of a reading, of a sweep, or of the swap-out of another object. A
registration of an object of the program lasts as long as its only handle. Nothing else that a
program does, in particular holding a graphic by a guard, has a part in it; and when the last handle
is gone nothing is left with the manager, in its registry and, for graphics, in its count.
-/
import GraphicCache.Proofs.Run.Lifetimes
import GraphicCache.Proofs.Run.Tallies
import Mathlib.Data.Set.Card

namespace GraphicCache.Run

open Effect Accounting

variable {environment : Names String} {past : List Taken} {t : Taken} {c d : State} {a : Action}
  {w : World} {m id : Nat} {o : ObjectRef} {h : Handle} {s s' : Skeleton}

/-! ## Handles of the past -/

/-- The handle that an operation puts under a name. -/
def Op.names? : Op → Option Handle
  | .bind _ handle _ => some handle
  | _ => none

/-- The handle that a step puts under a name. -/
def Taken.named? (t : Taken) : Option Handle :=
  match t.action with
  | .op o => o.names?
  | _ => none

/-- The handle that a step gives to the program: that of what it books. -/
def Taken.given? (t : Taken) : Option Handle :=
  match t.action with
  | .settle => (waiting t.before.calls).head?.map fun e => handleOf e.1 e.2.1 e.2.2
  | _ => none

/-- All handles that were put under names, one for each time. -/
def named (past : List Taken) : List Handle := past.filterMap Taken.named?

/-- All handles that were given to the program with what was booked. -/
def given (past : List Taken) : List Handle := past.filterMap Taken.given?

theorem named_snoc (past : List Taken) (t : Taken) :
    named (past ++ [t]) = named past ++ t.named?.toList := by
  unfold named
  rw [List.filterMap_append]
  cases h : t.named? <;> simp [h]

theorem given_snoc (past : List Taken) (t : Taken) :
    given (past ++ [t]) = given past ++ t.given?.toList := by
  unfold given
  rw [List.filterMap_append]
  cases h : t.given? <;> simp [h]

theorem named_of_no_op (other : ∀ o, a ≠ .op o) : named (past ++ [⟨c, a, d⟩]) = named past := by
  have none : Taken.named? ⟨c, a, d⟩ = none := by
    cases a with
    | op o => exact absurd rfl (other o)
    | _ => rfl
  rw [named_snoc, none]
  exact List.append_nil _

theorem given_of_no_settle (other : a ≠ .settle) :
    given (past ++ [⟨c, a, d⟩]) = given past := by
  have none : Taken.given? ⟨c, a, d⟩ = none := by
    cases a with
    | settle => exact absurd rfl other
    | _ => rfl
  rw [given_snoc, none]
  exact List.append_nil _

/-- The handle is alive after this past: it has a name, or is temporary, or was given to the program
and did not get a name yet. -/
def InHand (past : List Taken) (c : State) (h : Handle) : Prop :=
  Alive (given past) (named past) c.world.handles c.world.held h

/-! ## Tidy programs -/

/-- The program meets no halt, unregisters nothing and tells managers of no sizes by itself. It ends
temporary handles that it has, and puts a registration under one name only: there is no way to have
another handle of it. -/
structure Tidy (past : List Taken) : Prop where
  runs : ∀ t ∈ past, ∀ o, t.action ≠ .halt o
  usual : ∀ t ∈ past, ∀ o, t.action = .op o → ¬ o.Meddles
  letsGo : ∀ t ∈ past, ∀ g, t.action = .op (.letGo g) → g ∈ t.before.world.held
  once : ∀ m id, (named past).count (.registration m id) ≤ 1

theorem tidy_start : Tidy [] where
  runs _ listed := nomatch listed
  usual _ listed := nomatch listed
  letsGo _ listed := nomatch listed
  once _ _ := Nat.zero_le _

namespace Tidy

theorem before (tidy : Tidy (past ++ [t])) : Tidy past where
  runs t' ht := tidy.runs t' (List.mem_append_left _ ht)
  usual t' ht := tidy.usual t' (List.mem_append_left _ ht)
  letsGo t' ht := tidy.letsGo t' (List.mem_append_left _ ht)
  once m id := by
    have once := tidy.once m id
    rw [named_snoc, List.count_append] at once
    omega

/-- The next step of a tidy program. -/
theorem next (tidy : Tidy past) (runs : ∀ o, t.action ≠ .halt o)
    (usual : ∀ o, t.action = .op o → ¬ o.Meddles)
    (letsGo : ∀ g, t.action = .op (.letGo g) → g ∈ t.before.world.held)
    (first : ∀ m id, t.named? = some (.registration m id) → .registration m id ∉ named past) :
    Tidy (past ++ [t]) where
  runs := List.forall_mem_append.2 ⟨tidy.runs, List.forall_mem_singleton.2 runs⟩
  usual := List.forall_mem_append.2 ⟨tidy.usual, List.forall_mem_singleton.2 usual⟩
  letsGo := List.forall_mem_append.2 ⟨tidy.letsGo, List.forall_mem_singleton.2 letsGo⟩
  once m id := by
    rw [named_snoc, List.count_append]
    by_cases names : t.named? = some (.registration m id)
    · rw [List.count_eq_zero.2 (first m id names), names, Option.toList_some,
        List.count_singleton_self]
    · have other : (t.named?.toList).count (.registration m id) = 0 :=
        List.count_eq_zero.2 fun listed => names (Option.mem_toList.1 listed)
      rw [other]
      exact tidy.once m id

/-- A registration that is put under a name did not have one before. -/
theorem first (tidy : Tidy (past ++ [t])) (names : t.named? = some (.registration m id)) :
    .registration m id ∉ named past := by
  have once := tidy.once m id
  rw [named_snoc, names, List.count_append, Option.toList_some, List.count_singleton_self] at once
  exact List.count_eq_zero.1 (by omega)

end Tidy

/-! ## Steps -/

theorem le_update_succ (f : Nat → Nat) (m k : Nat) : f k ≤ Function.update f m (f m + 1) k := by
  rw [Function.update_apply]
  split
  · next same => exact same ▸ Nat.le_succ _
  · exact Nat.le_refl _

/-- What was made stays so when more is made. -/
theorem Skeleton.Made.mono (made : s.Made h) (graphics : s.graphics ≤ s'.graphics)
    (nextId : ∀ m, s.nextId m ≤ s'.nextId m) : s'.Made h := by
  cases h with
  | graphic g => exact Nat.lt_of_lt_of_le made graphics
  | registration m id => exact Nat.lt_of_lt_of_le made (nextId m)

namespace Lifetimes

variable {given named : List Handle}

/-- Making managers and graphics and handing out ids has nothing to do with handles. -/
theorem more (l : Lifetimes given named s) (registry : s'.registry = s.registry)
    (handles : s'.handles = s.handles) (held : s'.held = s.held)
    (graphics : s.graphics ≤ s'.graphics) (nextId : ∀ m, s.nextId m ≤ s'.nextId m) :
    Lifetimes given named s' := by
  have made : ∀ h ∈ given, s'.Made h := fun h listed => (l.made h listed).mono graphics nextId
  have entered (h : Handle) : s'.Entered h ↔ s.Entered h := by
    unfold Skeleton.Entered
    rw [registry]
  obtain ⟨entered', distinct, single, names, temporaries, order, -⟩ := l
  rw [← handles] at entered' distinct single names
  rw [← held] at entered' temporaries
  exact ⟨fun h => (entered h).trans (entered' h), distinct, single, names, temporaries, order, made⟩

/-- What an operation that is not for the library makes of the books keeps entries with handles that
are alive. -/
theorem books (l : Lifetimes given named (skeleton w)) (rooted : Rooted w) {o : Op}
    (ready : o.Ready w) (usual : ¬ o.Meddles) (letsGo : ∀ g, o = .letGo g → g ∈ w.held)
    (once : ∀ m id, o.names? = some (.registration m id) → .registration m id ∉ named) :
    Lifetimes given (named ++ o.names?.toList) (o.books (skeleton w)) := by
  have placed := rooted.placed
  have entry {m id : Nat} {o : ObjectRef} (listed : (id, o) ∈ (w.manager m).registry.entries) :
      Alive given named w.handles w.held (handleOf m id o) :=
    (l.entered _).1 ⟨m, id, o, listed, rfl⟩
  have unnamed (none : o.names? = none) (kept : Lifetimes given named (o.books (skeleton w))) :
      Lifetimes given (named ++ o.names?.toList) (o.books (skeleton w)) := by
    rw [none, Option.toList_none, List.append_nil]
    exact kept
  cases o with
  | bind name handle id =>
    refine l.bind placed name ?_ fun m id same => same ▸ once m id (congrArg some same)
    cases handle with
    | graphic g =>
      rcases ready with held | listed
      · exact alive_of_isHeld (s := skeleton w) held
      · exact entry listed
    | registration m id =>
      obtain ⟨o, listed⟩ := ready
      exact entry listed
  | unregister => exact absurd trivial usual
  | hold g => exact unnamed rfl (l.hold ready)
  | letGo g => exact unnamed rfl (l.letGo placed (letsGo g rfl))
  | drop name => exact unnamed rfl (l.drop placed name)
  | addManager config timer =>
    exact unnamed rfl (l.more rfl rfl rfl (Nat.le_refl _) fun _ => Nat.le_refl _)
  | _ => exact unnamed rfl l

end Lifetimes

/-- What is registered are the objects of the handles that are alive; the handle of what waits to be
booked is still to be given to the program, and the manager that it waits for was made. -/
structure Living (past : List Taken) (c : State) : Prop where
  handles : Lifetimes (given past) (named past) (skeleton c.world)
  waits : ∀ {m id o}, (m, id, o) ∈ waiting c.calls →
    handleOf m id o ∉ given past ∧ m < c.world.managers.size

namespace Living

/-- The handle of what owns an id was made. -/
theorem made_of_owned (owned : Owned w m id o) :
    (skeleton w).Made (handleOf m id o) := by
  cases o with
  | graphic g =>
    have known : (skeleton w).Known g m id := owned
    exact known.1
  | scripted o => exact owned.1

/-- What waits last has the handle that was just made. -/
theorem adds (living : Living past c) (step : Step c a d)
    (same : given (past ++ [⟨c, a, d⟩]) = given past ∧ named (past ++ [⟨c, a, d⟩]) = named past)
    (handles : Lifetimes (given past) (named past) (skeleton d.world))
    (there : m < c.world.managers.size) (waits : waiting d.calls = (m, id, o) :: waiting c.calls)
    (new : ¬ (skeleton c.world).Made (handleOf m id o)) : Living (past ++ [⟨c, a, d⟩]) d := by
  refine ⟨same.1 ▸ same.2 ▸ handles, fun {k i x} listed => ?_⟩
  rw [waits] at listed
  rw [same.1]
  rcases List.mem_cons.1 listed with latest | old
  · cases latest
    exact ⟨fun again => new (living.handles.made _ again),
      Nat.lt_of_lt_of_le there step.grows.managers⟩
  · obtain ⟨unknown, there⟩ := living.waits old
    exact ⟨unknown, Nat.lt_of_lt_of_le there step.grows.managers⟩

/-- What waited is booked, and its handle given to the program. -/
theorem settles (living : Living past c) (issuance : Issuance past c) (orderly : Orderly c)
    (step : Step c .settle d) (waited : waiting c.calls = (m, id, o) :: waiting d.calls)
    (done : book m id o c.world = .ok () d.world) : Living (past ++ [⟨c, .settle, d⟩]) d := by
  have listed : (m, id, o) ∈ waiting c.calls := waited ▸ List.mem_cons_self
  obtain ⟨unknown, there⟩ := living.waits listed
  have gives : given (past ++ [⟨c, .settle, d⟩]) = given past ++ [handleOf m id o] := by
    have handle : Taken.given? ⟨c, .settle, d⟩ = some (handleOf m id o) := by
      show (waiting c.calls).head?.map _ = _
      rw [waited]
      rfl
    rw [given_snoc, handle]
    rfl
  have same : named (past ++ [⟨c, .settle, d⟩]) = named past := named_of_no_op nofun
  refine ⟨?_, fun {k i x} left => ?_⟩
  · rw [gives, same, skeleton_book there done]
    exact living.handles.enter (issuance.free listed) unknown
      (made_of_owned (orderly.owned listed))
  · have before : (k, i, x) ∈ waiting c.calls := waited ▸ List.mem_cons_of_mem _ left
    obtain ⟨unknown', there'⟩ := living.waits before
    refine ⟨fun again => ?_, Nat.lt_of_lt_of_le there' step.grows.managers⟩
    rw [gives] at again
    rcases List.mem_append.1 again with old | last
    · exact unknown' old
    -- a handle tells the place, and there an id is handed out and waits once
    · have handle : handleOf k i x = handleOf m id o := List.mem_singleton.1 last
      have place := place_of_owned (orderly.owned before)
      rw [handle, place_of_owned (orderly.owned listed)] at place
      cases place
      obtain rfl := issuance.unique (issuance.waits _ listed) (issuance.waits _ before)
      have once := orderly.once
      rw [waited] at once
      exact (List.nodup_cons.1 once).1 left

/-- Every step of a tidy program keeps registered what is held. -/
theorem step (living : Living past c) (issuance : Issuance past c) (orderly : Orderly c)
    (tidy : Tidy (past ++ [⟨c, a, d⟩])) (step : Step c a d) : Living (past ++ [⟨c, a, d⟩]) d := by
  have last : (⟨c, a, d⟩ : Taken) ∈ past ++ [⟨c, a, d⟩] :=
    List.mem_append_right _ List.mem_cons_self
  have idle (other : ∀ o, a ≠ .op o) (unsettled : a ≠ .settle) :
      given (past ++ [⟨c, a, d⟩]) = given past ∧ named (past ++ [⟨c, a, d⟩]) = named past :=
    ⟨given_of_no_settle unsettled, named_of_no_op other⟩
  cases step.movement with
  | keeps quiet same fewer =>
    obtain ⟨gives, names⟩ := idle (by rintro o rfl; exact quiet) (by rintro rfl; exact quiet)
    refine ⟨gives ▸ names ▸ same ▸ living.handles, fun listed => ?_⟩
    obtain ⟨unknown, there⟩ := living.waits (fewer.subset listed)
    exact ⟨gives ▸ unknown, Nat.lt_of_lt_of_le there step.grows.managers⟩
  | @operates o done ready books same =>
    obtain rfl : a = .op o := done.resolve_right (tidy.runs _ last (some o))
    have gives : given (past ++ [⟨c, .op o, d⟩]) = given past := given_of_no_settle nofun
    refine ⟨?_, fun listed => ?_⟩
    · rw [gives, named_snoc, books]
      exact living.handles.books orderly.world ready (tidy.usual _ last o rfl)
        (fun g letsGo => tidy.letsGo _ last g (letsGo ▸ rfl)) fun m id names => tidy.first names
    · rw [same] at listed
      obtain ⟨unknown, there⟩ := living.waits listed
      exact ⟨gives ▸ unknown, Nat.lt_of_lt_of_le there step.grows.managers⟩
  | @makes m id g issues there books next new waits =>
    refine living.adds step (idle (by rintro o rfl; cases issues) (by rintro rfl; cases issues)) ?_
      there waits ?_
    · rw [books]
      exact living.handles.more rfl rfl rfl (Nat.le_succ _) (le_update_succ _ m)
    · rw [new]
      exact Nat.lt_irrefl _
  | @numbers m id o issues there books next waits =>
    refine living.adds step (idle (by rintro o rfl; cases issues) (by rintro rfl; cases issues)) ?_
      there waits ?_
    · rw [books]
      exact living.handles.more rfl rfl rfl (Nat.le_refl _) (le_update_succ _ m)
    · rw [next]
      exact Nat.lt_irrefl _
  | settles settles waited done =>
    subst settles
    exact living.settles issuance orderly step waited done
  | breaks halts waited world fewer => exact absurd halts (tidy.runs _ last none)

end Living

theorem living_start (environment : Names String) : Living [] ⟨[], .start environment⟩ := by
  refine ⟨⟨fun h => ⟨?_, ?_⟩, List.nodup_nil, nofun, nofun, nofun, List.nil_subset _, nofun⟩, nofun⟩
  · rintro ⟨m, id, o, entry, -⟩
    have entry : (id, o) ∈ ((World.start environment).manager m).registry.entries := entry
    rw [World.manager_start] at entry
    cases entry
  · rintro (⟨name, listed⟩ | ⟨g, listed, -⟩ | ⟨listed, -⟩)
    · cases listed
    · cases listed
    · cases listed

/-- In every run of a tidy program what is held is registered, and nothing else. -/
theorem History.living (history : History environment past c) (tidy : Tidy past) :
    Living past c := by
  induction history with
  | start => exact living_start environment
  | next history step ih =>
    exact (ih tidy.before).step history.issuance history.reached.orderly tidy step

/-- A graphic with a handle is registered under its id with its manager. -/
theorem Living.registered (living : Living past c) (rooted : Rooted c.world) {g : Nat}
    (held : c.world.isHeld g = true) : (skeleton c.world).Registered g := by
  obtain ⟨m, id, o, entry, same⟩ :=
    (living.handles.entered (.graphic g)).2 (Lifetimes.alive_of_isHeld (s := skeleton c.world) held)
  cases o with
  | graphic k =>
    cases same
    obtain ⟨made, rfl, rfl⟩ : (skeleton c.world).Known g m id := rooted.entries entry
    exact ⟨made, entry⟩
  | scripted o => cases same

/-- So the count of a manager that only graphics were given ids of is what they add up to. -/
theorem History.tallies (history : History environment past c) (tidy : Tidy past)
    (graphics : ∀ id o, (m, id, o) ∈ issued past → ∃ g, o = .graphic g) : Tallies m c.world := by
  induction history with
  | start => exact tallies_start environment m
  | @next past c d a history step ih =>
    have last : (⟨c, a, d⟩ : Taken) ∈ past ++ [⟨c, a, d⟩] :=
      List.mem_append_right _ List.mem_cons_self
    have earlier (id : Nat) (o : ObjectRef) (listed : (m, id, o) ∈ issued past) :
        ∃ g, o = .graphic g :=
      graphics id o (issued_snoc past _ ▸ List.mem_append_left _ listed)
    have orderly := history.reached.orderly
    have living := history.living tidy.before
    exact (ih tidy.before earlier).step history.issuance orderly
      (fun g held => living.registered orderly.world held)
      (fun id o waits => earlier id o (history.issuance.waits _ waits)) (tidy.runs _ last)
      (tidy.usual _ last) step

/-! ## The result -/

/-- The ids with a manager that belong to handles that are alive. -/
def heldIds (past : List Taken) (c : State) (m : Nat) : Set Nat :=
  {id | ∃ h, InHand past c h ∧ c.world.managerOf h = m ∧ c.world.idOf h = id}

/-- There are as many entries as ids that are registered. -/
theorem size_eq_ncard (r : Registry) : r.size = {id | r.contains id = true}.ncard := by
  have ids : {id | r.contains id = true} = ((r.entries.map Prod.fst).toFinset : Set Nat) := by
    ext id
    rw [List.coe_toFinset]
    simp [Registry.contains_iff]
  rw [ids, Set.ncard_coe_finset, List.toFinset_card_of_nodup r.nodup_ids, List.length_map]
  rfl

/-- An entry is at the place of its handle. -/
theorem place_of_entry (rooted : Rooted w) (entry : (id, o) ∈ (w.manager m).registry.entries) :
    w.managerOf (handleOf m id o) = m ∧ w.idOf (handleOf m id o) = id := by
  have place (h : Handle) : (skeleton w).place h = (w.managerOf h, w.idOf h) := by
    cases h <;> rfl
  exact Prod.mk.inj ((place _).symm.trans (rooted.placed m id o entry))

/-- The ids that are registered are those of handles that are alive. -/
theorem Living.contains_iff (living : Living past c) (rooted : Rooted c.world) :
    (c.world.manager m).registry.contains id = true ↔ id ∈ heldIds past c m := by
  rw [Registry.contains_iff]
  constructor
  · rintro ⟨o, entry⟩
    exact ⟨_, (living.handles.entered _).1 ⟨m, id, o, entry, rfl⟩, place_of_entry rooted entry⟩
  · rintro ⟨h, alive, rfl, rfl⟩
    obtain ⟨m, id, o, entry, rfl⟩ := (living.handles.entered h).2 alive
    obtain ⟨manager, number⟩ := place_of_entry rooted entry
    rw [manager, number]
    exact ⟨o, entry⟩

/-- A graphic is registered while it has a handle. -/
theorem Living.contains_iff_inHand (living : Living past c) (rooted : Rooted c.world) {g : Nat}
    (made : g < c.world.graphics.size) :
    (c.world.manager (c.world.graphic g).manager).registry.contains (c.world.graphic g).id = true ↔
      InHand past c (.graphic g) := by
  constructor
  · intro contains
    obtain ⟨o, entry⟩ := Registry.contains_iff.1 contains
    obtain rfl := rooted.owner_unique ⟨made, rfl, rfl⟩ (rooted.entries entry)
    exact (living.handles.entered _).1 ⟨_, _, _, entry, rfl⟩
  · intro alive
    exact (living.contains_iff rooted).2 ⟨.graphic g, alive, rfl, rfl⟩

/-- Objects are registered exactly while they are held. At every moment of every run of a tidy
program, whatever runs in the middle of what: an id is registered with a manager exactly if it
belongs to a handle that is alive; in particular a graphic is registered with its manager exactly
while it has a handle, be it named, temporary or just given to the program, and no matter how many
operations hold it. There are as many entries as ids of handles that are alive. When the last handle
is gone the registry is empty, and if only graphics were given ids of the manager, its running count
is zero. -/
theorem registered_while_held (history : History environment past c) (tidy : Tidy past) (m : Nat) :
    (∀ id, (c.world.manager m).registry.contains id = true ↔ id ∈ heldIds past c m) ∧
    (∀ g < c.world.graphics.size,
      (c.world.manager (c.world.graphic g).manager).registry.contains (c.world.graphic g).id = true ↔
        InHand past c (.graphic g)) ∧
    (c.world.manager m).registry.size = (heldIds past c m).ncard ∧
    (heldIds past c m = ∅ → (c.world.manager m).registry.size = 0 ∧
      ((∀ id o, (m, id, o) ∈ issued past → ∃ g, o = .graphic g) →
        (c.world.manager m).used = 0)) := by
  have living := history.living tidy
  have rooted := history.reached.orderly.world
  have ids (id : Nat) : (c.world.manager m).registry.contains id = true ↔ id ∈ heldIds past c m :=
    living.contains_iff rooted
  have size : (c.world.manager m).registry.size = (heldIds past c m).ncard := by
    rw [size_eq_ncard]
    exact congrArg Set.ncard (Set.ext ids)
  refine ⟨ids, fun g made => living.contains_iff_inHand rooted made, size, fun gone => ?_⟩
  have none : (c.world.manager m).registry.size = 0 := by
    rw [size, gone, Set.ncard_empty]
  refine ⟨none, fun graphics => ?_⟩
  have empty : (c.world.manager m).registry.entries = [] := List.length_eq_zero_iff.1 none
  rw [(history.tallies tidy graphics).count]
  unfold total contributions
  rw [empty]
  rfl

/-- In the middle of a reading a bitmap loses its names, and stays registered, for the reading has a
temporary handle. When that is gone too nothing is left, although a guard holds the bitmap. -/
theorem bitmap_goes_with_last_handle :
    ∃ past c leave letGo d, History [] past c ∧ Tidy past ∧ c.calls = [.reading 0] ∧
      c.world.handles = [] ∧ (c.world.manager 0).registry.contains 1 = true ∧
      History [] (past ++ [leave] ++ [letGo]) d ∧ Tidy (past ++ [leave] ++ [letGo]) ∧
      leave.action = .leave ∧ letGo.action = .op (.letGo 0) ∧
      (d.world.graphic 0).operations = 1 ∧
      (d.world.manager 0).registry.size = 0 ∧ (d.world.manager 0).used = 0 := by
  have managed := History.next (.start : History [] _ _)
    (.op (o := .addManager .builtIn false) rfl trivial rfl)
  have made := managed.next (.make (m := 0) (o := .payload (.bitmap ⟨1, 1, 8, ⟨#[7]⟩⟩))
    rfl (by decide) (by rintro p ⟨⟩; decide) rfl)
  have settled := made.next (.settle rfl)
  have bound := settled.next (.op (o := .bind "picture" (.graphic 0) 1) rfl (.inr (by decide)) rfl)
  have cloned := bound.next (.op (o := .bind "clone" (.graphic 0) 1) rfl (.inl rfl) rfl)
  have guarded := cloned.next (.op (o := .beginOperation 0 "guard") rfl rfl rfl)
  have held := guarded.next (.op (o := .hold 0) rfl rfl rfl)
  have read := held.next (.enter (g := 0) rfl rfl rfl rfl)
  have dropped := read.next (.op (o := .drop "picture") rfl trivial rfl)
  have alone := dropped.next (.op (o := .drop "clone") rfl trivial rfl)
  have left := alone.next (.leave rfl)
  have gone := left.next (.op (o := .letGo 0) rfl trivial rfl)
  have after := (registered_while_held gone ?tidy 0).2.2.2 ?nothing
  have inside := (registered_while_held alone (Tidy.before (Tidy.before ?tidy)) 0).1 1
  · refine ⟨_, _, _, _, _, alone, .before (.before ?tidy), rfl, rfl, inside.2 ?_, gone, ?tidy, rfl,
      rfl, rfl, after.1, after.2 fun id o listed => ?_⟩
    · exact ⟨.graphic 0, .inr (.inl ⟨0, List.mem_cons_self, rfl⟩), rfl, rfl⟩
    · have listed : (0, id, o) ∈ [(0, 1, ObjectRef.graphic 0)] := listed
      cases List.mem_singleton.1 listed
      exact ⟨0, rfl⟩
  case tidy =>
    iterate 12 refine Tidy.next ?_ nofun ?_ ?_ nofun
    · exact tidy_start
    all_goals rintro x ⟨⟩ <;> first | exact id | exact List.mem_cons_self
  case nothing =>
    refine Set.eq_empty_of_forall_notMem fun id held => ?_
    obtain ⟨h, alive, -⟩ := held
    rcases alive with ⟨name, listed⟩ | ⟨g, listed, -⟩ | ⟨listed, unnamed⟩
    · exact absurd listed List.not_mem_nil
    · exact absurd listed List.not_mem_nil
    · have listed : h ∈ [Handle.graphic 0] := listed
      cases List.mem_singleton.1 listed
      exact unnamed List.mem_cons_self

end GraphicCache.Run
