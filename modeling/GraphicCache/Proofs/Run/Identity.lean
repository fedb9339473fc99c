/-
Ids and what they stand for. Ids of a manager are handed out one after the other, and an id is
booked at some later time: a sweep may run in between, in which anything is registered and
unregistered. In all runs an id stands for the object that it was handed out for as long as it is
registered, and never comes back once it is gone. So booking replaces nothing, a sweep comes to the
objects that it has noted at its beginning, and what is left of a registration that was taken out
can do no harm.
-/
import GraphicCache.Proofs.Run.Books
import GraphicCache.Proofs.Run.History
import Mathlib.Data.List.Range

namespace GraphicCache.Run

open Effect Accounting

variable {environment : Names String} {past : List Taken} {t : Taken} {c d : State} {a : Action}
  {acts : List Action} {m id : Nat} {o o' : ObjectRef}

/-! ## Ids that were handed out -/

/-- What a step hands out an id for: the manager, the id and the object. -/
def Taken.issued? (t : Taken) : Option (Nat × Nat × ObjectRef) :=
  if t.action.issues then (waiting t.after.calls).head? else none

/-- All ids that were handed out, in this order, with what they are for. -/
def issued (past : List Taken) : List (Nat × Nat × ObjectRef) := past.filterMap Taken.issued?

/-- The ids of one manager. -/
def idsOf (m : Nat) (l : List (Nat × Nat × ObjectRef)) : List Nat :=
  (l.filter fun e => e.1 == m).map fun e => e.2.1

theorem issued_snoc (past : List Taken) (t : Taken) :
    issued (past ++ [t]) = issued past ++ t.issued?.toList := by
  unfold issued
  rw [List.filterMap_append]
  cases h : t.issued? <;> simp [h]

theorem issued_of_not (no : a.issues = false) : issued (past ++ [⟨c, a, d⟩]) = issued past := by
  rw [issued_snoc]
  simp [Taken.issued?, no]

theorem issued_of_waits {rest : List (Nat × Nat × ObjectRef)} (yes : a.issues = true)
    (waits : waiting d.calls = (m, id, o) :: rest) :
    issued (past ++ [⟨c, a, d⟩]) = issued past ++ [(m, id, o)] := by
  rw [issued_snoc]
  simp [Taken.issued?, yes, waits]

theorem idsOf_concat (m k : Nat) (l : List (Nat × Nat × ObjectRef)) :
    idsOf k (l ++ [(m, id, o)]) = if m = k then idsOf k l ++ [id] else idsOf k l := by
  unfold idsOf
  rw [List.filter_append, List.map_append]
  by_cases same : m = k
  · simp [same]
  · simp [same]

/-! ## What sweeps have still to come to -/

/-- The entries that a call has still to come to, with their manager. -/
def Call.ahead : Call → List (Nat × Nat × ObjectRef)
  | .sweeping m _ rest _ _ => rest.map fun e => (m, e)
  | _ => []

def ahead (calls : List Call) : List (Nat × Nat × ObjectRef) := calls.flatMap Call.ahead

theorem ahead_cons (call : Call) (s : List Call) : ahead (call :: s) = call.ahead ++ ahead s := rfl

theorem ahead_home (s : List Call) : ahead (home s) ⊆ ahead s := by
  obtain ⟨pre, split⟩ := home_suffix_self s
  intro e he
  rw [← split]
  unfold ahead
  rw [List.flatMap_append]
  exact List.mem_append_right _ he

/-- A sweep that has come to an entry has the others ahead. -/
theorem ahead_further {s : List Call} {target target' : Int} {entry : Nat × ObjectRef}
    {rest : List (Nat × ObjectRef)} {asked asked' : Option ObjectRef} {n n' : Nat} :
    ahead (.sweeping m target rest asked n :: s) ⊆
      ahead (.sweeping m target' (entry :: rest) asked' n' :: s) :=
  List.subset_cons_self _ _

/-- A sweep that begins comes to what is registered then; otherwise there is nothing new to come
to. -/
theorem Step.ahead (step : Step c a d) : ∀ e ∈ Run.ahead d.calls,
    e ∈ Run.ahead c.calls ∨ e.2 ∈ (c.world.manager e.1).registry.entries := by
  intro e he
  cases step with
  | op | opHalts | make | copy | enlist | settle | enter | leave | call | answer | suppress
  | look => exact .inl he
  | @settleHalts s => exact .inl (ahead_home s he)
  | @answerHalts s => exact .inl (ahead_home s he)
  | @askHalts s => exact .inl (List.mem_append_right _ (ahead_home s he))
  | @finishHalts s => exact .inl (List.mem_append_right _ (ahead_home s he))
  | finish ended done => exact .inl (List.mem_append_right _ he)
  | skip | ask | askScripted => exact .inl (ahead_further he)
  | sweep triggered due idle =>
    rw [ahead_cons] at he
    rcases List.mem_append.1 he with new | old
    · obtain ⟨entry, listed, rfl⟩ := List.mem_map.1 new
      exact .inr listed
    · exact .inl old

/-! ## One step -/

/-- What a step does to ids: it hands out the next one of a manager, for something that comes to
wait, or it hands out none, and then nothing is registered but what has waited and waits no more. -/
inductive Allotment (c : State) (a : Action) (d : State) : Prop
  | issues {m id : Nat} {o : ObjectRef} (yes : a.issues = true)
      (next : id = (c.world.manager m).nextId)
      (nextId : ∀ k, (d.world.manager k).nextId =
        if k = m then (c.world.manager m).nextId + 1 else (c.world.manager k).nextId)
      (registry : ∀ k, (d.world.manager k).registry = (c.world.manager k).registry)
      (waits : waiting d.calls = (m, id, o) :: waiting c.calls)
  | rest (no : a.issues = false)
      (nextId : ∀ m, (d.world.manager m).nextId = (c.world.manager m).nextId)
      (entries : ∀ m e, e ∈ (d.world.manager m).registry.entries →
        e ∈ (c.world.manager m).registry.entries ∨
          (m, e) ∈ waiting c.calls ∧ (m, e) ∉ waiting d.calls)
      (fewer : waiting d.calls ⊆ waiting c.calls)

/-- What is booked has waited, and waits no more. -/
theorem Allotment.books {rest : List (Nat × Nat × ObjectRef)} (orderly : Orderly c)
    (no : a.issues = false) (waited : waiting c.calls = (m, id, o) :: rest)
    (world : d.world = left (book m id o) c.world) (fewer : waiting d.calls <:+ rest) :
    Allotment c a d := by
  refine .rest no (fun k => world ▸ nextId_book m id o c.world k) (fun k e he => ?_)
    fun e he => waited ▸ List.mem_cons_of_mem _ (fewer.subset he)
  rw [world] at he
  rcases (within_book m id o c.world).registry k e he with old | ⟨rfl, rfl⟩
  · exact .inl old
  · have apart := (List.nodup_cons.1 (waited ▸ orderly.once)).1
    exact .inr ⟨waited ▸ List.mem_cons_self, fun again => apart (fewer.subset again)⟩

theorem Step.allotment (orderly : Orderly c) (step : Step c a d) : Allotment c a d := by
  cases step.movement with
  | keeps quiet same fewer =>
    have no : a.issues = false := by
      cases a with
      | op o => exact quiet.elim
      | settle => exact quiet.elim
      | _ => exact quiet
    refine .rest no (fun m => congrFun (congrArg Skeleton.nextId same) m) (fun m e he => .inl ?_)
      fewer.subset
    have registry : (d.world.manager m).registry = (c.world.manager m).registry :=
      congrFun (congrArg Skeleton.registry same) m
    rwa [registry] at he
  | @operates o done ready books same =>
    have no : a.issues = false := by
      rcases done with rfl | rfl
      · rfl
      · rfl
    refine .rest no (fun m => ?_) (fun m e he => .inl ?_) (same ▸ List.Subset.refl _)
    · exact congrFun ((congrArg Skeleton.nextId books).trans (o.nextId_books _)) m
    · have entry : e ∈ ((skeleton d.world).registry m).entries := he
      rw [books] at entry
      exact o.registry_books entry
  | makes issues there books next new waits =>
    refine .issues issues next (fun k => ?_) (fun k => ?_) waits
    · exact (congrFun (congrArg Skeleton.nextId books) k).trans (Function.update_apply _ _ _ _)
    · exact congrFun (congrArg Skeleton.registry books) k
  | numbers issues there books next waits =>
    refine .issues issues next (fun k => ?_) (fun k => ?_) waits
    · exact (congrFun (congrArg Skeleton.nextId books) k).trans (Function.update_apply _ _ _ _)
    · exact congrFun (congrArg Skeleton.registry books) k
  | settles settles waited done =>
    exact .books orderly (settles ▸ rfl) waited (left_of_ok done).symm List.suffix_rfl
  | breaks halts waited world fewer => exact .books orderly (halts ▸ rfl) waited world fewer

/-! ## Ids and their objects -/

/-- Ids are handed out in order, and whatever waits, is registered or is ahead of a sweep has the id
that was handed out for it. An id that waits is not registered. -/
structure Issuance (past : List Taken) (c : State) : Prop where
  ids : ∀ m, idsOf m (issued past) = List.range' 1 ((c.world.manager m).nextId - 1)
  waits : ∀ e ∈ waiting c.calls, e ∈ issued past
  entries : ∀ {m e}, e ∈ (c.world.manager m).registry.entries → (m, e) ∈ issued past
  free : ∀ {m id o}, (m, id, o) ∈ waiting c.calls →
    (c.world.manager m).registry.find? id = none
  ahead : ∀ e ∈ Run.ahead c.calls, e ∈ issued past

namespace Issuance

/-- An id is handed out once. -/
theorem unique (h : Issuance past c) (one : (m, id, o) ∈ issued past)
    (other : (m, id, o') ∈ issued past) : o = o' := by
  have nodup : (idsOf m (issued past)).Nodup := by
    rw [h.ids m]
    exact List.nodup_range'
  have listed {x : ObjectRef} (hx : (m, id, x) ∈ issued past) :
      (m, id, x) ∈ (issued past).filter fun e => e.1 == m :=
    List.mem_filter.2 ⟨hx, beq_self_eq_true m⟩
  have same := List.inj_on_of_nodup_map nodup (listed one) (listed other) rfl
  exact (Prod.mk.inj (Prod.mk.inj same).2).2

/-- What is registered under an id that was handed out is what it was handed out for. -/
theorem find?_of_issued (h : Issuance past c) (listed : (m, id, o) ∈ issued past) :
    (c.world.manager m).registry.find? id = none ∨
      (c.world.manager m).registry.find? id = some o := by
  cases found : (c.world.manager m).registry.find? id with
  | none => exact .inl rfl
  | some x =>
    rw [h.unique (h.entries (Registry.find?_eq_some.1 found)) listed]
    exact .inr rfl

theorem find?_of_contains (h : Issuance past c) (listed : (m, id, o) ∈ issued past)
    (contains : (c.world.manager m).registry.contains id = true) :
    (c.world.manager m).registry.find? id = some o := by
  rcases h.find?_of_issued listed with absent | found
  · unfold Registry.contains at contains
    rw [absent] at contains
    cases contains
  · exact found

/-- Every step keeps ids with what they were handed out for. -/
theorem step (h : Issuance past c) (orderly : Orderly c) (step : Step c a d) :
    Issuance (past ++ [⟨c, a, d⟩]) d := by
  have ahead : ∀ e ∈ Run.ahead d.calls, e ∈ issued past := by
    rintro ⟨k, e⟩ he
    rcases step.ahead _ he with old | entry
    · exact h.ahead _ old
    · exact h.entries entry
  cases step.allotment orderly with
  | @issues m id o yes next nextId registry waits =>
    have more : issued (past ++ [⟨c, a, d⟩]) = issued past ++ [(m, id, o)] :=
      issued_of_waits yes waits
    refine ⟨fun k => ?_, fun e he => ?_, fun {k e} he => ?_, fun {k i x} listed => ?_,
      fun e he => more ▸ List.mem_append_left _ (ahead e he)⟩
    · have positive : 0 < (c.world.manager m).nextId := orderly.world.numbered.positive m
      rw [more, idsOf_concat, nextId, h.ids]
      by_cases same : m = k
      · subst same
        have last : id = 1 + ((c.world.manager m).nextId - 1) := by omega
        rw [if_pos rfl, if_pos rfl, last, ← List.range'_1_concat]
        congr 1
        omega
      · rw [if_neg same, if_neg (Ne.symm same)]
    · rw [more]
      rw [waits] at he
      rcases List.mem_cons.1 he with rfl | old
      · exact List.mem_append_right _ List.mem_cons_self
      · exact List.mem_append_left _ (h.waits e old)
    · rw [registry] at he
      exact more ▸ List.mem_append_left _ (h.entries he)
    · rw [registry]
      rw [waits] at listed
      rcases List.mem_cons.1 listed with new | old
      -- what is registered has an id below the next
      · cases new
        refine Registry.find?_eq_none.2 fun x entry => ?_
        have less := orderly.world.issued (orderly.world.entries entry)
        exact Nat.lt_irrefl _ (next ▸ less)
      · exact h.free old
  | rest no nextId entries fewer =>
    have same : issued (past ++ [⟨c, a, d⟩]) = issued past := issued_of_not no
    refine ⟨fun m => ?_, fun e he => same ▸ h.waits e (fewer he), fun {m e} he => ?_,
      fun {m id o} listed => ?_, fun e he => same ▸ ahead e he⟩
    · rw [same, nextId]
      exact h.ids m
    · rw [same]
      rcases entries m e he with old | ⟨waited, -⟩
      · exact h.entries old
      · exact h.waits _ waited
    -- what is registered under an id that waits is what waits, but that is not registered yet
    · refine Registry.find?_eq_none.2 fun o' entry => ?_
      rcases entries m _ entry with old | ⟨waited, gone⟩
      · exact Registry.find?_eq_none.1 (h.free (fewer listed)) o' old
      · rw [h.unique (h.waits _ (fewer listed)) (h.waits _ waited)] at listed
        exact gone listed

end Issuance

theorem issuance_start (environment : Names String) :
    Issuance [] ⟨[], .start environment⟩ := by
  refine ⟨fun m => ?_, nofun, fun {m e} he => ?_, nofun, nofun⟩
  · rw [World.manager_start]
    rfl
  · rw [World.manager_start] at he
    cases he

/-- In every run ids stand for what they were handed out for. -/
theorem History.issuance (history : History environment past c) : Issuance past c := by
  induction history with
  | start => exact issuance_start environment
  | next history step ih => exact ih.step history.reached.orderly step

/-- What waits after a step that hands out an id is what the id was handed out for. -/
theorem Taken.waits_of_issued {e : Nat × Nat × ObjectRef} (new : e ∈ t.issued?) :
    e ∈ waiting t.after.calls := by
  unfold Taken.issued? at new
  split at new
  · exact List.mem_of_mem_head? new
  · cases new

/-- An id that was handed out for a graphic is the graphic's own. -/
theorem History.known_of_issued {g : Nat} (history : History environment past c)
    (listed : (m, id, .graphic g) ∈ issued past) : (skeleton c.world).Known g m id := by
  induction history with
  | start => cases listed
  | next history step ih =>
    rw [issued_snoc] at listed
    rcases List.mem_append.1 listed with old | new
    · obtain ⟨made, rfl, rfl⟩ := ih old
      have same := step.grows.identity g made
      exact ⟨Nat.lt_of_lt_of_le made step.grows.graphics, same.1, same.2⟩
    · have waits := Taken.waits_of_issued (Option.mem_toList.1 new)
      exact (history.next step).reached.orderly.owned waits

/-- A sweep has only graphics of its manager still to come to. -/
theorem History.known_of_ahead {g : Nat} (history : History environment past c)
    (noted : (m, id, .graphic g) ∈ ahead c.calls) : (skeleton c.world).Known g m id :=
  history.known_of_issued (history.issuance.ahead _ noted)

/-! ## Ids that are gone -/

/-- The id was handed out, and it is not registered and not going to be. -/
structure Gone (m id : Nat) (c : State) : Prop where
  issued : id < (c.world.manager m).nextId
  absent : (c.world.manager m).registry.find? id = none
  settled : ∀ o, (m, id, o) ∉ waiting c.calls

/-- No step brings an id back that is gone. -/
theorem Gone.step (h : Gone m id c) (orderly : Orderly c) (step : Step c a d) : Gone m id d := by
  cases step.allotment orderly with
  | @issues k i o yes next nextId registry waits =>
    refine ⟨?_, (congrArg (·.find? id) (registry m)).trans h.absent, fun x listed => ?_⟩
    · rw [nextId]
      split
      · next same => exact Nat.lt_succ_of_lt (same ▸ h.issued)
      · exact h.issued
    · rw [waits] at listed
      rcases List.mem_cons.1 listed with same | old
      · cases same
        exact Nat.lt_irrefl _ (next ▸ h.issued)
      · exact h.settled x old
  | rest no nextId entries fewer =>
    refine ⟨(nextId m).symm ▸ h.issued, ?_, fun o listed => h.settled o (fewer listed)⟩
    refine Registry.find?_eq_none.2 fun o entry => ?_
    rcases entries m _ entry with old | ⟨waited, -⟩
    · exact Registry.find?_eq_none.1 h.absent o old
    · exact h.settled o waited

theorem Gone.path (h : Gone m id c) (orderly : Orderly c) {base : List Call}
    (path : Path base c acts d) : Gone m id d ∧ Orderly d := by
  induction path with
  | refl => exact ⟨h, orderly⟩
  | snoc path step above ih => exact ⟨ih.1.step ih.2 step, ih.2.step step⟩

/-! ## The result -/

/-- Ids keep their identity. In every state of every run, wherever sweeps run between the handing
out of an id and its booking and whatever they make objects do, with any unregistering and any halt:
the ids of a manager were handed out in increasing order, as many as the next id tells, which stays
in range while fewer than `2 ^ 64 - 1` were. What is registered has an id below the next one, and
what is going to be booked has an id under which nothing is registered, so booking replaces nothing.
An id that was handed out is absent or stands for the very object that it was handed out for; so
does an entry that a sweep has still to come to. And an id that was handed out, is not registered
and does not wait to be is so for good: at no later moment does unregistering it change anything, or
letting go of a handle that stands for it. -/
theorem ids_stand_for_their_objects (history : History environment past c) (m : Nat) :
    (idsOf m (issued past)).Pairwise (· < ·) ∧
    (c.world.manager m).nextId = (idsOf m (issued past)).length + 1 ∧
    ((idsOf m (issued past)).length < 2 ^ 64 - 1 → (c.world.manager m).nextId < 2 ^ 64) ∧
    (∀ id o, (id, o) ∈ (c.world.manager m).registry.entries →
      id < (c.world.manager m).nextId ∧ (m, id, o) ∈ issued past) ∧
    (∀ id o, .entering m id o ∈ c.calls → (c.world.manager m).registry.find? id = none) ∧
    (∀ id o, (m, id, o) ∈ issued past → (c.world.manager m).registry.find? id = none ∨
      (c.world.manager m).registry.find? id = some o) ∧
    (∀ target rest asked n, .sweeping m target rest asked n ∈ c.calls → ∀ id o, (id, o) ∈ rest →
      (c.world.manager m).registry.contains id = true →
        (c.world.manager m).registry.find? id = some o) ∧
    ∀ id ∈ idsOf m (issued past), (c.world.manager m).registry.find? id = none →
      (∀ o, .entering m id o ∉ c.calls) → ∀ base acts d, Path base c acts d →
        (d.world.manager m).registry.find? id = none ∧
        unregister m id d.world = .ok () d.world ∧
        ∀ handle, d.world.managerOf handle = m → d.world.idOf handle = id →
          Handling.release handle d.world = .ok () d.world := by
  have issuance := history.issuance
  have orderly := history.reached.orderly
  have positive : 0 < (c.world.manager m).nextId := orderly.world.numbered.positive m
  have entering {id : Nat} {o : ObjectRef} :
      (m, id, o) ∈ waiting c.calls ↔ .entering m id o ∈ c.calls := by
    unfold waiting
    rw [List.mem_filterMap]
    constructor
    · rintro ⟨call, listed, waits⟩
      cases call with
      | entering k i x =>
        cases waits
        exact listed
      | _ => cases waits
    · exact fun listed => ⟨_, listed, rfl⟩
  have count : (c.world.manager m).nextId = (idsOf m (issued past)).length + 1 := by
    rw [issuance.ids m, List.length_range']
    omega
  refine ⟨?_, count, fun room => by omega, fun id o entry => ⟨?_, issuance.entries entry⟩,
    fun id o listed => issuance.free (entering.2 listed),
    fun id o listed => issuance.find?_of_issued listed, ?_, ?_⟩
  · rw [issuance.ids m]
    exact List.pairwise_lt_range'
  · exact orderly.world.issued (orderly.world.entries entry)
  · intro target rest asked n running id o noted contains
    have listed : (m, id, o) ∈ issued past :=
      issuance.ahead _ (List.mem_flatMap.2 ⟨_, running, List.mem_map_of_mem noted⟩)
    exact issuance.find?_of_contains listed contains
  · intro id handed absent settled base acts d path
    have less : id < (c.world.manager m).nextId := by
      rw [issuance.ids m, List.mem_range'_1] at handed
      omega
    have gone : Gone m id c := ⟨less, absent, fun o listed => settled o (entering.1 listed)⟩
    have later := (gone.path orderly path).1.absent
    refine ⟨later, unregister_of_absent later, fun handle manager number => ?_⟩
    exact Handling.release_of_absent (manager ▸ number ▸ later)

/-- A bitmap was unregistered and then its handle let go, and nothing is left to be taken out. -/
theorem stale_handle_is_harmless :
    ∃ past c d, History [] past c ∧ Step c (.op (.drop "picture")) d ∧
      idsOf 0 (issued past) = [1] ∧ (c.world.manager 0).registry.find? 1 = none ∧
      Handling.release (.graphic 0) d.world = .ok () d.world := by
  have managed := History.next (.start : History [] _ _)
    (.op (o := .addManager .builtIn false) rfl trivial rfl)
  have made := managed.next (.make (m := 0) (o := .payload (.bitmap ⟨1, 1, 8, ⟨#[7]⟩⟩))
    rfl (by decide) (by rintro p ⟨⟩; decide) rfl)
  have settled := made.next (.settle rfl)
  have bound := settled.next (.op (o := .bind "picture" (.graphic 0) 1) rfl (.inr (by decide)) rfl)
  have gone := bound.next (.op (o := .unregister 0 1) rfl trivial rfl)
  obtain ⟨-, -, -, -, -, -, -, stale⟩ := ids_stand_for_their_objects gone 0
  refine ⟨_, _, _, gone, .op (o := .drop "picture") rfl trivial rfl, rfl, rfl, ?_⟩
  refine (stale 1 (by decide) rfl (by simp) [] [.op (.drop "picture")] _ ?_).2.2 (.graphic 0) rfl rfl
  exact .one (.op (o := .drop "picture") rfl trivial rfl) List.nil_suffix List.nil_suffix

end GraphicCache.Run
