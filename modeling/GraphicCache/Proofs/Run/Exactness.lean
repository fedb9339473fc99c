/-
Exact accounting along runs. A program that leaves the accounts to the library, and whose registered
objects are all graphics, keeps every world of its runs in balance: each step either changes neither
books nor counts, or changes both alike. What waits in the calls that did not return, a graphic to
be booked or the entries that a sweep has still to come to, fits the books all the while.
-/
import GraphicCache.Proofs.Run.Balance
import GraphicCache.Proofs.Run.Healing

namespace GraphicCache.Run

open Effect Accounting

variable {w w' : World} {m k g id : Nat} {c d : State} {a : Action} {acts : List Action}

/-! ## Operations -/

/-- The operation leaves accounts to the library: it unregisters nothing and gives no notice. -/
def Op.Plain : Op → Prop
  | .unregister .. => False
  | .announceIn .. => False
  | .announceOut .. => False
  | .announceResize .. => False
  | _ => True

/-- The world is another, but its books and counts are the same. -/
theorem InBalance.congr (h : InBalance w) (managers : w'.managers = w.managers)
    (graphics : w'.graphics = w.graphics) (handles : w'.handles = w.handles)
    (held : w'.held = w.held) : Level w w' := by
  have manager (k : Nat) : w'.manager k = w.manager k := by
    unfold World.manager
    rw [managers]
  have graphic (k : Nat) : w'.graphic k = w.graphic k := by
    unfold World.graphic
    rw [graphics]
  have same : skeleton w' = skeleton w := by
    unfold skeleton
    simp only [manager, graphic, managers, graphics, handles, held]
  refine ⟨⟨same ▸ h.sound, ?_⟩, same⟩
  intro k
  have totals : total w' k = total w k := by
    refine total_congr (by rw [manager]) fun e he => ?_
    obtain ⟨g, object, -⟩ := h.sound.listed he
    rw [object, accounted_graphic, accounted_graphic, graphic]
  rw [manager, totals]
  exact h.exact k

theorem InBalance.guard (h : InBalance w) {guard : String} {r : Script.Reply}
    (done : Script.beginOperation guard g w = .ok r w') : Level w w' := by
  have begun := h.operations g (· + 1)
  unfold Script.beginOperation Swapping.beginOperation at done
  rw [change_bind_apply, get_bind_apply, change_bind_apply] at done
  generalize w.updateGraphic g (fun x => { x with operations := x.operations + 1 }) = v
    at begun done
  have guarded : Level v { v with guards := v.guards.put guard g } :=
    begun.balance.congr rfl rfl rfl rfl
  have level := begun.trans guarded
  cases old : v.guards.get? guard with
  | none =>
    rw [old] at done
    cases done
    exact level
  | some other =>
    rw [old] at done
    cases done
    exact level.trans (level.balance.operations other (· - 1))

theorem InBalance.unguard (h : InBalance w) {guard : String} {r : Script.Reply}
    (done : Script.endOperation guard w = .ok r w') : Level w w' := by
  unfold Script.endOperation at done
  rw [get_bind_apply] at done
  cases old : w.guards.get? guard with
  | none =>
    rw [old] at done
    cases done
    exact h.refl
  | some g =>
    rw [old] at done
    cases done
    have unguarded : Level w { w with guards := w.guards.erase guard } :=
      h.congr rfl rfl rfl rfl
    exact unguarded.trans (unguarded.balance.operations g (· - 1))

theorem InBalance.changeFile (h : InBalance w) (g : Nat) (f : SwapFile → SwapFile) :
    Level w (left (Op.alterFile g f).effect w) := by
  rw [left_changeFile]
  cases (w.graphic g).swapFile? with
  | none => exact h.refl
  | some file => exact h.updateGraphic g (fun _ => ⟨rfl, rfl⟩) fun _ => rfl

theorem InBalance.addManager (h : InBalance w) {x : Manager} (registry : x.registry = .empty)
    (nextId : x.nextId = 1) (used : x.used = 0) (calm : x.counters.driftCorrections = 0) :
    Settled w (w.addManager x) := by
  have same := skeleton_addManager (w := w) registry nextId
  refine ⟨⟨same ▸ h.sound.addManager, fun k => ?_⟩,
    same ▸ ⟨fun known => known, fun absent => absent⟩⟩
  have registries : ((w.addManager x).manager k).registry = (w.manager k).registry :=
    w.addManager_keeps (q := Manager.registry) k registry
  have counts : ((w.addManager x).manager k).used = (w.manager k).used :=
    w.addManager_keeps (q := Manager.used) k used
  have drifts : ((w.addManager x).manager k).counters.driftCorrections =
      (w.manager k).counters.driftCorrections :=
    w.addManager_keeps (q := fun x => x.counters.driftCorrections) k calm
  have totals : total (w.addManager x) k = total w k := total_congr registries fun e he => by
    obtain ⟨g, object, -⟩ := h.sound.listed he
    rw [object, accounted_graphic, accounted_graphic]
    rfl
  rw [counts, drifts, totals]
  exact h.exact k

/-- An operation that leaves accounts to the library keeps the world in balance. -/
theorem InBalance.op (h : InBalance w) {o : Op} (plain : o.Plain) (ready : o.Ready w)
    (done : o.effect w = .ok () w') : Settled w w' := by
  cases o with
  | swapOut g =>
    obtain ⟨r, v, done, rest⟩ := ok_of_bind done
    cases rest
    exact (h.swapOut (h.sound.held ready) done).settled
  | swapIn g =>
    obtain ⟨r, v, done, rest⟩ := ok_of_bind done
    cases rest
    exact (h.swapIn (h.sound.held ready) done).settled
  | peek g =>
    obtain ⟨r, v, done, rest⟩ := ok_of_bind done
    cases rest
    exact (h.peek (h.sound.held ready) done).settled
  | replace g p => exact (h.replace (h.sound.held ready.1) done).settled
  | setLastUsed g lastUsed =>
    cases done
    exact (h.setLastUsed g lastUsed).settled
  | beginOperation g guard =>
    obtain ⟨r, v, done, rest⟩ := ok_of_bind done
    cases rest
    exact (h.guard done).settled
  | endOperation guard =>
    obtain ⟨r, v, done, rest⟩ := ok_of_bind done
    cases rest
    exact (h.unguard done).settled
  | alterFile g f => exact (left_of_ok done ▸ h.changeFile g f).settled
  | hold g =>
    cases done
    exact h.hold ready
  | letGo g => exact h.letGo done
  | bind name handle id => exact h.name ready done
  | drop name =>
    obtain ⟨r, v, done, rest⟩ := ok_of_bind done
    cases rest
    exact h.drop done
  | addManager config timer =>
    obtain ⟨t, made⟩ := left_addManager config timer w
    rw [left_of_ok done] at made
    subst made
    exact h.addManager rfl rfl rfl rfl
  | setTimer m timer =>
    cases done
    have level : Level w (w.updateManager m (·.setTimer timer)) :=
      h.updateManager m (fun _ => ⟨rfl, rfl⟩) fun _ => ⟨rfl, rfl⟩
    exact level.settled
  | audit m =>
    obtain ⟨r, v, done, rest⟩ := ok_of_bind done
    cases rest
    obtain ⟨_, v', reconciled, rest⟩ := ok_of_bind done
    cases rest
    rw [h.exact.reconcile reconciled]
    exact h.refl.settled
  | unregister | announceIn | announceOut | announceResize => exact plain.elim
  | noticeIn m size | noticeOut m size =>
    -- a notice needs the handle of a registration, and there are handles of graphics only
    obtain ⟨name, id, handle⟩ := ready
    obtain ⟨g, other⟩ := h.sound.handles _ handle
    cases other
  | advance span =>
    cases done
    have level : Level w { w with now := w.now + span.nanos } := h.congr rfl rfl rfl rfl
    exact level.settled
  | arrange f =>
    cases done
    exact (h.congr ready.managers ready.graphics ready.handles ready.held).settled

/-! ## Making and booking -/

theorem InBalance.create (h : InBalance w) {content : Content} (there : m < w.managers.size)
    (made : Swapping.create m content w = .ok (id, g) w') : Settled w w' := by
  obtain ⟨same, -, -⟩ := skeleton_create there made
  obtain ⟨rfl, rfl, rfl⟩ := Swapping.create_ok made
  refine ⟨⟨same ▸ h.sound.addGraphic there, ?_⟩, ?_⟩
  · intro k
    have registry : (((w.updateManager m Manager.takeId).manager k)).registry =
        (w.manager k).registry := w.updateManager_keeps m k fun _ => rfl
    have used : (((w.updateManager m Manager.takeId).manager k)).used = (w.manager k).used :=
      w.updateManager_keeps m k fun _ => rfl
    have drift : (((w.updateManager m Manager.takeId).manager k)).counters =
        (w.manager k).counters := w.updateManager_keeps m k fun _ => rfl
    have totals : total ((w.updateManager m Manager.takeId).addGraphic
        ⟨content, (w.manager m).nextId, m, 0⟩) k = total w k := by
      refine total_congr registry fun e he => ?_
      obtain ⟨g, object, made, -⟩ := h.sound.listed he
      have old : g ≠ (w.updateManager m Manager.takeId).graphics.size := Nat.ne_of_lt made
      rw [object, accounted_graphic, accounted_graphic, World.graphic_addGraphic, if_neg old]
      rfl
    rw [World.manager_addGraphic, used, drift, totals]
    exact h.exact k
  · rw [same]
    exact ⟨fun known => known.addGraphic, fun absent => absent⟩

/-- The count is raised before a graphic is entered; then the two agree again, and other ids stay as
they are. -/
theorem InBalance.booked (h : InBalance w) (known : (skeleton w).Known g m id)
    (absent : (w.manager m).registry.find? id = none) :
    InBalance (booked w m id (.graphic g)) ∧
      skeleton (Accounting.booked w m id (.graphic g)) =
        (skeleton w).enter m id (.graphic g) := by
  have there : m < w.managers.size := by
    obtain ⟨made, -, rfl⟩ := known
    exact h.sound.owned made
  have there' (used : Int) : m < (w.updateManager m (·.setUsed used)).managers.size := by
    simpa using there
  have same : skeleton (Accounting.booked w m id (.graphic g)) =
      (skeleton w).enter m id (.graphic g) :=
    (skeleton_enter (there' _) id (.graphic g)).trans (by rw [skeleton_setUsed])
  refine ⟨⟨same ▸ h.sound.enter known absent, fun k => ?_⟩, same⟩
  unfold Accounting.booked
  obtain ⟨exact, calm⟩ := h.exact k
  by_cases own : m = k
  · subst own
    have absent' : ((w.updateManager m (·.setUsed ((w.manager m).used +
        w.accounted (.graphic g)))).manager m).registry.find? id = none := by
      rw [World.manager_updateManager_self _ _ there]
      exact absent
    rw [total_enter (there' _) absent', total_setUsed,
      World.manager_updateManager_self _ _ (there' _), World.manager_updateManager_self _ _ there]
    refine ⟨?_, calm⟩
    show (w.manager m).used + w.accounted (.graphic g) = w.accounted (.graphic g) + total w m
    omega
  · rw [World.manager_updateManager_ne _ _ _ own, World.manager_updateManager_ne _ _ _ own,
      total_updateManager_ne _ own, total_updateManager_ne _ own]
    exact ⟨exact, calm⟩

/-- A graphic that was made is booked under its id: the world is in balance again, and other ids
stay as they are. -/
theorem InBalance.book (h : InBalance w) (known : (skeleton w).Known g m id)
    (absent : (w.manager m).registry.find? id = none)
    (done : Accounting.book m id (.graphic g) w = .ok () w') :
    InBalance w' ∧ skeleton w' = (skeleton w).enter m id (.graphic g) := by
  obtain ⟨-, sums, rfl⟩ := book_iff.1 done
  have settled := h.booked known absent
  have right : corrected (Accounting.booked w m id (.graphic g)) m =
      Accounting.booked w m id (.graphic g) :=
    settled.1.exact.reconcile (reconcile_iff.2 ⟨sums, rfl⟩)
  rw [right]
  exact settled

/-! ## Calls -/

/-- What waits in a call fits the books: a graphic to be booked is not registered yet, and a sweep
has graphics to come to. -/
def Call.Fits (s : Skeleton) : Call → Prop
  | .entering m id o =>
    ∃ g, o = .graphic g ∧ s.Known g m id ∧ (s.registry m).find? id = none
  | .sweeping m _ rest _ _ => ∀ e ∈ rest, ∃ g, e.2 = .graphic g ∧ s.Known g m e.1
  | _ => True

/-- The object that a call is to book. -/
def Call.enters? : Call → Option ObjectRef
  | .entering _ _ o => some o
  | _ => none

theorem Call.Fits.evolve {s s' : Skeleton} (evolves : Evolves s s') {call : Call}
    (fits : call.Fits s) : call.Fits s' := by
  cases call with
  | reading g => trivial
  | swappingOut o => trivial
  | entering m id o =>
    obtain ⟨g, rfl, known, absent⟩ := fits
    exact ⟨g, rfl, evolves.known known, evolves.absent absent⟩
  | sweeping m target rest asked n =>
    intro e he
    obtain ⟨g, object, known⟩ := fits e he
    exact ⟨g, object, evolves.known known⟩

/-- The world is in balance, the calls fit its books, and no object is to be booked twice. -/
structure Balanced (c : State) : Prop where
  world : InBalance c.world
  fits : ∀ call ∈ c.calls, call.Fits (skeleton c.world)
  once : (c.calls.filterMap Call.enters?).Nodup

namespace Balanced

variable {s : List Call} {call : Call}

theorem settled (h : Balanced ⟨s, w⟩) (settled : Settled w w') : Balanced ⟨s, w'⟩ where
  world := settled.balance
  fits call hc := (h.fits call hc).evolve settled.evolves
  once := h.once

theorem push (h : Balanced ⟨s, w⟩) (fits : call.Fits (skeleton w)) (none : call.enters? = none) :
    Balanced ⟨call :: s, w⟩ where
  world := h.world
  fits := List.forall_mem_cons.2 ⟨fits, h.fits⟩
  once := by
    rw [List.filterMap_cons_none none]
    exact h.once

theorem pop (h : Balanced ⟨call :: s, w⟩) : Balanced ⟨s, w⟩ where
  world := h.world
  fits := (List.forall_mem_cons.1 h.fits).2
  once := h.once.sublist ((List.sublist_cons_self call s).filterMap _)

/-- A sweep goes on with no more entries to come. -/
theorem sweeping {target target' : Int} {rest rest' : List (Nat × ObjectRef)}
    {asked asked' : Option ObjectRef} {n n' : Nat}
    (h : Balanced ⟨.sweeping m target rest asked n :: s, w⟩) (fewer : rest' ⊆ rest) :
    Balanced ⟨.sweeping m target' rest' asked' n' :: s, w⟩ := by
  have fits := h.fits _ List.mem_cons_self
  have kept : Call.Fits (skeleton w) (.sweeping m target' rest' asked' n') :=
    fun e he => fits e (fewer he)
  exact h.pop.push kept rfl

/-- A graphic that was made waits to be booked. -/
theorem create (h : Balanced ⟨s, w⟩) {content : Content} (there : m < w.managers.size)
    (made : Swapping.create m content w = .ok (id, g) w') :
    Balanced ⟨.entering m id (.graphic g) :: s, w'⟩ := by
  have created := h.settled (h.world.create there made)
  obtain ⟨same, rfl, rfl⟩ := skeleton_create there made
  refine ⟨created.world, List.forall_mem_cons.2 ⟨⟨_, rfl, ?_, ?_⟩, created.fits⟩, ?_⟩
  · rw [same]
    exact Skeleton.known_addGraphic _ m
  · rw [same]
    exact h.world.sound.find?_nextId m
  · refine List.nodup_cons.2 ⟨fun again => ?_, h.once⟩
    obtain ⟨call, listed, enters⟩ := List.mem_filterMap.1 again
    have fits := h.fits call listed
    cases call with
    | entering k id' o =>
      obtain ⟨g, rfl, known, -⟩ := fits
      cases enters
      exact Nat.lt_irrefl _ known.1
    | reading | swappingOut | sweeping => cases enters

/-- A graphic that waited is booked. -/
theorem settle {o : ObjectRef} (h : Balanced ⟨.entering m id o :: s, w⟩)
    (done : Accounting.book m id o w = .ok () w') : Balanced ⟨s, w'⟩ := by
  obtain ⟨⟨g, rfl, known, absent⟩, fits⟩ := List.forall_mem_cons.1 h.fits
  obtain ⟨balance, same⟩ := h.world.book known absent done
  have once : (ObjectRef.graphic g :: s.filterMap Call.enters?).Nodup := h.once
  refine ⟨balance, ?_, (List.nodup_cons.1 once).2⟩
  intro call listed
  have old := fits call listed
  rw [same]
  cases call with
  | reading k => trivial
  | swappingOut k => trivial
  | entering k id' o =>
    obtain ⟨h', rfl, known', absent'⟩ := old
    refine ⟨h', rfl, known', ?_⟩
    -- another graphic waits under another id
    show Registry.find? (Function.update (skeleton w).registry m _ k) id' = none
    rw [Function.update_apply]
    split
    · next own =>
      subst own
      refine Registry.find?_insert_ne absent (fun again => ?_) absent'
      subst again
      obtain rfl := h.world.sound.distinct known known'
      exact (List.nodup_cons.1 once).1 (List.mem_filterMap.2 ⟨_, listed, rfl⟩)
    · exact absent'
  | sweeping => exact old

end Balanced

/-! ## Runs -/

/-- The step leaves accounts to the library, registers no object but graphics, and does not run into
an overflow. -/
def Undisturbed : Action → Prop
  | .op o => o.Plain
  | .enlist _ => False
  | .halt _ => False
  | _ => True

theorem Balanced.step (h : Balanced c) (calm : Undisturbed a) (step : Step c a d) :
    Balanced d := by
  cases step with
  | op free ready done => exact h.settled (h.world.op calm ready done)
  | opHalts | settleHalts | answerHalts | askHalts | finishHalts | enlist => exact calm.elim
  | make free there fits made => exact h.create there made
  | copy free there held duplicated made => exact h.create there made
  | settle done => exact h.settle done
  | @enter s w v w' g p free held begun fetched =>
    cases begun
    have begun := h.world.operations g (· + 1)
    have level := begun.trans
      (begun.balance.fetch (begun.same ▸ h.world.sound.held held) fetched)
    exact (h.settled level.settled).push trivial rfl
  | @leave s w w' g done =>
    cases done
    exact h.pop.settled (h.world.operations g (· - 1)).settled
  | call free => exact h.push trivial rfl
  | answer => exact h.pop
  | @sweep s w m triggered due idle =>
    have level : Level w (w.updateManager m Manager.beginSweep) :=
      h.world.updateManager m (fun _ => ⟨rfl, rfl⟩) fun _ => ⟨rfl, rfl⟩
    refine (h.settled level.settled).push (fun e he => ?_) rfl
    rw [level.same]
    exact h.world.sound.listed he
  | @suppress s w m triggered due busy =>
    have level : Level w (w.updateManager m Manager.countSuppressed) :=
      h.world.updateManager m (fun _ => ⟨rfl, rfl⟩) fun _ => ⟨rfl, rfl⟩
    exact h.settled level.settled
  | skip passed => exact h.sweeping (List.subset_cons_self _ _)
  | ask asked done =>
    obtain ⟨g, same, known⟩ := h.fits _ List.mem_cons_self _ List.mem_cons_self
    cases same
    -- the entry is from the start of the sweep; that its id is registered now makes it current
    have registered := h.world.sound.registered_of_contains known asked.2.1
    exact (h.sweeping (List.subset_cons_self _ _)).settled (h.world.swapOut registered done).settled
  | askScripted asked =>
    obtain ⟨g, other, -⟩ := h.fits _ List.mem_cons_self _ List.mem_cons_self
    cases other
  | look => exact h.sweeping (List.Subset.refl _)
  | finish ended done => exact h.pop.settled (h.world.finish done).settled

theorem balanced_start (environment : Names String) : Balanced ⟨[], .start environment⟩ := by
  refine ⟨⟨?_, ?_⟩, by simp, by simp⟩
  · refine ⟨fun {m id o} entry => ?_, fun {g} held => ?_, by simp [skeleton, World.start],
      fun m => ?_, fun {g} made => ?_, fun {g} made => ?_, fun {g h m id} known => ?_⟩
    · have entry : (id, o) ∈ ((World.start environment).manager m).registry.entries := entry
      rw [World.manager_start] at entry
      cases entry
    · rcases Skeleton.isHeld_iff.1 held with unnamed | ⟨name, named⟩
      · cases unnamed
      · cases named
    · show 0 < ((World.start environment).manager m).nextId
      rw [World.manager_start]
      exact Nat.one_pos
    · cases made
    · cases made
    · cases known.1
  · intro m
    unfold total contributions
    rw [World.manager_start]
    exact ⟨rfl, rfl⟩

/-- The running count of every manager is the sum of the sizes of the objects registered with it,
which are graphics of it under their ids, and was never put right: at every moment of every run of a
program that leaves accounts to the library, registers graphics only and meets no overflow, also in
the middle of readings and sweeps. -/
theorem usage_is_exact {environment : Names String} (reached : Reached environment acts c)
    (calm : ∀ a ∈ acts, Undisturbed a) (m : Nat) :
    (c.world.manager m).used =
        ((c.world.manager m).registry.entries.map fun e => (c.world.profile e.2).size).sum ∧
      (c.world.manager m).counters.driftCorrections = 0 ∧
      ∀ e ∈ (c.world.manager m).registry.entries, ∃ g, e = ((c.world.graphic g).id, .graphic g) ∧
        (c.world.graphic g).manager = m := by
  have balanced : Balanced c :=
    Path.invariant reached calm (balanced_start environment) fun h ok step => h.step ok step
  obtain ⟨exact, drift⟩ := balanced.world.exact m
  have graphics : ∀ e ∈ (c.world.manager m).registry.entries, ∃ g,
      e = ((c.world.graphic g).id, .graphic g) ∧ (c.world.graphic g).manager = m := by
    intro e he
    obtain ⟨g, object, -, id, manager⟩ :=
      balanced.world.sound.listed he
    exact ⟨g, Prod.ext id.symm object, manager⟩
  refine ⟨exact.trans (congrArg List.sum (List.map_congr_left ?_)), drift, graphics⟩
  intro e he
  obtain ⟨g, rfl, -⟩ := graphics e he
  exact accounted_graphic c.world g

/-- While a bitmap that was swapped out is read, it is accounted again. -/
theorem usage_while_bitmap_is_read :
    ∃ acts c, Reached [] acts c ∧ (∀ a ∈ acts, Undisturbed a) ∧ c.calls = [.reading 0] ∧
      (c.world.manager 0).registry.entries = [(1, .graphic 0)] ∧ (c.world.manager 0).used = 1 := by
  have managed := (reached_start []).next (.op (o := .addManager .builtIn false) rfl trivial rfl)
  have made := managed.next (.make (m := 0) (o := .payload (.bitmap ⟨1, 1, 8, ⟨#[7]⟩⟩))
    rfl (by decide) (by rintro p ⟨⟩; decide) rfl)
  have settled := made.next (.settle rfl)
  have bound := settled.next (.op (o := .bind "picture" (.graphic 0) 1) rfl (.inr (by decide)) rfl)
  have swapped := bound.next (.op (o := .swapOut 0) rfl rfl rfl)
  have read := swapped.next (.enter (g := 0) rfl rfl rfl rfl)
  refine ⟨_, _, read, ?calm, rfl, rfl, (usage_is_exact read ?calm 0).1⟩
  simp only [List.nil_append, List.cons_append, List.forall_mem_cons]
  exact ⟨trivial, trivial, trivial, trivial, trivial, trivial, by simp⟩

end GraphicCache.Run
