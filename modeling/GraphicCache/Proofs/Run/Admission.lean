/-
Registering an object. Its id is handed out first, but the object is accounted and entered last:
where the usage is above the limit a sweep comes in between, and in it scripted objects may
register, unregister and sweep what they like. The sweep does not know of the new object, for the id
waits and is not registered before it is booked, whatever runs until then. So room is made among the
other objects only, as much as they need; then the object is entered, room or not, next to whatever
the sweep has left, and the count is put right.
-/
import GraphicCache.Proofs.Run.Healing
import GraphicCache.Proofs.Run.Identity
import GraphicCache.Proofs.Run.Landing
import GraphicCache.Proofs.Run.Unwinding

namespace GraphicCache.Run

open Effect Accounting Sweep

variable {environment : Names String} {past : List Taken} {acts acts' : List Action} {c d : State}
  {s : List Call} {m id : Nat} {o : ObjectRef} {ask : ObjectRef → Effect Unit} {w u v w' : World}

/-! ## Ids that wait -/

/-- An id was handed out by a manager that is there. -/
theorem Issuance.there (h : Issuance past c) (listed : (m, id, o) ∈ issued past) :
    m < c.world.managers.size := by
  have own : id ∈ idsOf m (issued past) :=
    List.mem_map_of_mem (List.mem_filter.2 ⟨listed, beq_self_eq_true m⟩)
  rw [h.ids m] at own
  by_contra beyond
  rw [c.world.manager_of_size_le m (by omega)] at own
  cases own

/-- What waits is not registered, and its manager is there. -/
theorem Reached.free (reached : Reached environment acts c)
    (waits : (m, id, o) ∈ waiting c.calls) :
    m < c.world.managers.size ∧ (c.world.manager m).registry.find? id = none := by
  obtain ⟨past, history, -⟩ := reached.history
  have issuance := history.issuance
  exact ⟨issuance.there (issuance.waits _ waits), issuance.free waits⟩

/-- While an id waits to be booked it is not registered, whatever runs meanwhile, and to unregister
it does nothing. -/
theorem Reached.unregistered_while_waiting (reached : Reached environment acts c)
    (waits : (m, id, o) ∈ waiting c.calls) (path : Path c.calls c acts' d) :
    (d.world.manager m).registry.find? id = none ∧ unregister m id d.world = .ok () d.world := by
  have waits' : (m, id, o) ∈ waiting d.calls :=
    (path.above.sublist.filterMap Call.waits?).subset waits
  obtain ⟨-, absent⟩ := Reached.free (reached.trans (path.lower List.nil_suffix)) waits'
  exact ⟨absent, unregister_of_absent absent⟩

/-! ## Making room -/

/-- Room is made while the object waits. -/
theorem Follows.roomMade (follows : Follows ask) (proper : w.Proper)
    (made : RoomMade ask m w u) :
    ∃ acts, Path (home s) ⟨.entering m id o :: s, w⟩ acts ⟨.entering m id o :: s, u⟩ := by
  unfold RoomMade at made
  split at made
  · next above =>
    have triggered : Triggered (.entering m id o :: s) w m := .inr ⟨id, o, s, rfl, above⟩
    exact (follows.attempt proper fun _ => triggered).ok made
  · subst made
    exact ⟨[], .refl (home_suffix _ s)⟩

/-- Whether a registration that begins now sweeps first. -/
def SweepsFirst (w : World) (m : Nat) : Prop :=
  (w.manager m).config.swapEnabled = true ∧
    (w.manager m).config.memoryLimit < (w.manager m).used ∧ (w.manager m).reducing = false

instance decidableSweepsFirst (w : World) (m : Nat) : Decidable (SweepsFirst w m) :=
  inferInstanceAs (Decidable (_ ∧ _))

theorem SweepsFirst.due (h : SweepsFirst w m) : Due w m := ⟨h.1, Int.le_of_lt h.2.1⟩

theorem roomMade_of_sweepsFirst (first : SweepsFirst w m) :
    RoomMade ask m w u ↔ complete ask m w = .ok () u := by
  unfold RoomMade
  rw [if_pos first.2.1, attempt_of_idle ask first.due first.2.2]

/-- Otherwise nobody is asked, and at most the attempt is counted. -/
theorem roomMade_of_not (not : ¬ SweepsFirst w m) :
    ∃ u, (u = w ∨ u = w.updateManager m Manager.countSuppressed) ∧
      ∀ ask v, RoomMade ask m w v ↔ v = u := by
  unfold RoomMade
  by_cases above : (w.manager m).config.memoryLimit < (w.manager m).used
  · simp only [if_pos above]
    by_cases due : Due w m
    · have busy : (w.manager m).reducing = true := by
        by_contra idle
        exact not ⟨due.1, above, by simpa using idle⟩
      refine ⟨_, .inr rfl, fun ask v => ?_⟩
      rw [attempt_of_busy ask due busy]
      exact ⟨fun same => (EStateM.Result.ok.inj same).2.symm, fun same => by rw [same]⟩
    · refine ⟨_, .inl rfl, fun ask v => ?_⟩
      rw [attempt_of_not_due ask due]
      exact ⟨fun same => (EStateM.Result.ok.inj same).2.symm, fun same => by rw [same]⟩
  · simp only [if_neg above]
    exact ⟨w, .inl rfl, fun _ _ => Iff.rfl⟩

/-- A sweep came to its end in which an id played no part: it had its turns with the registry as it
was at the beginning, none of them under the id, and ended early only with the usage below the
target. -/
structure SweptWithout (ask : ObjectRef → Effect Unit) (m id : Nat) (w u : World) : Prop where
  done : complete ask m w = .ok () u
  course : ∃ turns stop,
    Course ask m (w.manager m).config.target (w.manager m).registry.entries
      (w.updateManager m Manager.beginSweep) turns stop ∧
    (∀ t ∈ turns, t.id ≠ id) ∧
    (turns.length = (w.manager m).registry.entries.length ∨
      (stop.manager m).used < (w.manager m).config.target) ∧
    finish m (turns.countP (Turn.evicts m)) stop = .ok () u

theorem sweptWithout_of_complete (absent : (w.manager m).registry.find? id = none)
    (done : complete ask m w = .ok () u) : SweptWithout ask m id w u := by
  obtain ⟨turns, stop, course, ended, finished⟩ := course_of_complete done
  -- turns are taken by entries of the registry as it was at the beginning
  refine ⟨done, turns, stop, course, fun t taken same => ?_, ended, finished⟩
  exact Registry.find?_eq_none.1 absent t.object (same ▸ course.mem_snapshot taken)

/-! ## Booking -/

/-- What became of a registration. It has swept exactly if it was to, and otherwise nobody was asked
at all; in the world `u` that this has left, the id is still not registered, and the object is
entered under it there, with nothing else changed but the count, which is right. -/
structure Admitted (ask : ObjectRef → Effect Unit) (m id : Nat) (o : ObjectRef) (w u w' : World) :
    Prop where
  sweeps : (w'.manager m).counters.sweeps =
    (w.manager m).counters.sweeps + if SweepsFirst w m then 1 else 0
  swept : SweepsFirst w m → SweptWithout ask m id w u
  unswept : ¬ SweepsFirst w m → (u = w ∨ u = w.updateManager m Manager.countSuppressed) ∧
    ∀ ask', register ask' m id o w = .ok () w'
  absent : (u.manager m).registry.find? id = none
  registry : (w'.manager m).registry = (u.manager m).registry.insert id o
  entries : ∀ e, e ∈ (w'.manager m).registry.entries ↔
    e = (id, o) ∨ e ∈ (u.manager m).registry.entries
  usage : (w'.manager m).used = literalUsage w' m
  objects : ∀ p, w'.profile p = u.profile p
  others : ∀ k, k ≠ m → w'.manager k = u.manager k

theorem manager_booked (there : m < w.managers.size) : (booked w m id o).manager m =
    ((w.manager m).setUsed ((w.manager m).used + w.accounted o)).enter id o := by
  unfold booked
  rw [World.updateManager_updateManager, World.manager_updateManager_self _ _ there]

theorem booked_keeps (w : World) (m id : Nat) (o : ObjectRef) :
    (∀ p, (booked w m id o).profile p = w.profile p) ∧
      ∀ k, k ≠ m → (booked w m id o).manager k = w.manager k := by
  unfold booked
  refine ⟨fun p => ?_, fun k other => ?_⟩
  · rw [World.profile_updateManager, World.profile_updateManager]
  · rw [World.manager_updateManager_ne _ _ _ other.symm,
      World.manager_updateManager_ne _ _ _ other.symm]

/-- One more sweep is counted if there was to be one. -/
theorem sweeps_of_roomMade (lawful : Lawful ask) (proper : w.Proper) (made : RoomMade ask m w u) :
    (u.manager m).counters.sweeps =
      (w.manager m).counters.sweeps + if SweepsFirst w m then 1 else 0 := by
  by_cases first : SweepsFirst w m
  · obtain ⟨n, recorded⟩ := lawful.record_complete proper first.due.there
      ((roomMade_of_sweepsFirst first).1 made)
    rw [if_pos first]
    exact congrArg Record.sweeps recorded
  · obtain ⟨u', which, only⟩ := roomMade_of_not first
    obtain rfl := (only ask u).1 made
    rw [if_neg first]
    rcases which with rfl | rfl
    · rfl
    · exact w.updateManager_keeps (q := fun x => x.counters.sweeps) m m fun _ => rfl

/-- An object is booked where room was made. -/
theorem admitted_of_book (lawful : Lawful ask) (proper : w.Proper)
    (absent : (w.manager m).registry.find? id = none) (made : RoomMade ask m w u)
    (there : m < u.managers.size) (absent' : (u.manager m).registry.find? id = none)
    (done : book m id o u = .ok () w') : Admitted ask m id o w u w' := by
  have sweeps : (w'.manager m).counters.sweeps = (u.manager m).counters.sweeps :=
    congrArg Record.sweeps (Manager.record_congr (sweepPart_book done m))
  obtain ⟨-, -, same⟩ := book_iff.1 done
  have healed : Healed m (booked u m id o) w' := same ▸ healed_corrected _ m
  have registry : (w'.manager m).registry = (u.manager m).registry.insert id o := by
    rw [healed.registry, manager_booked there]
    rfl
  obtain ⟨objects, others⟩ := booked_keeps u m id o
  refine ⟨sweeps.trans (sweeps_of_roomMade lawful proper made),
    fun first => sweptWithout_of_complete absent ((roomMade_of_sweepsFirst first).1 made),
    fun not => ?_, absent', registry, fun e => ?_, healed.usage,
    fun p => (healed.objects p).trans (objects p),
    fun k other => (healed.others k other).trans (others k other)⟩
  · obtain ⟨u', which, only⟩ := roomMade_of_not not
    obtain rfl := (only ask u).1 made
    exact ⟨which, fun ask' => register_iff.2 ⟨u, (only ask' u).2 rfl, done⟩⟩
  · rw [registry]
    exact Registry.mem_insert absent'

/-! ## Failures -/

/-- The effect fails with an overflow only, or as an object did that was asked. -/
def FailsByAsking (ask : ObjectRef → Effect Unit) {α : Type} (x : Effect α) : Prop :=
  ∀ w e v, x w = .error e v → (∃ f, e = .overflow f) ∨ ∃ p u, ask p u = .error e v

section Failures

variable {α β : Type} {x : Effect α} {f : α → Effect β}

theorem FailsByAsking.bind (h : FailsByAsking ask x) (hf : ∀ a, FailsByAsking ask (f a)) :
    FailsByAsking ask (x >>= f) := by
  intro w e v failed
  rcases error_of_bind failed with first | ⟨a, u, -, second⟩
  · exact h w e v first
  · exact hf a u e v second

theorem failsByAsking_get : FailsByAsking ask (get : Effect World) :=
  fun _ _ _ failed => nomatch failed

theorem failsByAsking_change (g : World → World) : FailsByAsking ask (change g) :=
  fun _ _ _ failed => nomatch failed

theorem failsByAsking_ofExcept (r : Except Overflow α) : FailsByAsking ask (ofExcept r) := by
  intro w e v failed
  cases r with
  | ok a => cases failed
  | error f =>
    cases failed
    exact .inl ⟨f, rfl⟩

theorem failsByAsking_reconcile : FailsByAsking ask (reconcile m) :=
  failsByAsking_get.bind fun _ => (failsByAsking_ofExcept _).bind fun _ => failsByAsking_change _

theorem failsByAsking_book : FailsByAsking ask (book m id o) :=
  failsByAsking_get.bind fun _ =>
    (failsByAsking_get.bind fun _ =>
      (failsByAsking_ofExcept _).bind fun _ => failsByAsking_change _).bind fun _ =>
    (failsByAsking_change _).bind fun _ => failsByAsking_reconcile

theorem failsByAsking_walk (target : Int) (entries : List (Nat × ObjectRef)) :
    FailsByAsking ask (walk ask m target entries) := by
  intro w e v failed
  have going := walk_going ask m target entries w
  rw [failed] at going
  cases going with
  | halted course next above called halts => exact .inr ⟨_, _, halts⟩

theorem failsByAsking_complete : FailsByAsking ask (complete ask m) :=
  (failsByAsking_change _).bind fun _ => failsByAsking_get.bind fun _ =>
    (failsByAsking_walk _ _).bind fun _ =>
      failsByAsking_reconcile.bind fun _ => failsByAsking_change _

theorem failsByAsking_attempt : FailsByAsking ask (attempt ask m) := by
  intro w e v failed
  by_cases due : Due w m
  · cases busy : (w.manager m).reducing with
    | true => cases (attempt_of_busy ask due busy).symm.trans failed
    | false =>
      rw [attempt_of_idle ask due busy] at failed
      exact failsByAsking_complete w e v failed
  · cases (attempt_of_not_due ask due).symm.trans failed

theorem failsByAsking_register : FailsByAsking ask (register ask m id o) := by
  intro w e v failed
  by_cases above : (w.manager m).config.memoryLimit < (w.manager m).used
  · rw [register_of_above above] at failed
    exact (failsByAsking_attempt.bind fun _ => failsByAsking_book) w e v failed
  · rw [register_of_below above] at failed
    exact failsByAsking_book w e v failed

end Failures

/-! ## The result -/

/-- Registering makes room first, and never at the expense of the new object. In every state of
every run in which an id was handed out for an object and waits: whatever runs until the object is
booked finds the id unregistered and can unregister nothing under it. A registration that returns
has run one sweep exactly if swapping is enabled, the usage is above the limit and no sweep is
running, a sweep that does not come to the id; then it has entered the object under its id next to
what this has left in the registry, and the count is the sum over it. It fails to return only with
an overflow or where an object fails that it asks. -/
theorem registrations_make_room_first
    (reached : Reached environment acts ⟨.entering m id o :: s, w⟩) (follows : Follows ask) :
    ((∀ a ∈ acts, ∀ p, a ≠ .halt p) → ((w.manager m).reducing = true ↔ m ∈ swept s)) ∧
    (∀ acts' d, Path (.entering m id o :: s) ⟨.entering m id o :: s, w⟩ acts' d →
      (d.world.manager m).registry.find? id = none ∧ unregister m id d.world = .ok () d.world) ∧
    (∀ w', register ask m id o w = .ok () w' →
      ∃ u, RoomMade ask m w u ∧ Admitted ask m id o w u w') ∧
    ∀ e w', register ask m id o w = .error e w' →
      (∃ f, e = .overflow f) ∨ ∃ p u, ask p u = .error e w' := by
  have proper : w.Proper := (Path.grows reached).proper (proper_start environment)
  refine ⟨fun runs => (reached.nested runs).flag m,
    fun acts' d => reached.unregistered_while_waiting List.mem_cons_self, fun w' done => ?_,
    failsByAsking_register w⟩
  obtain ⟨u, made, booked⟩ := register_iff.1 done
  -- the id waits before room is made and after it, and what waits is free
  obtain ⟨acts', path⟩ : ∃ acts, Path (home s) ⟨.entering m id o :: s, w⟩ acts
      ⟨.entering m id o :: s, u⟩ := follows.roomMade proper made
  obtain ⟨-, absent⟩ := reached.free List.mem_cons_self
  obtain ⟨there, absent'⟩ :=
    Reached.free (reached.trans (path.lower List.nil_suffix)) List.mem_cons_self
  exact ⟨u, made, admitted_of_book follows.lawful proper absent made there absent' booked⟩

/-- Scripted objects unregister an id instead of swapping out. -/
def askToUnregister (m id : Nat) : ObjectRef → Effect Unit
  | .graphic g => do let _ ← Swapping.swapOut g
  | .scripted _ => unregister m id

theorem follows_askToUnregister (m id : Nat) : Follows (askToUnregister m id) where
  graphic _ := rfl
  scripted free _ := lands_op (o := .unregister m id) free trivial

/-- Above the limit an object is asked to make room for another one; it stays where it is and tries
to unregister the other, which is registered nevertheless, far above the limit. -/
theorem unwelcome_object_is_registered :
    ∃ acts w w', Reached [] acts ⟨[.entering 0 2 (.scripted 1)], w⟩ ∧ SweepsFirst w 0 ∧
      register (askToUnregister 0 2) 0 2 (.scripted 1) w = .ok () w' ∧
      (w'.manager 0).counters.sweeps = 1 ∧
      (2, .scripted 1) ∈ (w'.manager 0).registry.entries ∧
      (w'.manager 0).used = literalUsage w' 0 ∧ (w'.manager 0).used = 500000 := by
  have managed := (reached_start []).next
    (.op (o := .addManager { Config.builtIn with memoryLimit := 1000 } false) rfl trivial rfl)
  have arranged := managed.next
    (.op (o := .arrange (bulks [200000, 300000])) rfl (rearranged_bulks _ _) rfl)
  have first := (arranged.next (.enlist (m := 0) (o := 0) rfl (by decide) rfl)).next (.settle rfl)
  have later := first.next (.op (o := .advance (.ofSeconds 20)) rfl trivial rfl)
  have waits := later.next (.enlist (m := 0) (o := 1) rfl (by decide) rfl)
  obtain ⟨-, -, returns, -⟩ := registrations_make_room_first waits (follows_askToUnregister 0 2)
  obtain ⟨u, -, admitted⟩ := returns _ rfl
  exact ⟨_, _, _, waits, by decide, rfl, admitted.sweeps, (admitted.entries _).2 (.inl rfl),
    admitted.usage, rfl⟩

end GraphicCache.Run
