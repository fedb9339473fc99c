/-
Headroom. As long as the live graphics of each manager, and what an operation is about to bring into
memory, do not occupy more bytes than the largest amount, no sum or difference of the accounts leaves
the range of amounts: programs that leave the accounts to the library, and register graphics only,
never see a manager or a graphic halt.

The count of a manager is the sum of what its registered graphics have in memory, so it is never
negative, and never more than the live graphics have. That holds before each single addition and
subtraction, and what these come to is between the two.
-/
import GraphicCache.Proofs.Run.Exactness
import GraphicCache.Proofs.Run.History
import GraphicCache.Proofs.Run.Refusal
import GraphicCache.Proofs.Run.Sites

namespace GraphicCache

open Effect Accounting

theorem Amount.fits_of_le {n : Int} (least : 0 ≤ n) (most : n ≤ greatest) : fits n = true :=
  fits_iff.2 ⟨Int.le_trans (by decide) least, most⟩

/-- The bytes that come into memory when a graphic is read: none if it is there, or cannot be
brought back. -/
def Graphic.incoming (x : Graphic) : Nat :=
  if x.swappedOut then
    match x.recover x.id with
    | .ok p => p.size
    | .error _ => 0
  else 0

theorem Graphic.incoming_of_restore {x : Graphic} {content : Content} {restored : Nat}
    {now : Moment} (back : x.restore x.id now = .ok (some (content, restored))) :
    x.incoming = restored := by
  obtain ⟨p, out, recovered, rfl, -⟩ := Content.restore_ok back
  unfold incoming
  rw [if_pos out, recovered]

namespace Run

variable {environment : Names String} {past : List Taken} {t : Taken} {c d : State} {a : Action}
  {s : List Call} {w v w' : World} {m k g id : Nat} {ask : ObjectRef → Effect Unit}

/-! ## Counts in range -/

/-- No count is beyond the range. -/
def Bounded (w : World) : Prop := ∀ m, (w.manager m).used ≤ Amount.greatest

/-- The counts are exact and within the range, and all registered objects are graphics. -/
structure Solvent (w : World) : Prop where
  exact : ∀ m, (w.manager m).used = total w m
  graphics : ∀ m, ∀ e ∈ (w.manager m).registry.entries, ∃ g, e.2 = .graphic g
  bounded : Bounded w

theorem InBalance.solvent (h : InBalance w) (bounded : Bounded w) : Solvent w where
  exact m := (h.exact m).1
  graphics _ _ listed := by
    obtain ⟨g, object, -⟩ := h.sound.listed listed
    exact ⟨g, object⟩
  bounded := bounded

namespace Solvent

variable (h : Solvent w)

include h

theorem contribution_nonneg {n : Int} (among : n ∈ contributions w m) : 0 ≤ n := by
  obtain ⟨e, listed, rfl⟩ := List.mem_map.1 among
  obtain ⟨g, object⟩ := h.graphics m e listed
  rw [object]
  exact accounted_graphic_nonneg w g

theorem used_nonneg (m : Nat) : 0 ≤ (w.manager m).used := by
  rw [h.exact]
  exact List.sum_nonneg fun n => h.contribution_nonneg

/-- What an entry adds is part of the count. -/
theorem accounted_le {o : ObjectRef} (listed : (id, o) ∈ (w.manager m).registry.entries) :
    0 ≤ w.accounted o ∧ w.accounted o ≤ (w.manager m).used := by
  have among : w.accounted o ∈ contributions w m := List.mem_map.2 ⟨_, listed, rfl⟩
  rw [h.exact]
  exact ⟨h.contribution_nonneg among,
    List.single_le_sum (fun n => h.contribution_nonneg) _ among⟩

/-- No sum on the way through the registry leaves the range. -/
theorem inRange (m : Nat) : InRange w m := by
  intro n
  have first : ((contributions w m).take n).Sublist (contributions w m) := List.take_sublist _ _
  refine Amount.fits_of_le (List.sum_nonneg fun x among => ?_) ?_
  · exact h.contribution_nonneg (first.subset among)
  · have all : ((contributions w m).take n).sum ≤ (w.manager m).used :=
      h.exact m ▸ first.sum_le_sum fun x => h.contribution_nonneg
    exact Int.le_trans all (h.bounded m)

theorem reconcile (m : Nat) : ∃ w', Accounting.reconcile m w = .ok () w' :=
  ⟨_, reconcile_iff.2 ⟨h.inRange m, rfl⟩⟩

theorem sum_contributions (m : Nat) :
    Amount.sum (contributions w m) = .ok (w.manager m).used :=
  Amount.sum_eq_ok.2 ⟨h.inRange m, h.exact m⟩

/-- An entry takes with it what it has added. -/
theorem unregister (m id : Nat) : ∃ w', Accounting.unregister m id w = .ok () w' := by
  cases found : (w.manager m).registry.find? id with
  | none => exact ⟨w, unregister_of_absent found⟩
  | some o =>
    obtain ⟨least, most⟩ := h.accounted_le (Registry.find?_eq_some.1 found)
    have used : ((w.updateManager m (·.forget id)).manager m).used = (w.manager m).used :=
      w.updateManager_keeps m m fun _ => rfl
    have fits : Amount.fits (((w.updateManager m (·.forget id)).manager m).used - w.accounted o) =
        true := by
      have bounded := h.bounded m
      rw [used]
      exact Amount.fits_of_le (by omega) (by omega)
    rw [unregister_of_found found]
    exact ⟨_, debit_of_fits fits⟩

theorem release (handle : Handle) : ∃ w', Handling.release handle w = .ok () w' := by
  cases handle with
  | graphic g =>
    rw [Handling.release_graphic]
    split
    · exact ⟨w, rfl⟩
    · exact h.unregister _ _
  | registration m id => exact h.unregister m id

/-- Handles have no part in the counts. -/
theorem hands (handles : Names Handle) (held : List Nat) (ids : Names Nat) :
    Solvent { w with handles := handles, held := held, ids := ids } :=
  ⟨h.exact, h.graphics, h.bounded⟩

theorem letGo (g : Nat) : ∃ w', Handling.letGo g w = .ok () w' :=
  (h.hands w.handles (w.held.erase g) w.ids).release (.graphic g)

theorem bind (name : String) (handle : Handle) (id : Nat) :
    ∃ w', Handling.bind name handle id w = .ok () w' := by
  rw [Handling.bind_eq]
  cases w.handles.get? name with
  | none => exact ⟨_, rfl⟩
  | some old => exact (h.hands (w.handles.put name handle) w.held (w.ids.put name id)).release old

theorem drop (name : String) : ∃ r w', Handling.drop name w = .ok r w' := by
  rw [Handling.drop_eq]
  cases w.handles.get? name with
  | none => exact ⟨_, _, rfl⟩
  | some old =>
    obtain ⟨v, released⟩ := (h.hands (w.handles.erase name) w.held w.ids).release old
    exact ⟨_, _, bind_of_ok released⟩

end Solvent

/-! ## Operations on graphics -/

/-- Sizes and counts have not grown, and the books are as before. -/
structure Lightened (w w' : World) : Prop extends Level w w' where
  used : ∀ m, (w'.manager m).used ≤ (w.manager m).used
  sizes : ∀ g, (w'.graphic g).size ≤ (w.graphic g).size

theorem InBalance.unburdened (h : InBalance w) : Lightened w w :=
  ⟨h.refl, fun _ => Int.le_refl _, fun _ => Nat.le_refl _⟩

theorem Lightened.trans (first : Lightened w v) (second : Lightened v w') : Lightened w w' where
  toLevel := first.toLevel.trans second.toLevel
  used m := Int.le_trans (second.used m) (first.used m)
  sizes g := Nat.le_trans (second.sizes g) (first.sizes g)

theorem Lightened.bounded (h : Lightened w w') (bounded : Bounded w) : Bounded w' :=
  fun m => Int.le_trans (h.used m) (bounded m)

/-- A count can rise by some bytes. -/
def RoomFor (w : World) (m bytes : Nat) : Prop := (w.manager m).used + bytes ≤ Amount.greatest

/-- Then it does. -/
theorem credit_completes {bytes : Nat} (least : 0 ≤ (w.manager m).used)
    (room : RoomFor w m bytes) : ∃ w', Accounting.credit m bytes w = .ok () w' :=
  ⟨_, credit_of_fits (Amount.fits_of_le (by omega) room)⟩

section Operations

variable (h : InBalance w) (bounded : Bounded w)

include h bounded

/-- The size of a registered graphic is part of the count of its manager. -/
theorem InBalance.size_le (registered : (skeleton w).Registered g) :
    ((w.graphic g).size : Int) ≤ (w.manager (w.graphic g).manager).used :=
  accounted_graphic w g ▸ ((h.solvent bounded).accounted_le registered.2).2

theorem InBalance.swapOut_completes (registered : (skeleton w).Registered g) :
    ∃ r w', Swapping.swapOut g w = .ok r w' ∧ Lightened w w' := by
  by_cases yields : Swapping.Yields w g
  · have part := h.size_le bounded registered
    have most := bounded (w.graphic g).manager
    have less : Swapping.usedWithout w g ≤ (w.manager (w.graphic g).manager).used := by
      unfold Swapping.usedWithout
      omega
    have fits : Amount.fits (Swapping.usedWithout w g) = true := by
      unfold Swapping.usedWithout at less ⊢
      exact Amount.fits_of_le (by omega) (by omega)
    have out := Swapping.swapOut_of_fits yields fits
    refine ⟨_, _, out, h.swapOut registered out, fun m => ?_, fun k => ?_⟩
    · unfold Swapping.takenOut
      rw [World.manager_updateManager]
      split
      · next own =>
        obtain rfl := own.1
        exact less
      · exact Int.le_refl _
    · rw [Sweep.graphic_takenOut]
      split
      · next same =>
        have out : (w.graphic k).stowed.swappedOut = true := rfl
        exact Content.size_eq_zero_of_out out ▸ Nat.zero_le _
      · exact Nat.le_refl _
  · exact ⟨_, w, Swapping.swapOut_of_not_yields yields, h.unburdened⟩

theorem InBalance.swapIn_completes (room : RoomFor w (w.graphic g).manager (w.graphic g).incoming) :
    ∃ r w', Swapping.swapIn g w = .ok r w' := by
  rcases Swapping.swapIn_cases g w with ⟨fault, -, stays⟩ | ⟨-, stays⟩ |
    ⟨content, restored, back, moves⟩
  · exact ⟨_, _, stays⟩
  · exact ⟨_, _, stays⟩
  · rw [Graphic.incoming_of_restore back] at room
    -- the content comes back before it is counted
    obtain ⟨w', credited⟩ := credit_completes (w := w.setContent g content)
      ((h.solvent bounded).used_nonneg _) room
    rw [moves]
    exact ⟨_, _, bind_of_ok credited⟩

theorem InBalance.fetch_completes (registered : (skeleton w).Registered g)
    (room : RoomFor w (w.graphic g).manager (w.graphic g).incoming) :
    ∃ r w', Swapping.fetch g w = .ok r w' := by
  have used := h.setLastUsed g w.now
  have same : (w.updateGraphic g fun x => { x with lastUsed := w.now }).graphic g =
      { w.graphic g with lastUsed := w.now } := w.graphic_updateGraphic_self g registered.1
  obtain ⟨r, v, swapped⟩ := used.balance.swapIn_completes (g := g) bounded (by rw [same]; exact room)
  rw [Swapping.fetch_apply, bind_of_ok swapped]
  cases r with
  | error fault => exact ⟨_, _, rfl⟩
  | ok restored =>
    dsimp only
    rw [get_bind_apply]
    cases (v.graphic g).payload <;> exact ⟨_, _, rfl⟩

theorem InBalance.enter_completes (registered : (skeleton w).Registered g)
    (room : RoomFor w (w.graphic g).manager (w.graphic g).incoming) :
    ∃ v r w', Swapping.beginOperation g w = .ok () v ∧ Swapping.fetch g v = .ok r w' := by
  have begun := h.operations g (· + 1)
  have same : (w.updateGraphic g fun x => { x with operations := x.operations + 1 }).graphic g =
      { w.graphic g with operations := (w.graphic g).operations + 1 } :=
    w.graphic_updateGraphic_self g registered.1
  obtain ⟨r, w', fetched⟩ := begun.balance.fetch_completes (g := g) bounded
    (begun.same ▸ registered) (by rw [same]; exact room)
  exact ⟨_, r, w', rfl, fetched⟩

theorem InBalance.peek_completes (registered : (skeleton w).Registered g)
    (room : RoomFor w (w.graphic g).manager (w.graphic g).incoming) :
    ∃ r w', Swapping.use g pure w = .ok r w' := by
  obtain ⟨v, r, w', begun, fetched⟩ := h.enter_completes bounded registered room
  cases r with
  | error fault => exact ⟨_, _, Swapping.use_of_fault begun fetched⟩
  | ok p => exact ⟨_, _, Swapping.use_of_fetched begun fetched⟩

/-- The difference between the sizes is an amount, and so is the count after it was added. -/
theorem InBalance.replace_completes (registered : (skeleton w).Registered g) {p : Payload}
    (room : RoomFor w (w.graphic g).manager p.size) :
    ∃ w', Swapping.replace g p w = .ok () w' := by
  unfold RoomFor at room
  have part := h.size_le bounded registered
  have difference : Amount.sub p.size (w.graphic g).size = .ok (p.size - (w.graphic g).size) := by
    refine Amount.sub_eq_ok.2 ⟨Amount.fits_iff.2 ⟨?_, by omega⟩, rfl⟩
    unfold Amount.least
    unfold Amount.greatest at room
    omega
  have fits : Amount.fits ((w.manager (w.graphic g).manager).used +
      ((p.size : Int) - (w.graphic g).size)) = true := Amount.fits_of_le (by omega) (by omega)
  rw [replace_apply registered, difference]
  exact ⟨_, credit_of_fits fits⟩

/-- A graphic that was made is booked. -/
theorem InBalance.book_completes (known : (skeleton w).Known g m id)
    (absent : (w.manager m).registry.find? id = none) (room : RoomFor w m (w.graphic g).size) :
    ∃ w', Accounting.book m id (.graphic g) w = .ok () w' := by
  have least := (h.solvent bounded).used_nonneg m
  have there : m < w.managers.size := by
    obtain ⟨made, -, rfl⟩ := known
    exact h.sound.owned made
  have bounded' : Bounded (Accounting.booked w m id (.graphic g)) := by
    intro k
    have entered : ((Accounting.booked w m id (.graphic g)).manager k).used =
        ((w.updateManager m (·.setUsed ((w.manager m).used + (w.graphic g).size))).manager k).used :=
      accounted_graphic w g ▸ World.updateManager_keeps (q := Manager.used) _ m k fun _ => rfl
    rw [entered, World.manager_updateManager]
    split
    · exact room
    · exact bounded k
  have sums := ((h.booked known absent).1.solvent bounded').inRange m
  have fits : Amount.fits ((w.manager m).used + w.accounted (.graphic g)) = true := by
    rw [accounted_graphic]
    exact Amount.fits_of_le (by omega) room
  exact ⟨_, book_iff.2 ⟨fits, sums, rfl⟩⟩

/-! ## Sweeps -/

theorem InBalance.finish_completes (m n : Nat) :
    ∃ w', Sweep.finish m n w = .ok () w' ∧ Lightened w w' := by
  obtain ⟨v, done⟩ := Sweep.finish_of_inRange ((h.solvent bounded).inRange m) n
  refine ⟨v, done, h.finish done, fun k => ?_, fun k => ?_⟩
  · obtain ⟨_, v', reconciled, counted⟩ := ok_of_bind done
    obtain rfl := h.exact.reconcile reconciled
    cases counted
    exact Int.le_of_eq (World.updateManager_keeps (q := Manager.used) _ m k fun _ => rfl)
  · have graphic : v.graphic k = w.graphic k := by
      unfold World.graphic
      rw [(Sweep.recounted_finish done).graphics]
    rw [graphic]

omit h bounded in
/-- A walk over graphics comes to its end. -/
theorem InBalance.walk_completes (plain : Sweep.Plain ask) (m : Nat) (target : Int)
    {entries : List (Nat × ObjectRef)} (h : InBalance w) (bounded : Bounded w)
    (known : ∀ e ∈ entries, ∃ g, e.2 = .graphic g ∧ (skeleton w).Known g m e.1) :
    ∃ visits w', Sweep.walk ask m target entries w = .ok visits w' ∧ Lightened w w' := by
  induction entries generalizing w with
  | nil => exact ⟨_, w, rfl, h.unburdened⟩
  | cons e rest ih =>
    obtain ⟨id, o⟩ := e
    obtain ⟨⟨g, object, known⟩, others⟩ := List.forall_mem_cons.1 known
    obtain rfl : o = .graphic g := object
    -- what is left of the walk, after an entry
    have goes (visit : World → Sweep.Visit) {v : World} (light : Lightened w v) :
        ∃ visits w', ((do return visit v :: (← Sweep.walk ask m target rest) :
          Effect (List Sweep.Visit)) v) = .ok visits w' ∧ Lightened w w' := by
      obtain ⟨visits, w', walked, light'⟩ := ih light.balance (light.bounded bounded)
        (light.same ▸ others)
      exact ⟨_, _, bind_of_ok walked, light.trans light'⟩
    unfold Sweep.walk
    rw [get_bind_apply]
    split
    · exact ⟨_, w, rfl, h.unburdened⟩
    · split
      · exact goes (fun _ => _) h.unburdened
      · next contained =>
        have contained : (w.manager m).registry.contains id = true := by simpa using contained
        have registered : (skeleton w).Registered g :=
          h.sound.registered_of_contains known contained
        cases decision : (w.profile (.graphic g)).decide (w.manager m).config w.now with
        | evict =>
          obtain ⟨r, v, out, light⟩ := h.swapOut_completes bounded registered
          have asked : ask (.graphic g) w = .ok () v := by
            rw [plain g]
            exact bind_of_ok out
          dsimp only
          rw [bind_of_ok asked, get_bind_apply]
          exact goes (fun v => .asked id (v.profile (.graphic g)).swappedOut) light
        | alreadySwappedOut | tooSmall | activeOperation | recentlyUsed =>
          exact goes (fun _ => _) h.unburdened

omit h bounded in
/-- So does a sweep. -/
theorem InBalance.attempt_completes (plain : Sweep.Plain ask) (h : InBalance w)
    (bounded : Bounded w) (m : Nat) :
    ∃ w', Sweep.attempt ask m w = .ok () w' ∧ Lightened w w' := by
  by_cases due : Due w m
  · cases reducing : (w.manager m).reducing with
    | true =>
      refine ⟨_, Sweep.attempt_of_busy ask due reducing,
        h.updateManager m (fun _ => ⟨rfl, rfl⟩) fun _ => ⟨rfl, rfl⟩, fun k => ?_, fun _ => ?_⟩
      · exact Int.le_of_eq (w.updateManager_keeps (q := Manager.used) m k fun _ => rfl)
      · exact Nat.le_refl _
    | false =>
      have begun : Lightened w (w.updateManager m Manager.beginSweep) :=
        ⟨h.updateManager m (fun _ => ⟨rfl, rfl⟩) fun _ => ⟨rfl, rfl⟩,
          fun k => Int.le_of_eq (w.updateManager_keeps (q := Manager.used) m k fun _ => rfl),
          fun _ => Nat.le_refl _⟩
      have known : ∀ e ∈ (w.manager m).registry.entries, ∃ g, e.2 = .graphic g ∧
          (skeleton (w.updateManager m Manager.beginSweep)).Known g m e.1 := by
        rw [begun.same]
        exact fun e listed => h.sound.listed listed
      obtain ⟨visits, v, walked, light⟩ := begun.balance.walk_completes plain m
        (w.manager m).config.target (begun.bounded bounded) known
      have light := begun.trans light
      obtain ⟨w', finished, light'⟩ := light.balance.finish_completes (light.bounded bounded) m
        (visits.countP Sweep.Visit.isEviction)
      rw [Sweep.attempt_of_idle ask due reducing, Sweep.complete_apply, bind_of_ok walked]
      exact ⟨w', finished, light.trans light'⟩
  · exact ⟨w, Sweep.attempt_of_not_due ask due, h.unburdened⟩

/-- A graphic is made and registered, after a sweep if the manager is above its limit. -/
theorem InBalance.make_completes (plain : Sweep.Plain ask) (there : m < w.managers.size)
    {content : Content} (room : RoomFor w m content.size) :
    ∃ g w', Swapping.make ask m content w = .ok g w' := by
  cases made : Swapping.create m content w with
  | error e v => cases made
  | ok r v =>
  obtain ⟨id, g⟩ := r
  have settled := h.create there made
  obtain ⟨same, new, next⟩ := skeleton_create there made
  obtain ⟨-, graphic, -⟩ := Swapping.graphic_of_create made
  have used (k : Nat) : (v.manager k).used = (w.manager k).used := by
    obtain ⟨-, -, rfl⟩ := Swapping.create_ok made
    exact w.updateManager_keeps (q := Manager.used) m k fun _ => rfl
  have bounded' : Bounded v := fun k => used k ▸ bounded k
  have known : (skeleton v).Known g m id := by
    rw [same, new, next]
    exact Skeleton.known_addGraphic _ m
  have absent : (v.manager m).registry.find? id = none := by
    have absent := h.sound.find?_nextId m
    rw [← next] at absent
    exact settled.evolves.absent absent
  -- a sweep before the booking leaves at least as much room
  have books {x : World} (light : Lightened v x) :
      ∃ w', Accounting.book m id (.graphic g) x = .ok () w' := by
    have less := light.used m
    have small := light.sizes g
    rw [used] at less
    rw [graphic] at small
    unfold RoomFor at room
    refine light.balance.book_completes (light.bounded bounded') (light.same ▸ known) ?_ ?_
    · have absent : ((skeleton v).registry m).find? id = none := absent
      rw [← light.same] at absent
      exact absent
    · unfold RoomFor
      have small : (x.graphic g).size ≤ content.size := small
      omega
  have registers : ∃ w', Sweep.register ask m id (.graphic g) v = .ok () w' := by
    by_cases above : (v.manager m).config.memoryLimit < (v.manager m).used
    · obtain ⟨x, swept, light⟩ := settled.balance.attempt_completes plain bounded' m
      obtain ⟨w', done⟩ := books light
      rw [register_of_above above, bind_of_ok swept]
      exact ⟨w', done⟩
    · rw [register_of_below above]
      exact books settled.balance.unburdened
  obtain ⟨w', registered⟩ := registers
  unfold Swapping.make
  rw [bind_of_ok made]
  exact ⟨g, w', bind_of_ok registered⟩

end Operations

/-! ## Operations of programs -/

/-- The bytes that an operation is about to bring into memory. -/
def Op.brings (w : World) : Op → Nat
  | .swapIn g | .peek g => (w.graphic g).incoming
  | .replace _ p => p.size
  | _ => 0

theorem guard_completes (g : Nat) (guard : String) (w : World) :
    ∃ r w', Script.beginOperation guard g w = .ok r w' := by
  unfold Script.beginOperation Swapping.beginOperation
  rw [change_bind_apply, get_bind_apply, change_bind_apply]
  generalize w.updateGraphic g (fun x => { x with operations := x.operations + 1 }) = v
  cases v.guards.get? guard <;> exact ⟨_, _, rfl⟩

theorem unguard_completes (guard : String) (w : World) :
    ∃ r w', Script.endOperation guard w = .ok r w' := by
  unfold Script.endOperation
  rw [get_bind_apply]
  cases w.guards.get? guard <;> exact ⟨_, _, rfl⟩

theorem changeFile_completes (g : Nat) (f : SwapFile → SwapFile) (w : World) :
    ∃ r w', Script.changeFile g f w = .ok r w' := by
  unfold Script.changeFile Script.withFile
  rw [get_bind_apply]
  cases (w.graphic g).swapFile? <;> exact ⟨_, _, rfl⟩

/-- An operation that leaves accounts to the library comes to its end, if there is room for what it
brings. -/
theorem InBalance.op_completes (h : InBalance w) (bounded : Bounded w) {o : Op} (plain : o.Plain)
    (ready : o.Ready w) (room : ∀ m ∈ o.sites w, RoomFor w m (o.brings w)) :
    ∃ w', o.effect w = .ok () w' := by
  have solvent := h.solvent bounded
  cases o with
  | swapOut g =>
    obtain ⟨r, w', done, -⟩ := h.swapOut_completes bounded (h.sound.held ready)
    exact ⟨w', bind_of_ok done⟩
  | swapIn g =>
    obtain ⟨r, w', done⟩ := h.swapIn_completes bounded (room _ List.mem_cons_self)
    exact ⟨w', bind_of_ok done⟩
  | peek g =>
    obtain ⟨r, w', done⟩ :=
      h.peek_completes bounded (h.sound.held ready) (room _ List.mem_cons_self)
    exact ⟨w', bind_of_ok done⟩
  | replace g p =>
    exact h.replace_completes bounded (h.sound.held ready.1) (room _ List.mem_cons_self)
  | beginOperation g guard =>
    obtain ⟨r, w', done⟩ := guard_completes g guard w
    exact ⟨w', bind_of_ok done⟩
  | endOperation guard =>
    obtain ⟨r, w', done⟩ := unguard_completes guard w
    exact ⟨w', bind_of_ok done⟩
  | alterFile g f =>
    obtain ⟨r, w', done⟩ := changeFile_completes g f w
    exact ⟨w', bind_of_ok done⟩
  | letGo g => exact solvent.letGo g
  | bind name handle id => exact solvent.bind name handle id
  | drop name =>
    obtain ⟨r, w', done⟩ := solvent.drop name
    exact ⟨w', bind_of_ok done⟩
  | audit m =>
    obtain ⟨v, reconciled⟩ := solvent.reconcile m
    exact ⟨v, bind_of_ok (bind_of_ok reconciled)⟩
  | unregister | announceIn | announceOut | announceResize => exact plain.elim
  | noticeIn m size | noticeOut m size =>
    -- a notice needs the handle of a registration, and there are handles of graphics only
    obtain ⟨name, id, handle⟩ := ready
    obtain ⟨g, other⟩ := h.sound.handles _ handle
    cases other
  | setLastUsed | hold | addManager | setTimer | advance | arrange => exact ⟨_, rfl⟩

/-! ## Bytes of live graphics -/

/-- A graphic is live if it has a handle, or is registered, or waits to be booked. -/
def Live (c : State) (g : Nat) : Prop :=
  c.world.isHeld g = true ∨
    ((c.world.graphic g).id, ObjectRef.graphic g) ∈
      (c.world.manager (c.world.graphic g).manager).registry.entries ∨
    .graphic g ∈ c.calls.filterMap Call.enters?

instance decidableLive (c : State) (g : Nat) : Decidable (Live c g) :=
  inferInstanceAs (Decidable (_ ∨ _ ∨ _))

/-- The live graphics of a manager. -/
def liveGraphics (c : State) (m : Nat) : List Nat :=
  (List.range c.world.graphics.size).filter fun g => (c.world.graphic g).manager = m ∧ Live c g

/-- The bytes that the live graphics of a manager have in memory. -/
def liveBytes (c : State) (m : Nat) : Int := Sweep.occupied c.world (liveGraphics c m)

theorem mem_liveGraphics :
    g ∈ liveGraphics c m ↔ g < c.world.graphics.size ∧ (c.world.graphic g).manager = m ∧ Live c g := by
  simp [liveGraphics]

/-- Live graphics of a manager, each taken once, do not add up to more than all of them. -/
theorem sum_le_liveBytes {os : List ObjectRef} (once : os.Nodup)
    (live : ∀ o ∈ os, ∃ g, o = .graphic g ∧ g ∈ liveGraphics c m) :
    (os.map c.world.accounted).sum ≤ liveBytes c m := by
  have subset : os ⊆ (liveGraphics c m).map ObjectRef.graphic := by
    intro o among
    obtain ⟨g, rfl, listed⟩ := live o among
    exact List.mem_map_of_mem listed
  obtain ⟨os', perm, sublist⟩ := List.subperm_of_subset once subset
  unfold liveBytes
  rw [occupied_eq, ← (perm.map c.world.accounted).sum_eq]
  refine (sublist.map _).sum_le_sum fun n among => ?_
  obtain ⟨o, object, rfl⟩ := List.mem_map.1 among
  obtain ⟨g, -, rfl⟩ := List.mem_map.1 object
  exact accounted_graphic_nonneg c.world g

/-- What is registered with a manager is one live graphic each. -/
theorem Balanced.listed (h : Balanced c) (m : Nat) :
    ((c.world.manager m).registry.entries.map Prod.snd).Nodup ∧
      ∀ o ∈ (c.world.manager m).registry.entries.map Prod.snd,
        ∃ g, o = .graphic g ∧ g ∈ liveGraphics c m := by
  refine ⟨List.Nodup.map_on (fun e listed e' listed' same => ?_)
    (List.Nodup.of_map Prod.fst (c.world.manager m).registry.nodup_ids), fun o among => ?_⟩
  · obtain ⟨g, object, -, id, -⟩ := h.world.sound.listed listed
    obtain ⟨g', object', -, id', -⟩ := h.world.sound.listed listed'
    obtain rfl : g = g' := ObjectRef.graphic.inj (object.symm.trans (same.trans object'))
    exact Prod.ext (id.symm.trans id') same
  · obtain ⟨⟨id, o⟩, listed, rfl⟩ := List.mem_map.1 among
    obtain ⟨g, rfl, made, rfl, rfl⟩ := h.world.sound.entries listed
    exact ⟨g, rfl, mem_liveGraphics.2 ⟨made, rfl, .inr (.inl listed)⟩⟩

/-- The count of a manager is no more than its live graphics have in memory. -/
theorem Balanced.used_le (h : Balanced c) (m : Nat) :
    (c.world.manager m).used ≤ liveBytes c m := by
  obtain ⟨once, live⟩ := h.listed m
  have sum := sum_le_liveBytes once live
  rw [List.map_map] at sum
  exact (h.world.exact m).1 ▸ sum

/-- A graphic that waits to be booked is live, too, and not counted yet. -/
theorem Balanced.used_add_le (h : Balanced ⟨.entering m id (.graphic g) :: s, w⟩)
    (known : (skeleton w).Known g m id) (absent : (w.manager m).registry.find? id = none) :
    (w.manager m).used + (w.graphic g).size ≤
      liveBytes ⟨.entering m id (.graphic g) :: s, w⟩ m := by
  obtain ⟨once, live⟩ := h.listed m
  have new : .graphic g ∉ (w.manager m).registry.entries.map Prod.snd := by
    intro among
    obtain ⟨⟨id', o⟩, listed, object⟩ := List.mem_map.1 among
    obtain rfl : o = .graphic g := object
    obtain ⟨g', same, -, id'', -⟩ := h.world.sound.entries listed
    obtain rfl := ObjectRef.graphic.inj same
    obtain rfl : id' = id := id''.symm.trans known.2.1
    exact Registry.find?_eq_none.1 absent _ listed
  have waits : g ∈ liveGraphics ⟨.entering m id (.graphic g) :: s, w⟩ m :=
    mem_liveGraphics.2 ⟨known.1, known.2.2, .inr (.inr List.mem_cons_self)⟩
  have sum := sum_le_liveBytes (List.nodup_cons.2 ⟨new, once⟩)
    (List.forall_mem_cons.2 ⟨⟨g, rfl, waits⟩, live⟩)
  rw [List.map_cons, List.sum_cons, List.map_map, accounted_graphic] at sum
  have exact' : (w.manager m).used =
      (((w.manager m).registry.entries).map (w.accounted ∘ Prod.snd)).sum := (h.world.exact m).1
  show (w.manager m).used + _ ≤ _
  have sum : ((w.graphic g).size : Int) +
      (((w.manager m).registry.entries).map (w.accounted ∘ Prod.snd)).sum ≤ _ := sum
  omega

/-! ## Steps with room -/

/-- The step leaves accounts to the library, and registers no object but graphics. -/
def Action.Plain : Action → Prop
  | .op o | .halt (some o) => o.Plain
  | .enlist _ => False
  | _ => True

/-- The bytes that a step is about to bring into memory. What is made is live from then on. -/
def Taken.brings (t : Taken) : Nat :=
  match t.action with
  | .op o | .halt (some o) => o.brings t.before.world
  | .enter g => (t.before.world.graphic g).incoming
  | _ => 0

/-- The live graphics of all managers have amounts of bytes in memory, also together with what the
step is about to bring. -/
structure Roomy (t : Taken) : Prop where
  live : ∀ m, liveBytes t.before m ≤ Amount.greatest
  more : ∀ m ∈ t.sites, liveBytes t.before m + t.brings ≤ Amount.greatest

/-- The manager or the graphic that is at work comes to its end, whatever is done next: operations
and readings with room for what they bring, what waits in the calls, sweeps, and making graphics. -/
structure Unfailing (c : State) : Prop where
  operations : ∀ o : Op, o.Plain → o.Ready c.world →
    (∀ m ∈ o.sites c.world, liveBytes c m + o.brings c.world ≤ Amount.greatest) →
      ∃ w', o.effect c.world = .ok () w'
  readings : ∀ g, c.world.isHeld g = true →
    liveBytes c (c.world.graphic g).manager + (c.world.graphic g).incoming ≤ Amount.greatest →
      ∃ v r w', Swapping.beginOperation g c.world = .ok () v ∧ Swapping.fetch g v = .ok r w'
  bookings : ∀ m id o s, c.calls = .entering m id o :: s →
    ∃ w', Accounting.book m id o c.world = .ok () w'
  requests : ∀ m target id g rest n s,
    c.calls = .sweeping m target ((id, .graphic g) :: rest) none n :: s →
      Asked c.world m target id (.graphic g) → ∃ r w', Swapping.swapOut g c.world = .ok r w'
  endings : ∀ m n, ∃ w', Sweep.finish m n c.world = .ok () w'
  sweeps : ∀ ask, Sweep.Plain ask → ∀ m, ∃ w', Sweep.attempt ask m c.world = .ok () w'
  makings : ∀ ask, Sweep.Plain ask → ∀ m < c.world.managers.size, ∀ content : Content,
    liveBytes c m + content.size ≤ Amount.greatest →
      ∃ g w', Swapping.make ask m content c.world = .ok g w'

theorem Balanced.unfailing (h : Balanced c) (live : ∀ m, liveBytes c m ≤ Amount.greatest) :
    Unfailing c := by
  have bounded : Bounded c.world := fun m => Int.le_trans (h.used_le m) (live m)
  have roomFor {m bytes : Nat} (room : liveBytes c m + bytes ≤ Amount.greatest) :
      RoomFor c.world m bytes := by
    have used := h.used_le m
    unfold RoomFor
    omega
  refine ⟨fun o plain ready room => ?operations, fun g held room => ?readings,
    fun m id o s calls => ?bookings, fun m target id g rest n s calls asked => ?requests,
    fun m n => ?endings, fun ask plain m => ?sweeps,
    fun ask plain m there content room => ?makings⟩
  case operations =>
    exact h.world.op_completes bounded plain ready fun m site => roomFor (room m site)
  case readings => exact h.world.enter_completes bounded (h.world.sound.held held) (roomFor room)
  case bookings =>
    obtain ⟨calls', w⟩ := c
    obtain rfl : calls' = .entering m id o :: s := calls
    obtain ⟨g, rfl, known, absent⟩ := h.fits _ List.mem_cons_self
    have room := Int.le_trans (h.used_add_le known absent) (live m)
    exact h.world.book_completes bounded known absent room
  case requests =>
    have fits := h.fits (.sweeping m target ((id, .graphic g) :: rest) none n) (by simp [calls])
    obtain ⟨g', same, known⟩ := fits _ List.mem_cons_self
    obtain rfl := ObjectRef.graphic.inj same
    have registered := h.world.sound.registered_of_contains known asked.2.1
    obtain ⟨r, w', out, -⟩ := h.world.swapOut_completes bounded registered
    exact ⟨r, w', out⟩
  case endings =>
    obtain ⟨w', finished, -⟩ := h.world.finish_completes bounded m n
    exact ⟨w', finished⟩
  case sweeps =>
    obtain ⟨w', swept, -⟩ := h.world.attempt_completes plain bounded m
    exact ⟨w', swept⟩
  case makings => exact h.world.make_completes bounded plain there (roomFor room)

/-- An object that the program asked to swap out has halted, and the program goes on. -/
def Taken.IsOwnHalt (t : Taken) : Prop :=
  ∃ o s, t.before.calls = .swappingOut o :: s ∧ t.after = ⟨s, t.before.world⟩

/-- Where a scripted object is swapping out, the program has asked for it. -/
def AskedByProgram : List Call → Prop
  | [] => True
  | .swappingOut _ :: s => atProgram s = true ∧ AskedByProgram s
  | _ :: s => AskedByProgram s

/-- With room, nothing halts but objects that the program asked to swap out. -/
theorem Step.undisturbed_of_room (h : Balanced c) (own : AskedByProgram c.calls) (plain : a.Plain)
    (room : Roomy ⟨c, a, d⟩) (step : Step c a d) :
    Undisturbed a ∨ a = .halt none ∧ Taken.IsOwnHalt ⟨c, a, d⟩ := by
  have unfailing := h.unfailing room.live
  cases step with
  | op => exact .inl plain
  | make | copy | settle | enter | leave | call | answer | sweep | suppress | skip | ask | askScripted
  | look | finish => exact .inl trivial
  | enlist => exact plain.elim
  | opHalts free ready halts =>
    obtain ⟨v, done⟩ := unfailing.operations _ plain ready room.more
    cases done.symm.trans halts
  | settleHalts halts =>
    obtain ⟨v, done⟩ := unfailing.bookings _ _ _ _ rfl
    cases done.symm.trans halts
  | @answerHalts s w o =>
    exact .inr ⟨rfl, o, s, rfl, by rw [home_of_free own.1]⟩
  | askHalts asked halts =>
    obtain ⟨r, v, done⟩ := unfailing.requests _ _ _ _ _ _ _ rfl asked
    cases done.symm.trans halts
  | finishHalts ended halts =>
    obtain ⟨v, done⟩ := unfailing.endings _ _
    cases done.symm.trans halts

/-- Sweeps over graphics do not ask scripted objects. -/
theorem Step.askedByProgram (h : Balanced c) (own : AskedByProgram c.calls) (calm : Undisturbed a)
    (step : Step c a d) : AskedByProgram d.calls := by
  cases step with
  | op | suppress | make | copy | settle | enter | leave | sweep | skip | ask | look | finish =>
    exact own
  | call free => exact ⟨free, own⟩
  | answer => exact own.2
  | askScripted asked =>
    obtain ⟨g, other, -⟩ := h.fits _ List.mem_cons_self _ List.mem_cons_self
    cases other
  | opHalts | settleHalts | answerHalts | askHalts | finishHalts | enlist => exact calm.elim

/-- As long as there is room the world stays in balance. -/
theorem History.balanced (history : History environment past c)
    (plain : ∀ t ∈ past, t.action.Plain) (room : ∀ t ∈ past, Roomy t) :
    Balanced c ∧ AskedByProgram c.calls ∧
      ∀ t ∈ past, ∀ o, t.action = .halt o → o = none ∧ t.IsOwnHalt := by
  induction history with
  | start => exact ⟨balanced_start environment, trivial, by simp⟩
  | @next past c d a history step ih =>
    obtain ⟨plain, last⟩ := List.forall_mem_append.1 plain
    obtain ⟨room, roomy⟩ := List.forall_mem_append.1 room
    obtain ⟨balanced, own, halts⟩ := ih plain room
    have last := last _ (List.mem_singleton.2 rfl)
    have roomy := roomy _ (List.mem_singleton.2 rfl)
    rcases step.undisturbed_of_room balanced own last roomy with calm | ⟨rfl, halted⟩
    · refine ⟨balanced.step calm step, step.askedByProgram balanced own calm,
        List.forall_mem_append.2 ⟨halts, fun t taken o halt => ?_⟩⟩
      obtain rfl := List.mem_singleton.1 taken
      obtain rfl : a = .halt o := halt
      exact calm.elim
    · obtain ⟨o, s, calls, after⟩ := halted
      obtain ⟨calls', w⟩ := c
      obtain rfl : calls' = .swappingOut o :: s := calls
      obtain rfl : d = ⟨s, w⟩ := after
      refine ⟨balanced.pop, own.2, List.forall_mem_append.2 ⟨halts, fun t taken o' halt => ?_⟩⟩
      obtain rfl := List.mem_singleton.1 taken
      exact ⟨(Action.halt.inj halt).symm, o, s, rfl, rfl⟩

/-! ## The result -/

/-- There is room if all graphics together leave it, live or not. -/
theorem liveBytes_le (c : State) (m : Nat) :
    liveBytes c m ≤ Sweep.occupied c.world (List.range c.world.graphics.size) := by
  have fewer : (liveGraphics c m).Sublist (List.range c.world.graphics.size) :=
    List.filter_sublist
  refine (fewer.map _).sum_le_sum fun n among => ?_
  obtain ⟨g, -, rfl⟩ := List.mem_map.1 among
  exact Int.natCast_nonneg _

theorem Roomy.of_all
    (all : Sweep.occupied t.before.world (List.range t.before.world.graphics.size) + t.brings ≤
      Amount.greatest) : Roomy t where
  live m := by
    have less := liveBytes_le t.before m
    omega
  more m _ := by
    have less := liveBytes_le t.before m
    omega

/-- Programs that leave accounts to the library, and register graphics only, meet no overflow as long
as the bytes of the live graphics of each manager, and of what an operation is about to bring into
memory, add up to an amount. Nothing in such a run halts, except for an object that the program asks
to swap out by itself; no sweep is ever cut short. The count of every manager is between zero and
the largest amount, and its objects add up to it without leaving the range. And whatever is done
next comes to its end, too: operations, readings, bookings, sweeps and their ends. -/
theorem graphics_never_overflow (history : History environment past c)
    (plain : ∀ t ∈ past, t.action.Plain) (room : ∀ t ∈ past, Roomy t)
    (live : ∀ m, liveBytes c m ≤ Amount.greatest) :
    (∀ t ∈ past, ∀ o, t.action = .halt o → o = none ∧ t.IsOwnHalt) ∧
      (∀ m, 0 ≤ (c.world.manager m).used ∧ (c.world.manager m).used ≤ Amount.greatest ∧
        Amount.sum (contributions c.world m) = .ok (c.world.manager m).used) ∧
      Unfailing c := by
  obtain ⟨balanced, -, halts⟩ := history.balanced plain room
  have bounded : Bounded c.world := fun m => Int.le_trans (balanced.used_le m) (live m)
  have solvent := balanced.world.solvent bounded
  exact ⟨halts, fun m => ⟨solvent.used_nonneg m, bounded m, solvent.sum_contributions m⟩,
    balanced.unfailing live⟩

/-- A bitmap is swapped out and read: it is counted while it is read, and nothing overflows. -/
theorem bitmap_read_with_headroom :
    ∃ past c, History [] past c ∧ (∀ t ∈ past, t.action.Plain) ∧ (∀ t ∈ past, Roomy t) ∧
      (∀ m, liveBytes c m ≤ Amount.greatest) ∧ c.calls = [.reading 0] ∧
      Amount.sum (contributions c.world 0) = .ok 1 ∧ Unfailing c := by
  have managed := History.next (.start : History [] _ _)
    (.op (o := .addManager .builtIn false) rfl trivial rfl)
  have made := managed.next (.make (m := 0) (o := .payload (.bitmap ⟨1, 1, 8, ⟨#[7]⟩⟩))
    rfl (by decide) (by rintro p ⟨⟩; decide) rfl)
  have settled := made.next (.settle rfl)
  have bound := settled.next (.op (o := .bind "picture" (.graphic 0) 1) rfl (.inr (by decide)) rfl)
  have swapped := bound.next (.op (o := .swapOut 0) rfl rfl rfl)
  have read := swapped.next (.enter (g := 0) rfl rfl rfl rfl)
  refine ⟨_, _, read, ?plain, ?room, ?live, rfl,
    ((graphics_never_overflow read ?plain ?room ?live).2.1 0).2.2,
    (graphics_never_overflow read ?plain ?room ?live).2.2⟩
  case plain =>
    simp only [List.nil_append, List.cons_append, List.forall_mem_cons]
    exact ⟨trivial, trivial, trivial, trivial, trivial, trivial, by simp⟩
  case room =>
    simp only [List.nil_append, List.cons_append, List.forall_mem_cons]
    exact ⟨.of_all (by decide), .of_all (by decide), .of_all (by decide), .of_all (by decide),
      .of_all (by decide), .of_all (by decide), by simp⟩
  case live => exact fun m => Int.le_trans (liveBytes_le _ m) (by decide)

end Run

end GraphicCache
