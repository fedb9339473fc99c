/-
What becomes of the books of a world. A program enters something in the books or takes something out
by a few operations: it takes handles and lets them go, unregisters an id, and makes managers. What
each of these makes of the books is a matter of the books alone, and is the same whether the
operation comes to its end or halts, because amounts come last. Swapping, reading and accounts have
nothing to do with the books. Besides these there is only the making of graphics, the giving of ids,
and the booking of what has waited for it.
-/
import GraphicCache.Proofs.Run.Balance
import GraphicCache.Proofs.Run.Owners

namespace GraphicCache.Run

open Effect Accounting

/-! ## Operations on books -/

namespace Skeleton

variable (s : Skeleton) (m g : Nat)

/-- A handle is gone: its object is taken out, unless it is a graphic with another handle. -/
def release : Handle → Skeleton
  | .graphic g => if s.isHeld g then s else s.forget (s.manager g) (s.id g)
  | .registration m id => s.forget m id

/-- A handle gets a name, and the one that had the name is gone. -/
def bind (name : String) (handle : Handle) : Skeleton :=
  match s.handles.get? name with
  | none => s.regrip (s.handles.put name handle) s.held
  | some old => (s.regrip (s.handles.put name handle) s.held).release old

def drop (name : String) : Skeleton :=
  match s.handles.get? name with
  | none => s
  | some old => (s.regrip (s.handles.erase name) s.held).release old

def letGo : Skeleton := (s.regrip s.handles (s.held.erase g)).release (.graphic g)

def takeId : Skeleton := { s with nextId := Function.update s.nextId m (s.nextId m + 1) }

/-- What is forgotten is the entry of the id with its manager. -/
theorem mem_forget {k id : Nat} {e : Nat × ObjectRef} :
    e ∈ ((s.forget m id).registry k).entries ↔
      e ∈ (s.registry k).entries ∧ ¬ (k = m ∧ e.1 = id) := by
  unfold forget
  dsimp only
  rw [Function.update_apply]
  split
  · next same =>
    subst same
    rw [Registry.mem_erase]
    exact and_congr_right fun _ => not_congr (and_iff_right rfl).symm
  · next other => exact (and_iff_left fun both => other both.1).symm

/-- Nothing comes of forgetting what is not there. -/
theorem forget_of_absent {id : Nat} (absent : (s.registry m).find? id = none) :
    s.forget m id = s := by
  have same : (s.registry m).erase id = s.registry m := by
    unfold Registry.erase
    congr 1
    refine List.filter_eq_self.2 fun e he => ?_
    have other : e.1 ≠ id := by
      rintro rfl
      exact Registry.find?_eq_none.1 absent e.2 he
    simpa using other
  unfold forget
  rw [same, Function.update_eq_self]

end Skeleton

/-- What an operation makes of the books. -/
def Op.books (s : Skeleton) : Op → Skeleton
  | .hold g => s.regrip s.handles (g :: s.held)
  | .letGo g => s.letGo g
  | .bind name handle _ => s.bind name handle
  | .drop name => s.drop name
  | .addManager .. => s.addManager
  | .unregister m id => s.forget m id
  | _ => s

variable {w w' : World} {m g id n : Nat} {bytes : Int} {o : ObjectRef} {s : Skeleton} {c d : State}
  {a : Action}

/-- Letting go of a handle takes out one entry at most. -/
theorem Skeleton.release_cases (s : Skeleton) (handle : Handle) :
    s.release handle = s ∨ ∃ m id, s.release handle = s.forget m id := by
  cases handle with
  | graphic g =>
    show (if s.isHeld g = true then _ else _) = s ∨ ∃ m id, (if s.isHeld g = true then _ else _) = _
    split
    · exact .inl rfl
    · exact .inr ⟨_, _, rfl⟩
  | registration m id => exact .inr ⟨m, id, rfl⟩

/-- Apart from handles an operation makes a manager, or takes out one entry at most. -/
theorem Op.books_cases (s : Skeleton) (o : Op) :
    o.books s = s.addManager ∨ ∃ handles held,
      o.books s = s.regrip handles held ∨ ∃ m id, o.books s = (s.regrip handles held).forget m id := by
  have same : s = s.regrip s.handles s.held := rfl
  cases o with
  | hold g => exact .inr ⟨_, _, .inl rfl⟩
  | letGo g =>
    exact .inr ⟨_, _, Skeleton.release_cases (s.regrip s.handles (s.held.erase g)) (.graphic g)⟩
  | bind name handle id =>
    show s.bind name handle = _ ∨ ∃ handles held, s.bind name handle = _ ∨ ∃ m id,
      s.bind name handle = _
    unfold Skeleton.bind
    cases s.handles.get? name with
    | none => exact .inr ⟨_, _, .inl rfl⟩
    | some old => exact .inr ⟨_, _, Skeleton.release_cases (s.regrip _ _) old⟩
  | drop name =>
    show s.drop name = _ ∨ ∃ handles held, s.drop name = _ ∨ ∃ m id, s.drop name = _
    unfold Skeleton.drop
    cases s.handles.get? name with
    | none => exact .inr ⟨_, _, .inl same⟩
    | some old => exact .inr ⟨_, _, Skeleton.release_cases (s.regrip _ _) old⟩
  | addManager config timer => exact .inl rfl
  | unregister m id => exact .inr ⟨_, _, .inr ⟨m, id, rfl⟩⟩
  | _ => exact .inr ⟨_, _, .inl same⟩

/-- No operation hands out an id, -/
theorem Op.nextId_books (s : Skeleton) (o : Op) : (o.books s).nextId = s.nextId := by
  rcases o.books_cases s with same | ⟨handles, held, same | ⟨m, id, same⟩⟩
  all_goals
    rw [same]
    rfl

/-- and none registers anything. -/
theorem Op.registry_books {s : Skeleton} {o : Op} {e : Nat × ObjectRef}
    (entry : e ∈ ((o.books s).registry m).entries) : e ∈ (s.registry m).entries := by
  rcases o.books_cases s with same | ⟨handles, held, same | ⟨k, id, same⟩⟩
  · rw [same] at entry
    exact entry
  · rw [same] at entry
    exact entry
  · rw [same] at entry
    exact ((Skeleton.mem_forget _ k).1 entry).1

/-! ## What leaves the books alone -/

/-- These are the books of the world. -/
def Books (s : Skeleton) (w : World) : Prop := skeleton w = s

theorem Books.updateManager (h : Books s w) (m : Nat) {f : Manager → Manager}
    (hf : ∀ x, (f x).registry = x.registry ∧ (f x).nextId = x.nextId) :
    Books s (w.updateManager m f) :=
  (skeleton_updateManager w m hf).trans h

theorem Books.updateGraphic (h : Books s w) (g : Nat) {f : Graphic → Graphic}
    (hf : ∀ x, (f x).id = x.id ∧ (f x).manager = x.manager) : Books s (w.updateGraphic g f) :=
  (skeleton_updateGraphic w g hf).trans h

/-- The rest of the world is not in the books. -/
theorem Books.congr (h : Books s w) (managers : w'.managers = w.managers)
    (graphics : w'.graphics = w.graphics) (handles : w'.handles = w.handles)
    (held : w'.held = w.held) : Books s w' := by
  have same : skeleton w' = skeleton w := by
    unfold skeleton World.manager World.graphic
    rw [managers, graphics, handles, held]
  exact same.trans h

/-- Swapping and using graphics has nothing to do with the books. -/
theorem usable_books (s : Skeleton) : Usable (Books s) where
  counts hf h := h.updateManager _ fun x => (hf x).2
  out _ _ h := h.updateGraphic _ fun _ => ⟨rfl, rfl⟩
  back _ h := h.updateGraphic _ fun _ => ⟨rfl, rfl⟩
  used h := h.updateGraphic _ fun _ => ⟨rfl, rfl⟩
  busy h := h.updateGraphic _ fun _ => ⟨rfl, rfl⟩
  guards h := h.congr rfl rfl rfl rfl

theorem preserves_books_finish : Preserves (Books s) (Sweep.finish m n) :=
  preserves_bind (usable_books s).reconcile fun _ =>
    preserves_change fun _ h => h.updateManager m fun _ => ⟨rfl, rfl⟩

/-! ## What operations make of the books -/

theorem skeleton_unregister (m id : Nat) (w : World) :
    skeleton (left (unregister m id) w) = (skeleton w).forget m id := by
  cases found : (w.manager m).registry.find? id with
  | none =>
    rw [left_of_ok (unregister_of_absent found)]
    exact ((skeleton w).forget_of_absent m found).symm
  | some o =>
    have there : m < w.managers.size := there_of_entry (Registry.find?_eq_some.1 found)
    rw [left_unregister found]
    exact (usable_books _).debit _ (skeleton_forget there id)

theorem skeleton_release (handle : Handle) (w : World) :
    skeleton (left (Handling.release handle) w) = (skeleton w).release handle := by
  cases handle with
  | graphic g =>
    have released := Handling.release_graphic g w
    by_cases held : w.isHeld g = true
    · rw [if_pos held] at released
      rw [left_of_ok released]
      exact (if_pos held).symm
    · rw [if_neg held] at released
      unfold left
      rw [released]
      exact (skeleton_unregister _ _ w).trans (if_neg held).symm
  | registration m id => exact skeleton_unregister m id w

theorem skeleton_bind (name : String) (handle : Handle) (id : Nat) (w : World) :
    skeleton (left (Handling.bind name handle id) w) = (skeleton w).bind name handle := by
  unfold left Skeleton.bind
  rw [Handling.bind_eq]
  show _ = match w.handles.get? name with
    | none => _
    | some old => _
  cases w.handles.get? name with
  | none => rfl
  | some old => exact skeleton_release old _

theorem skeleton_drop (name : String) (w : World) :
    skeleton (left (Handling.drop name) w) = (skeleton w).drop name := by
  rw [Handling.left_drop]
  unfold Skeleton.drop
  show _ = match w.handles.get? name with
    | none => _
    | some old => _
  cases w.handles.get? name with
  | none => rfl
  | some old => exact skeleton_release old { w with handles := w.handles.erase name }

/-- What an operation makes of the books depends on the books alone, also if it halts. -/
theorem skeleton_effect {o : Op} (ready : o.Ready w) :
    skeleton (left o.effect w) = o.books (skeleton w) := by
  have usable := usable_books (skeleton w)
  have same : Books (skeleton w) w := rfl
  cases o with
  | swapOut g => exact usable.swapOut.quiet w same
  | swapIn g => exact usable.swapIn.quiet w same
  | peek g => exact usable.peek.quiet w same
  | replace g p =>
    exact usable.announceResize _ (same.updateGraphic g fun _ => ⟨rfl, rfl⟩)
  | setLastUsed g lastUsed => exact same.updateGraphic g fun _ => ⟨rfl, rfl⟩
  | beginOperation g guard => exact (usable.guard guard).quiet w same
  | endOperation guard => exact (usable.unguard guard).quiet w same
  | alterFile g f =>
    rw [left_changeFile]
    cases (w.graphic g).swapFile? with
    | none => rfl
    | some file => exact same.updateGraphic g fun _ => ⟨rfl, rfl⟩
  | hold g => rfl
  | letGo g => exact skeleton_release (.graphic g) { w with held := w.held.erase g }
  | bind name handle id => exact skeleton_bind name handle id w
  | drop name =>
    show skeleton (left (Handling.drop name >>= fun _ => pure ()) w) = _
    rw [left_bind_pure]
    exact skeleton_drop name w
  | addManager config timer =>
    obtain ⟨t, made⟩ := left_addManager config timer w
    rw [made]
    exact skeleton_addManager rfl rfl
  | setTimer m timer => exact same.updateManager m fun _ => ⟨rfl, rfl⟩
  | audit m => exact usable.audit.quiet w same
  | unregister m id => exact skeleton_unregister m id w
  | announceIn m size => exact usable.credit w same
  | announceOut m size => exact usable.debit w same
  | announceResize m id oldSize => exact usable.announceResize w same
  | noticeIn m size => exact usable.credit w same
  | noticeOut m size => exact usable.debit w same
  | advance span => rfl
  | arrange f => exact same.congr ready.managers ready.graphics ready.handles ready.held

/-! ## Booking -/

/-- Booking comes to its end with the object in the books. -/
theorem skeleton_book (there : m < w.managers.size) (done : book m id o w = .ok () w') :
    skeleton w' = (skeleton w).enter m id o := by
  unfold book at done
  rw [get_bind_apply] at done
  obtain ⟨_, v, credited, done⟩ := ok_of_bind done
  obtain ⟨_, v', entered, reconciled⟩ := ok_of_bind done
  cases entered
  have same : skeleton v = skeleton w := (usable_books _).credit.ok credited rfl
  have there : m < v.managers.size := by
    have size : v.managers.size = w.managers.size := congrArg Skeleton.managers same
    omega
  rw [← same, ← skeleton_enter there]
  exact (usable_books _).reconcile.ok reconciled rfl

theorem skeleton_freshId (there : m < w.managers.size) (fresh : freshId m w = .ok id w') :
    skeleton w' = (skeleton w).takeId m ∧ id = (skeleton w).nextId m := by
  cases fresh
  refine ⟨?_, rfl⟩
  have registry :
      Function.update (skeleton w).registry m (w.manager m).registry = (skeleton w).registry :=
    Function.update_eq_self _ _
  rw [skeleton_changed there]
  dsimp only [Manager.takeId]
  rw [registry]
  rfl

/-- The next ids have nothing to do with booking. -/
theorem nextId_book (m id : Nat) (o : ObjectRef) (w : World) (k : Nat) :
    ((left (book m id o) w).manager k).nextId = (w.manager k).nextId := by
  have keeps {v : World} {n : Nat} {f : Manager → Manager} (hf : ∀ x, (f x).nextId = x.nextId)
      (hv : (v.manager k).nextId = (w.manager k).nextId) :
      ((v.updateManager n f).manager k).nextId = (w.manager k).nextId :=
    (v.updateManager_keeps n k hf).trans hv
  have enters : Preserves (fun v => (v.manager k).nextId = (w.manager k).nextId) (enter m id o) :=
    preserves_change fun v hv => keeps (fun _ => rfl) hv
  exact preserves_book (fun hf hv => keeps (fun x => (hf x).2.2) hv) enters w rfl

/-! ## Steps -/

/-- An id is handed out, and what it is for comes to wait. -/
def Action.issues : Action → Bool
  | .make _ => true
  | .copy _ => true
  | .enlist _ => true
  | _ => false

/-- The action is no operation of the program, hands out no id and books nothing. -/
def Action.Quiet : Action → Prop
  | .op _ => False
  | .settle => False
  | a => a.issues = false

/-- What a step makes of the books and of what waits to be booked. -/
inductive Movement (c : State) (a : Action) (d : State) : Prop
  | keeps (quiet : a.Quiet) (same : skeleton d.world = skeleton c.world)
      (fewer : waiting d.calls <:+ waiting c.calls)
  | operates {o : Op} (done : a = .op o ∨ a = .halt (some o)) (ready : o.Ready c.world)
      (books : skeleton d.world = o.books (skeleton c.world)) (same : d.calls = c.calls)
  | makes {m id g : Nat} (issues : a.issues = true) (there : m < c.world.managers.size)
      (books : skeleton d.world = (skeleton c.world).addGraphic m)
      (next : id = (c.world.manager m).nextId) (new : g = c.world.graphics.size)
      (waits : waiting d.calls = (m, id, .graphic g) :: waiting c.calls)
  | numbers {m id o : Nat} (issues : a.issues = true) (there : m < c.world.managers.size)
      (books : skeleton d.world = (skeleton c.world).takeId m)
      (next : id = (c.world.manager m).nextId)
      (waits : waiting d.calls = (m, id, .scripted o) :: waiting c.calls)
  | settles {m id : Nat} {o : ObjectRef} (settles : a = .settle)
      (waited : waiting c.calls = (m, id, o) :: waiting d.calls)
      (done : book m id o c.world = .ok () d.world)
  | breaks {m id : Nat} {o : ObjectRef} {rest : List (Nat × Nat × ObjectRef)}
      (halts : a = .halt none) (waited : waiting c.calls = (m, id, o) :: rest)
      (world : d.world = left (book m id o) c.world) (fewer : waiting d.calls <:+ rest)

theorem Step.movement (step : Step c a d) : Movement c a d := by
  have after (s : List Call) : waiting (home s) <:+ waiting s := (home_suffix_self s).filterMap _
  have usable := usable_books (skeleton c.world)
  cases step with
  | op free ready done =>
    exact .operates (.inl rfl) ready (left_of_ok done ▸ skeleton_effect ready) rfl
  | opHalts free ready halts =>
    exact .operates (.inr rfl) ready (left_of_error halts ▸ skeleton_effect ready) rfl
  | make free there fits made =>
    obtain ⟨books, new, next⟩ := skeleton_create there made
    exact .makes rfl there books next new rfl
  | copy free there held duplicated made =>
    obtain ⟨books, new, next⟩ := skeleton_create there made
    exact .makes rfl there books next new rfl
  | enlist free there fresh =>
    obtain ⟨books, next⟩ := skeleton_freshId there fresh
    exact .numbers rfl there books next rfl
  | settle done => exact .settles rfl rfl done
  | settleHalts halts => exact .breaks rfl rfl (left_of_error halts).symm (after _)
  | enter free held begun fetched =>
    have books := usable.fetch.ok fetched (usable.beginOperation.ok begun rfl)
    exact .keeps rfl books List.suffix_rfl
  | leave done => exact .keeps rfl (usable.endOperation.ok done rfl) List.suffix_rfl
  | call | answer | skip | askScripted | look => exact .keeps rfl rfl List.suffix_rfl
  | answerHalts => exact .keeps rfl rfl (after _)
  | sweep | suppress =>
    exact .keeps rfl (skeleton_updateManager _ _ fun _ => ⟨rfl, rfl⟩) List.suffix_rfl
  | ask asked done => exact .keeps rfl (usable.swapOut.ok done rfl) List.suffix_rfl
  | askHalts asked halts => exact .keeps rfl (usable.swapOut.error halts rfl) (after _)
  | finish ended done => exact .keeps rfl (preserves_books_finish.ok done rfl) List.suffix_rfl
  | finishHalts ended halts =>
    exact .keeps rfl (preserves_books_finish.error halts rfl) (after _)

end GraphicCache.Run
