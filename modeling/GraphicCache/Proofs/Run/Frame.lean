/-
What a step of a run leaves alone. An invariant that does not mind swapping, accounts, the use of
graphics and handles that go is preserved by nearly every operation, halted or not. In particular
managers and graphics are numbered in the order in which they were made and never go away, a graphic
keeps its id and its manager, the clock goes forward, and a proper world stays proper.
-/
import GraphicCache.Proofs.Handling
import GraphicCache.Proofs.Run
import GraphicCache.Proofs.Swapping

namespace GraphicCache.Run

open Effect

/-! ## Invariants that operations preserve -/

/-- The content is what a graphic has after it was swapped out or in. -/
def Swapped (w : World) (g : Nat) (content : Content) : Prop :=
  (∃ canStore freed, (w.graphic g).swapOut canStore = .ok (some (content, freed))) ∨
    ∃ id now restored, (w.graphic g).restore id now = .ok (some (content, restored))

/-- The graphics differ at most in when they were used and how many operations hold them. -/
def Busy (f : Graphic → Graphic) : Prop :=
  ∀ x, f x = { x with lastUsed := (f x).lastUsed, operations := (f x).operations }

/-- The operation begins or ends an operation on a graphic. -/
def Op.Pins : Op → Prop
  | .peek _ => True
  | .beginOperation .. => True
  | .endOperation _ => True
  | _ => False

theorem left_peek (g : Nat) (w : World) :
    left (Op.peek g).effect w = left (Swapping.use g pure) w := left_bind_pure _ _ _

theorem left_guard (g : Nat) (guard : String) (w : World) :
    left (Op.beginOperation g guard).effect w = left (Script.beginOperation guard g) w :=
  left_bind_pure _ _ _

theorem left_unguard (guard : String) (w : World) :
    left (Op.endOperation guard).effect w = left (Script.endOperation guard) w :=
  left_bind_pure _ _ _

/-- A new manager comes with a timer, which may be stopped. -/
theorem left_addManager (config : Config) (timer : Bool) (w : World) :
    ∃ t, left (Op.addManager config timer).effect w =
      w.addManager ((Manager.new config).setTimer t) := by
  cases timer with
  | false => exact ⟨.stopped, rfl⟩
  | true =>
    obtain ⟨t, started⟩ := Manager.startTimer_eq (.new config) w.now
    exact ⟨t, congrArg w.addManager started⟩

theorem left_changeFile (g : Nat) (f : SwapFile → SwapFile) (w : World) :
    left (Op.alterFile g f).effect w = match (w.graphic g).swapFile? with
      | none => w
      | some file => w.updateGraphic g fun x => { x with backing := .file (f file) } := by
  show left (Script.changeFile g f >>= fun _ => pure ()) w = _
  rw [left_bind_pure]
  unfold Script.changeFile Script.withFile left
  rw [get_bind_apply]
  cases (w.graphic g).swapFile? <;> rfl

/-- A new guard takes its name, and the operation of a guard that had the name ends. -/
theorem left_beginOperation {g : Nat} {w v : World} (guard : String)
    (begun : Swapping.beginOperation g w = .ok () v) :
    left (Script.beginOperation guard g) w = match v.guards.get? guard with
      | none => { v with guards := v.guards.put guard g }
      | some old =>
        left (Swapping.endOperation old) { v with guards := v.guards.put guard g } := by
  unfold Script.beginOperation left
  rw [bind_of_ok begun, get_bind_apply, change_bind_apply]
  cases v.guards.get? guard <;> rfl

/-- The name of a guard goes, and its operation ends. -/
theorem left_endOperation (guard : String) (w : World) :
    left (Script.endOperation guard) w = match w.guards.get? guard with
      | none => w
      | some g => left (Swapping.endOperation g) { w with guards := w.guards.erase guard } := by
  unfold Script.endOperation left
  rw [get_bind_apply]
  cases w.guards.get? guard <;> rfl

/-- The invariant does not mind what is between a graphic and its manager: counts, swapping and a use
now. What is swapped out is not held by an operation. -/
structure Inner (I : World → Prop) : Prop where
  counts : ∀ {w : World} {m : Nat} {f : Manager → Manager}, Accounting.Counting f → I w →
    I (w.updateManager m f)
  out : ∀ {w : World} {g : Nat} {canStore : Bool} {content : Content} {freed : Nat},
    (w.graphic g).operations = 0 → (w.graphic g).swapOut canStore = .ok (some (content, freed)) →
      I w → I (w.setContent g content)
  back : ∀ {w : World} {g id : Nat} {content : Content} {restored : Nat},
    (w.graphic g).restore id w.now = .ok (some (content, restored)) → I w →
      I (w.setContent g content)
  used : ∀ {w : World} {g : Nat}, I w →
    I (w.updateGraphic g fun x => { x with lastUsed := w.now })

namespace Inner

variable {I : World → Prop} {g m id : Nat} {bytes : Int} (inner : Inner I)

include inner

theorem credit : Preserves I (Accounting.credit m bytes) :=
  Accounting.preserves_credit inner.counts

theorem debit : Preserves I (Accounting.debit m bytes) :=
  Accounting.preserves_debit inner.counts

theorem reconcile : Preserves I (Accounting.reconcile m) :=
  Accounting.preserves_reconcile inner.counts

theorem audit : Preserves I (Accounting.audit m) := Accounting.preserves_audit inner.counts

theorem announceResize : Preserves I (Accounting.announceResize m id bytes) :=
  Accounting.preserves_announceResize inner.counts

theorem swapOut : Preserves I (Swapping.swapOut g) := by
  intro w hw
  rcases Swapping.left_swapOut g w with stays | ⟨content, freed, free, out, moves⟩
  · rwa [stays]
  · rw [moves]
    exact inner.debit _ (inner.out free out hw)

theorem swapIn : Preserves I (Swapping.swapIn g) := by
  intro w hw
  rcases Swapping.left_swapIn g w with stays | ⟨content, restored, back, moves⟩
  · rwa [stays]
  · rw [moves]
    exact inner.credit _ (inner.back back hw)

theorem fetch : Preserves I (Swapping.fetch g) := by
  intro w hw
  rw [Swapping.left_fetch]
  exact inner.swapIn _ (inner.used hw)

end Inner

/-- The invariant does not mind operations that begin and end and guards, either. -/
structure Usable (I : World → Prop) : Prop extends Inner I where
  busy : ∀ {w : World} {g : Nat} {f : Nat → Nat}, I w →
    I (w.updateGraphic g fun x => { x with operations := f x.operations })
  guards : ∀ {w : World} {guards : Names Nat}, I w → I { w with guards := guards }

namespace Usable

variable {I : World → Prop} {g : Nat} (usable : Usable I)

include usable

theorem beginOperation : Preserves I (Swapping.beginOperation g) :=
  preserves_change fun _ => usable.busy (f := (· + 1))

theorem endOperation : Preserves I (Swapping.endOperation g) :=
  preserves_change fun _ => usable.busy (f := (· - 1))

theorem peek : Preserves I (Swapping.use g pure) := by
  intro w hw
  rw [Swapping.left_use]
  exact usable.endOperation _ (usable.fetch _ (usable.beginOperation w hw))

theorem guard (guard : String) : Preserves I (Script.beginOperation guard g) := by
  refine preserves_bind usable.beginOperation fun _ => preserves_bind preserves_get fun w =>
    preserves_bind (preserves_change fun w => usable.guards) fun _ => ?_
  split
  · exact preserves_pure _
  · exact preserves_bind usable.endOperation fun _ => preserves_pure _

theorem unguard (guard : String) : Preserves I (Script.endOperation guard) := by
  refine preserves_bind preserves_get fun w => ?_
  split
  · exact preserves_pure _
  · exact preserves_bind (preserves_change fun w => usable.guards) fun _ =>
      preserves_bind usable.endOperation fun _ => preserves_pure _

end Usable

/-- The invariant does not mind accounts, swapping, a use now, handles that go, ids, and the clock.
What is swapped out is not held by an operation. -/
structure Everyday (I : World → Prop) : Prop where
  manager : ∀ {w : World} {m : Nat} {f : Manager → Manager}, Accounting.Tame f → I w →
    I (w.updateManager m f)
  out : ∀ {w : World} {g : Nat} {canStore : Bool} {content : Content} {freed : Nat},
    (w.graphic g).operations = 0 → (w.graphic g).swapOut canStore = .ok (some (content, freed)) →
      I w → I (w.setContent g content)
  back : ∀ {w : World} {g id : Nat} {content : Content} {restored : Nat},
    (w.graphic g).restore id w.now = .ok (some (content, restored)) → I w →
      I (w.setContent g content)
  used : ∀ {w : World} {g : Nat}, I w →
    I (w.updateGraphic g fun x => { x with lastUsed := w.now })
  hands : ∀ {w : World} {handles : Names Handle} {held : List Nat} {ids : Names Nat},
    handles ⊆ w.handles → held ⊆ w.held → I w →
      I { w with handles := handles, held := held, ids := ids }
  clock : ∀ {w : World} {now : Moment}, w.now ≤ now → I w → I { w with now := now }

namespace Everyday

variable {I : World → Prop} {g : Nat} {w : World} (ev : Everyday I)

include ev

theorem inner : Inner I where
  counts hf := ev.manager hf.tame
  out := ev.out
  back := ev.back
  used := ev.used

theorem swapOut : Preserves I (Swapping.swapOut g) := ev.inner.swapOut

theorem fetch : Preserves I (Swapping.fetch g) := ev.inner.fetch

theorem release (handle : Handle) : Preserves I (Handling.release handle) := by
  cases handle with
  | graphic g =>
    refine preserves_bind preserves_get fun w => ?_
    split
    · exact preserves_pure _
    · exact Accounting.preserves_unregister ev.manager
  | registration m id => exact Accounting.preserves_unregister ev.manager

theorem letGo : Preserves I (Handling.letGo g) := by
  refine preserves_bind (preserves_change fun w hw => ?_) fun _ => ev.release _
  exact ev.hands (w := w) (List.Subset.refl _) List.erase_subset hw

theorem drop (name : String) : Preserves I (Handling.drop name) := by
  intro w hw
  rw [Handling.left_drop]
  cases w.handles.get? name with
  | none => exact hw
  | some old =>
    refine ev.release old _ ?_
    exact ev.hands (w := w) (List.filter_subset_self _) (List.Subset.refl _) hw

/-- What an operation preserves, if what it does apart from these things is preserved. -/
theorem effect {o : Op} (ready : o.Ready w) (hw : I w) (pins : o.Pins → I (left o.effect w))
    (marks : ∀ g lastUsed, o = .setLastUsed g lastUsed →
      I (w.updateGraphic g fun x => { x with lastUsed := lastUsed }))
    (replaces : ∀ g p, o = .replace g p →
      I (w.setContent g ((w.graphic g).toContent.replace p w.now)))
    (alters : ∀ g f, o = .alterFile g f → ∀ file, (w.graphic g).swapFile? = some file →
      I (w.updateGraphic g fun x => { x with backing := .file (f file) }))
    (holds : ∀ g, o = .hold g → I { w with held := g :: w.held })
    (names : ∀ name handle id, o = .bind name handle id →
      I { w with handles := w.handles.put name handle, ids := w.ids.put name id })
    (makes : ∀ config timer, I (w.addManager ((Manager.new config).setTimer timer)))
    (arranges : ∀ f, o = .arrange f → I (f w)) :
    I (left o.effect w) := by
  cases o with
  | swapOut g => exact ev.swapOut.quiet w hw
  | swapIn g => exact ev.inner.swapIn.quiet w hw
  | peek | beginOperation | endOperation => exact pins trivial
  | replace g p =>
    exact ev.inner.announceResize _ (replaces g p rfl)
  | setLastUsed g lastUsed => exact marks g lastUsed rfl
  | alterFile g f =>
    rw [left_changeFile]
    cases found : (w.graphic g).swapFile? with
    | none => exact hw
    | some file => exact alters g f rfl file found
  | hold g => exact holds g rfl
  | letGo g => exact ev.letGo w hw
  | bind name handle id =>
    have named := names name handle id rfl
    show I (left (Handling.bind name handle id) w)
    rw [Handling.left_bind]
    cases w.handles.get? name with
    | none => exact named
    | some old => exact ev.release old _ named
  | drop name => exact (ev.drop name).quiet w hw
  | addManager config timer =>
    obtain ⟨t, made⟩ := left_addManager config timer w
    exact made ▸ makes config t
  | setTimer m timer => exact ev.inner.counts (Accounting.counting_setTimer timer) hw
  | audit m => exact ev.inner.audit.quiet w hw
  | unregister m id => exact Accounting.preserves_unregister ev.manager w hw
  | announceIn m size => exact ev.inner.credit w hw
  | announceOut m size => exact ev.inner.debit w hw
  | announceResize m id oldSize => exact ev.inner.announceResize w hw
  | noticeIn m size => exact ev.inner.credit w hw
  | noticeOut m size => exact ev.inner.debit w hw
  | advance span => exact ev.clock (Int.le_add_of_nonneg_right (Int.natCast_nonneg _)) hw
  | arrange f => exact arranges f rfl

section Blind

variable {m n id : Nat} {o : ObjectRef}
  (blind : ∀ {w : World} {m : Nat} {f : Manager → Manager}, I w → I (w.updateManager m f))

include blind

/-- An invariant that does not look at managers does not mind bookings. -/
theorem book : Preserves I (Accounting.book m id o) :=
  Accounting.preserves_book ev.inner.counts (preserves_change fun _ => blind)

/-- Nor does it mind the end of a sweep. -/
theorem finish : Preserves I (Sweep.finish m n) :=
  preserves_bind ev.inner.reconcile fun _ =>
    preserves_change fun _ => blind

end Blind

end Everyday

/-- The invariant does not mind accounts, swapping, the use of graphics, handles that go, guards and
ids, and the clock. -/
structure Stable (I : World → Prop) : Prop where
  manager : ∀ {w : World} {m : Nat} {f : Manager → Manager}, Accounting.Tame f → I w →
    I (w.updateManager m f)
  content : ∀ {w : World} {g : Nat} {content : Content}, Swapped w g content → I w →
    I (w.setContent g content)
  busy : ∀ {w : World} {g : Nat} {f : Graphic → Graphic}, Busy f → I w → I (w.updateGraphic g f)
  hands : ∀ {w : World} {handles : Names Handle} {held : List Nat} {guards ids : Names Nat},
    handles ⊆ w.handles → held ⊆ w.held → I w →
      I { w with handles := handles, held := held, guards := guards, ids := ids }
  clock : ∀ {w : World} {now : Moment}, w.now ≤ now → I w → I { w with now := now }

namespace Stable

variable {I : World → Prop} {g : Nat} {w : World} (st : Stable I)

include st

theorem everyday : Everyday I where
  manager := st.manager
  out _ out := st.content (.inl ⟨_, _, out⟩)
  back back := st.content (.inr ⟨_, _, _, back⟩)
  used := st.busy fun _ => rfl
  hands := st.hands
  clock := st.clock

theorem swapOut : Preserves I (Swapping.swapOut g) := st.everyday.swapOut

theorem fetch : Preserves I (Swapping.fetch g) := st.everyday.fetch

theorem usable : Usable I where
  toInner := st.everyday.inner
  busy := st.busy fun _ => rfl
  guards {w _} := st.hands (w := w) (List.Subset.refl _) (List.Subset.refl _)

theorem beginOperation : Preserves I (Swapping.beginOperation g) := st.usable.beginOperation

theorem endOperation : Preserves I (Swapping.endOperation g) := st.usable.endOperation

/-- What an operation preserves, if what it does apart from swapping, accounts, use and handles that
go is preserved. -/
theorem effect {o : Op} (ready : o.Ready w) (hw : I w)
    (replaces : ∀ g p, o = .replace g p →
      I (w.setContent g ((w.graphic g).toContent.replace p w.now)))
    (alters : ∀ g f, o = .alterFile g f → ∀ file, (w.graphic g).swapFile? = some file →
      I (w.updateGraphic g fun x => { x with backing := .file (f file) }))
    (holds : ∀ g, o = .hold g → I { w with held := g :: w.held })
    (names : ∀ name handle id, o = .bind name handle id →
      I { w with handles := w.handles.put name handle, ids := w.ids.put name id })
    (makes : ∀ config timer, I (w.addManager ((Manager.new config).setTimer timer)))
    (arranges : ∀ f, o = .arrange f → I (f w)) :
    I (left o.effect w) := by
  refine st.everyday.effect ready hw (fun pins => ?_) (fun _ _ _ => st.busy (fun _ => rfl) hw)
    replaces alters holds names makes arranges
  cases o with
  | peek g => exact left_peek g w ▸ st.usable.peek w hw
  | beginOperation g guard => exact left_guard g guard w ▸ st.usable.guard guard w hw
  | endOperation guard => exact left_unguard guard w ▸ st.usable.unguard guard w hw
  | _ => exact pins.elim

end Stable

/-! ## What grows -/

/-- Nothing goes away: what was made before is there, a graphic under the same id of the same
manager, the clock goes forward, and a proper world stays proper. -/
structure Grows (w w' : World) : Prop where
  now : w.now ≤ w'.now
  managers : w.managers.size ≤ w'.managers.size
  graphics : w.graphics.size ≤ w'.graphics.size
  identity : ∀ g < w.graphics.size,
    (w'.graphic g).id = (w.graphic g).id ∧ (w'.graphic g).manager = (w.graphic g).manager
  proper : w.Proper → w'.Proper

namespace Grows

variable {w v w' : World}

theorem refl (w : World) : Grows w w :=
  ⟨Int.le_refl _, Nat.le_refl _, Nat.le_refl _, fun _ _ => ⟨rfl, rfl⟩, id⟩

theorem trans (h : Grows w v) (h' : Grows v w') : Grows w w' where
  now := Int.le_trans h.now h'.now
  managers := Nat.le_trans h.managers h'.managers
  graphics := Nat.le_trans h.graphics h'.graphics
  identity g hg := by
    obtain ⟨id, manager⟩ := h.identity g hg
    obtain ⟨id', manager'⟩ := h'.identity g (Nat.lt_of_lt_of_le hg h.graphics)
    exact ⟨id'.trans id, manager'.trans manager⟩
  proper := h'.proper ∘ h.proper

theorem updateManager (w : World) (m : Nat) (f : Manager → Manager) :
    Grows w (w.updateManager m f) where
  now := Int.le_refl _
  managers := Nat.le_of_eq (w.size_updateManager m f).symm
  graphics := Nat.le_refl _
  identity _ _ := ⟨rfl, rfl⟩
  proper proper :=
    ⟨fun e he => (w.size_updateManager m f).symm ▸ proper.names e he,
      fun k hk => (w.size_updateManager m f).symm ▸ proper.process k hk, proper.hooks⟩

theorem updateGraphic (w : World) (g : Nat) {f : Graphic → Graphic}
    (hf : ∀ x, (f x).id = x.id ∧ (f x).manager = x.manager) : Grows w (w.updateGraphic g f) where
  now := Int.le_refl _
  managers := Nat.le_refl _
  graphics := Nat.le_of_eq (w.size_updateGraphic g f).symm
  identity h _ := ⟨w.updateGraphic_keeps g h fun x => (hf x).1,
    w.updateGraphic_keeps g h fun x => (hf x).2⟩
  proper proper := ⟨proper.names, proper.process, proper.hooks⟩

theorem addManager (w : World) (x : Manager) : Grows w (w.addManager x) := by
  have size : (w.addManager x).managers.size = w.managers.size + 1 := w.size_addManager x
  refine ⟨Int.le_refl _, by omega, Nat.le_refl _, fun _ _ => ⟨rfl, rfl⟩, fun proper =>
    ⟨fun e he => ?_, fun m hm => ?_, proper.hooks⟩⟩
  · exact Nat.lt_trans (proper.names e he) (by omega)
  · exact Nat.lt_trans (proper.process m hm) (by omega)

theorem addGraphic (w : World) (x : Graphic) : Grows w (w.addGraphic x) where
  now := Int.le_refl _
  managers := Nat.le_refl _
  graphics := by simp
  identity g hg := by
    rw [World.graphic_addGraphic, if_neg (Nat.ne_of_lt hg)]
    exact ⟨rfl, rfl⟩
  proper proper := ⟨proper.names, proper.process, proper.hooks⟩

/-- Other parts of the world have nothing to do with growing. -/
theorem of_same (now : w.now ≤ w'.now) (managers : w'.managers = w.managers)
    (graphics : w'.graphics = w.graphics) (proper : w.Proper → w'.Proper) : Grows w w' where
  now := now
  managers := Nat.le_of_eq (congrArg Array.size managers.symm)
  graphics := Nat.le_of_eq (congrArg Array.size graphics.symm)
  identity g _ := by
    unfold World.graphic
    rw [graphics]
    exact ⟨rfl, rfl⟩
  proper := proper

end Grows

/-- Growing does not mind what most operations do. -/
theorem stable_grows (w₀ : World) : Stable (Grows w₀) where
  manager _ hw := hw.trans (.updateManager _ _ _)
  content _ hw := hw.trans (.updateGraphic _ _ fun _ => ⟨rfl, rfl⟩)
  busy hf hw := hw.trans (.updateGraphic _ _ fun x => by rw [hf x]; exact ⟨rfl, rfl⟩)
  hands {w _ _ _ _} _ _ hw := hw.trans
    (.of_same (Int.le_refl w.now) rfl rfl fun proper => ⟨proper.names, proper.process, proper.hooks⟩)
  clock forward hw := hw.trans
    (.of_same forward rfl rfl fun proper => ⟨proper.names, proper.process, proper.hooks⟩)

/-- An effect that preserves stable invariants lets the world grow. -/
theorem Grows.of_stable {α : Type} {x : Effect α}
    (h : ∀ {I : World → Prop}, Stable I → Preserves I x) (w : World) : Grows w (left x w) :=
  h (stable_grows w) w (.refl w)

theorem grows_effect {o : Op} {w : World} (ready : o.Ready w) : Grows w (left o.effect w) := by
  refine (stable_grows w).effect ready (.refl w) (fun g p _ => ?_) (fun g f _ file _ => ?_)
    (fun g _ => ?_) (fun name handle id _ => ?_) (fun config timer => .addManager _ _)
    fun f arranges => ?_
  · exact .updateGraphic _ _ fun _ => ⟨rfl, rfl⟩
  · exact .updateGraphic _ _ fun _ => ⟨rfl, rfl⟩
  · exact .of_same (Int.le_refl _) rfl rfl fun proper =>
      ⟨proper.names, proper.process, proper.hooks⟩
  · exact .of_same (Int.le_refl _) rfl rfl fun proper =>
      ⟨proper.names, proper.process, proper.hooks⟩
  · subst arranges
    exact .of_same (Int.le_of_eq ready.now.symm) ready.managers ready.graphics ready.proper

theorem grows_create {m : Nat} {content : Content} {id g : Nat} {w w' : World}
    (h : Swapping.create m content w = .ok (id, g) w') : Grows w w' := by
  obtain ⟨-, -, rfl⟩ := Swapping.create_ok h
  exact (Grows.updateManager w m _).trans (.addGraphic _ _)

theorem grows_book (m id : Nat) (o : ObjectRef) (w : World) :
    Grows w (left (Accounting.book m id o) w) :=
  Accounting.preserves_book (stable_grows w).usable.counts
    (preserves_change fun _ hw => hw.trans (.updateManager _ _ _)) w (.refl w)

theorem grows_finish (m n : Nat) (w : World) : Grows w (left (Sweep.finish m n) w) :=
  preserves_bind (stable_grows w).usable.reconcile
    (fun _ => preserves_change fun _ hw => hw.trans (.updateManager _ _ _)) w (.refl w)

/-- An operation of the program is done when it can come, to its end or to a halt. -/
theorem Step.of_op {c d : State} {a : Action} {o : Op} (step : Step c a d)
    (is : a = .op o ∨ a = .halt (some o)) : o.Ready c.world ∧ d.world = left o.effect c.world := by
  rcases is with rfl | rfl
  · cases step with
    | op free ready done => exact ⟨ready, (left_of_ok done).symm⟩
  · cases step with
    | opHalts free ready halts => exact ⟨ready, (left_of_error halts).symm⟩

/-- Every step lets the world grow. -/
theorem Step.grows {c d : State} {a : Action} (step : Step c a d) : Grows c.world d.world := by
  cases step with
  | op free ready done => exact left_of_ok done ▸ grows_effect ready
  | opHalts free ready halts => exact left_of_error halts ▸ grows_effect ready
  | make free there fits made => exact grows_create made
  | copy free there held duplicated made => exact grows_create made
  | enlist free there fresh =>
    exact left_of_ok fresh ▸ .of_stable (fun st => Accounting.preserves_freshId st.manager) _
  | settle done => exact left_of_ok done ▸ grows_book _ _ _ _
  | settleHalts halts => exact left_of_error halts ▸ grows_book _ _ _ _
  | enter free held begun fetched =>
    have first := left_of_ok begun ▸ Grows.of_stable Stable.beginOperation _
    exact first.trans (left_of_ok fetched ▸ .of_stable Stable.fetch _)
  | leave done => exact left_of_ok done ▸ .of_stable Stable.endOperation _
  | call | answer | answerHalts | skip | askScripted | look => exact .refl _
  | sweep | suppress => exact .updateManager _ _ _
  | ask asked done => exact left_of_ok done ▸ .of_stable Stable.swapOut _
  | askHalts asked halts => exact left_of_error halts ▸ .of_stable Stable.swapOut _
  | finish ended done => exact left_of_ok done ▸ grows_finish _ _ _
  | finishHalts ended halts => exact left_of_error halts ▸ grows_finish _ _ _

/-- So does every run. -/
theorem Path.grows {base : List Call} {c d : State} {acts : List Action}
    (path : Path base c acts d) : Grows c.world d.world := by
  induction path with
  | refl => exact .refl _
  | snoc path step above ih => exact ih.trans step.grows

end GraphicCache.Run
