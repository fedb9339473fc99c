/-
Retrying. When a swap file holds no payload, the graphic behind it cannot be brought back, read or
copied. A failed attempt leaves everything as it was, apart from the time of use that a reading
notes; so, after any number of them, a file that holds a payload again is as good as if there had
been none.
-/
import GraphicCache.Proofs.Run.Shapes
import GraphicCache.Proofs.Run.Showing
import GraphicCache.Proofs.SwapFile.Format
import Mathlib.Logic.Relation

namespace GraphicCache.Run

open Effect Swapping SwapFile

variable {environment : Names String} {acts : List Action} {c : State} {w v w' : World} {g : Nat}
  {p : Payload}

/-- What has a swap file was made. -/
theorem made_of_file {file : SwapFile} (backing : (w.graphic g).backing = .file file) :
    g < w.graphics.size := by
  by_contra absent
  rw [w.graphic_of_size_le g (by omega)] at backing
  cases backing

/-! ## Files that hold no payload -/

/-- The graphic is out of memory, and its swap file cannot be read. -/
structure Damaged (g : Nat) (e : DecodeError) (w : World) : Prop where
  stored : (w.graphic g).Stored
  unreadable : ∃ file, (w.graphic g).backing = .file file ∧ file.read = .error e

namespace Damaged

variable {e : DecodeError}

theorem made (h : Damaged g e w) : g < w.graphics.size := by
  obtain ⟨file, backing, -⟩ := h.unreadable
  exact made_of_file backing

/-- The use of the graphic does not matter. -/
theorem busy (h : Damaged g e w) {f : Graphic → Graphic} (busy : Busy f) :
    Damaged g e (w.updateGraphic g f) := by
  have same := w.graphic_updateGraphic_self (f := f) g h.made
  rw [busy] at same
  obtain ⟨payload, out, external, backing⟩ := h.stored
  constructor
  · rw [same]
    exact ⟨payload, out, external, backing⟩
  · rw [same]
    exact h.unreadable

theorem recover (h : Damaged g e w) (id : Nat) :
    (w.graphic g).recover id = .error (.undecodable e) := by
  obtain ⟨file, backing, read⟩ := h.unreadable
  unfold Content.recover
  rw [backing]
  dsimp only
  rw [read]
  rfl

theorem swapIn (h : Damaged g e w) : swapIn g w = .ok (.error (.undecodable e)) w := by
  refine swapIn_of_fault ?_
  unfold Content.restore
  rw [if_pos h.stored.out, h.recover]
  rfl

theorem copy (h : Damaged g e w) (ask : ObjectRef → Effect Unit) (m : Nat) :
    copy ask m g w = .ok (.error (.undecodable e)) w := by
  obtain ⟨file, backing, read⟩ := h.unreadable
  have fails : (w.graphic g).duplicate w.now = .error (.undecodable e) := by
    unfold Content.duplicate
    rw [h.stored.payload, h.stored.external, backing]
    dsimp only
    rw [read]
    rfl
  unfold Swapping.copy
  rw [get_bind_apply, fails]
  rfl

/-- A reading notes the time before it fails. -/
theorem fetch (h : Damaged g e w) : fetch g w =
    .ok (.error (.undecodable e)) (w.updateGraphic g fun x => { x with lastUsed := w.now }) := by
  rw [fetch_apply, bind_of_ok (h.busy fun _ => rfl).swapIn]
  rfl

/-- The operation ends, and nothing was done with a payload. -/
theorem use {α : Type} (h : Damaged g e w) (body : Payload → Effect α) : use g body w =
    .ok (.error (.undecodable e)) (w.updateGraphic g fun x => { x with lastUsed := w.now }) := by
  have begun : beginOperation g w =
      .ok () (w.updateGraphic g fun x => { x with operations := x.operations + 1 }) := rfl
  rw [use_of_fault begun (h.busy fun _ => rfl).fetch]
  refine congrArg _ ?_
  show ((_ : World).updateGraphic g _).updateGraphic g _ = _
  rw [World.updateGraphic_updateGraphic, World.updateGraphic_updateGraphic]
  rfl

end Damaged

/-! ## Files that hold one -/

/-- The graphic is out of memory, and its swap file is read as a payload. -/
structure Filled (g : Nat) (p : Payload) (w : World) : Prop where
  stored : (w.graphic g).Stored
  readable : ∃ file, (w.graphic g).backing = .file file ∧ file.read = .ok p
  there : (w.graphic g).manager < w.managers.size

/-- The content with a payload that was read from its swap file, which is gone. -/
def brought (p : Payload) (now : Moment) (c : Content) : Content :=
  { c with
    kind := p.kind, payload := some p, backing := .none, swappedOut := false, lastUsed := now }

/-- The world with a graphic brought back, whose payload is not counted yet. -/
def returned (g : Nat) (p : Payload) (w : World) : World :=
  w.setContent g (brought p w.now (w.graphic g).toContent)

/-- A graphic was brought back with a payload, whose size is counted now. -/
def Restored (g : Nat) (p : Payload) (w v : World) : Prop :=
  Shifted g (brought p w.now (w.graphic g).toContent)
    ((w.manager (w.graphic g).manager).used + p.size) w v

namespace Filled

theorem made (h : Filled g p w) : g < w.graphics.size := by
  obtain ⟨file, backing, -⟩ := h.readable
  exact made_of_file backing

theorem recover (h : Filled g p w) (id : Nat) : (w.graphic g).recover id = .ok p := by
  obtain ⟨file, backing, read⟩ := h.readable
  unfold Content.recover
  rw [backing]
  dsimp only
  rw [read]
  rfl

theorem swapIn (h : Filled g p w) :
    swapIn g w = (Accounting.announceIn (w.graphic g).manager p.size >>= fun _ =>
      pure (.ok true)) (returned g p w) := by
  obtain ⟨file, backing, -⟩ := h.readable
  refine swapIn_of_some ?_
  unfold Content.restore
  rw [if_pos h.stored.out, h.recover, backing]
  rfl

/-- The payload comes back, and another attempt finds it there. -/
theorem swapIn_of_fits (h : Filled g p w)
    (fits : Amount.fits ((w.manager (w.graphic g).manager).used + p.size) = true) :
    ∃ v, Swapping.swapIn g w = .ok (.ok true) v ∧ Restored g p w v ∧
      Swapping.swapIn g v = .ok (.ok false) v := by
  have told : Accounting.announceIn (w.graphic g).manager p.size (returned g p w) = .ok () _ :=
    Accounting.credit_of_fits fits
  have restored : Restored g p w ((returned g p w).updateManager (w.graphic g).manager
      (·.setUsed ((w.manager (w.graphic g).manager).used + p.size))) :=
    shifted h.made h.there _ _
  refine ⟨_, h.swapIn.trans (bind_of_ok told), restored, swapIn_of_inside ?_⟩
  exact congrArg (fun x : Graphic => x.swappedOut) restored.graphic

/-- It comes back before its manager halts over a count that is no amount. -/
theorem swapIn_of_overflow (h : Filled g p w)
    (beyond : Amount.fits ((w.manager (w.graphic g).manager).used + p.size) = false) :
    Swapping.swapIn g w = .error (.overflow .add) (returned g p w) :=
  h.swapIn.trans (bind_of_error (Accounting.credit_of_overflow beyond))

end Filled

/-- Filling the file of a damaged graphic with the bytes of a payload makes it readable, whatever
follows them. -/
theorem Damaged.fill {e : DecodeError} (h : Damaged g e w)
    (there : (w.graphic g).manager < w.managers.size) (fits : p.Fits) {data : ByteArray}
    {rest : List UInt8} (holds : data.data.toList = (encode p).data.toList ++ rest) :
    ∃ v, Script.changeFile g (·.fill data) w = .ok .nothing v ∧ Filled g p v := by
  obtain ⟨file, backing, -⟩ := h.unreadable
  have filled : Script.changeFile g (·.fill data) w = .ok .nothing
      (w.updateGraphic g fun x => { x with backing := .file (file.fill data) }) := by
    unfold Script.changeFile Script.withFile
    rw [get_bind_apply, Content.swapFile?_eq_some.2 backing]
    rfl
  have graphic := w.graphic_updateGraphic_self
    (f := fun x => { x with backing := .file (file.fill data) }) g h.made
  refine ⟨_, filled, ?_, ?_, ?_⟩
  · rw [graphic]
    exact ⟨h.stored.payload, h.stored.out, h.stored.external, nofun⟩
  · rw [graphic]
    exact ⟨_, rfl, (decode_iff _ p).2 ⟨fits, rest, holds⟩⟩
  · rw [graphic]
    exact there

/-! ## Attempts -/

/-- An attempt to get at the payload of a graphic, with what it leaves of the world. -/
inductive Attempt (g : Nat) (w : World) : World → Prop
  | swapIn : Attempt g w (left (swapIn g) w)
  | use {α : Type} (body : Payload → Effect α) : Attempt g w (left (use g body) w)
  | copy (ask : ObjectRef → Effect Unit) (m : Nat) : Attempt g w (left (copy ask m g) w)

/-- No attempt gets at the payload, and none changes anything but a reading, which notes the time of
use. What was to be done with the payload is not done. -/
structure Fails (g : Nat) (e : DecodeError) (w : World) : Prop where
  swapIn : swapIn g w = .ok (.error (.undecodable e)) w
  use : ∀ {α : Type} (body : Payload → Effect α), use g body w =
    .ok (.error (.undecodable e)) (w.updateGraphic g fun x => { x with lastUsed := w.now })
  copy : ∀ ask m, copy ask m g w = .ok (.error (.undecodable e)) w

/-- Swapping in brings a graphic back with a payload, and does so once; it halts only over a count
that is no amount. -/
structure ComesBack (g : Nat) (p : Payload) (w : World) : Prop where
  once : Amount.fits ((w.manager (w.graphic g).manager).used + p.size) = true →
    ∃ v, swapIn g w = .ok (.ok true) v ∧ Restored g p w v ∧ swapIn g v = .ok (.ok false) v
  halts : Amount.fits ((w.manager (w.graphic g).manager).used + p.size) = false →
    ∃ v, swapIn g w = .error (.overflow .add) v

theorem Damaged.fails {e : DecodeError} (h : Damaged g e w) : Fails g e w :=
  ⟨h.swapIn, h.use, h.copy⟩

theorem Filled.comesBack (h : Filled g p w) : ComesBack g p w :=
  ⟨h.swapIn_of_fits, fun beyond => ⟨_, h.swapIn_of_overflow beyond⟩⟩

/-- An attempt leaves a damaged graphic as it is, or notes its use. -/
theorem Damaged.attempt {e : DecodeError} (h : Damaged g e w) (attempt : Attempt g w v) :
    v = w ∨ v = w.updateGraphic g fun x => { x with lastUsed := w.now } := by
  cases attempt with
  | swapIn => exact .inl (left_of_ok h.swapIn)
  | use body => exact .inr (left_of_ok (h.use body))
  | copy ask m => exact .inl (left_of_ok (h.copy ask m))

/-- So do any number of them. -/
theorem Damaged.attempts {e : DecodeError} (h : Damaged g e w)
    (attempts : Relation.ReflTransGen (Attempt g) w v) :
    v = w ∨ v = w.updateGraphic g fun x => { x with lastUsed := w.now } := by
  induction attempts with
  | refl => exact .inl rfl
  | tail _ attempt ih =>
    rcases ih with rfl | rfl
    · exact h.attempt attempt
    · rcases (h.busy fun _ => rfl).attempt attempt with same | again
      · exact .inr same
      · exact .inr (again.trans (World.updateGraphic_updateGraphic _ _ _ _))

/-! ## The result -/

/-- A failed restore changes nothing and can be retried. In every state of every run, if the swap
file of a graphic holds no payload, then swapping in, reading and copying fail over it, after any
number of attempts that have failed before; nothing is done with a payload, and nothing changes but
the time of use, which a reading notes. Once the bytes of a payload are in the file, with anything
behind them, swapping in brings back exactly that payload and counts its size once. It halts only if
the count is no amount then. -/
theorem failed_restores_can_be_retried (reached : Reached environment acts c) {file : SwapFile}
    (backing : (c.world.graphic g).backing = .file file) :
    (∀ e, file.read = .error e → ∀ w, Relation.ReflTransGen (Attempt g) c.world w →
      Fails g e w ∧
        (w = c.world ∨ w = c.world.updateGraphic g fun x => { x with lastUsed := c.world.now }) ∧
        ∀ (p : Payload) (data : ByteArray) rest, p.Fits →
          data.data.toList = (encode p).data.toList ++ rest →
            ∃ v, Script.changeFile g (·.fill data) w = .ok .nothing v ∧ ComesBack g p v) ∧
    ∀ (p : Payload) rest, p.Fits →
      file.contents.data.toList = (encode p).data.toList ++ rest → ComesBack g p c.world := by
  have stored : (c.world.graphic g).Stored := (reached.allShaped g).stored_of_file backing
  have made := made_of_file backing
  have there := reached.orderly.world.manager_there made
  constructor
  · intro e unreadable w attempts
    have damaged : Damaged g e c.world := ⟨stored, file, backing, unreadable⟩
    have left := damaged.attempts attempts
    obtain ⟨damaged', there'⟩ : Damaged g e w ∧ (w.graphic g).manager < w.managers.size := by
      rcases left with rfl | rfl
      · exact ⟨damaged, there⟩
      · refine ⟨damaged.busy fun _ => rfl, ?_⟩
        rw [World.graphic_updateGraphic_self _ _ made]
        exact there
    refine ⟨damaged'.fails, left, fun p data rest fits holds => ?_⟩
    obtain ⟨v, filled, readable⟩ := damaged'.fill there' fits holds
    exact ⟨v, filled, readable.comesBack⟩
  · intro p rest fits holds
    have read : file.read = .ok p := (decode_iff _ p).2 ⟨fits, rest, holds⟩
    exact Filled.comesBack ⟨stored, ⟨file, backing, read⟩, there⟩

/-- The bytes of a bitmap, with one more behind them. -/
def storedBitmap : ByteArray :=
  ⟨#[0, 0, 0, 0, 1, 0, 0, 0, 1, 0, 0, 0, 8, 0, 1, 0, 0, 0, 0, 0, 0, 0, 7, 9]⟩

/-- A bitmap whose file was overwritten is read in vain, and comes back when its bytes are there
again. -/
theorem damaged_bitmap_comes_back :
    ∃ acts c e, Reached [] acts c ∧ (c.world.graphic 0).swappedOut = true ∧ Fails 0 e c.world ∧
      ∃ v, Script.changeFile 0 (·.fill storedBitmap) (left (use 0 pure) c.world) = .ok .nothing v ∧
        ComesBack 0 (.bitmap ⟨1, 1, 8, ⟨#[7]⟩⟩) v := by
  have managed := (reached_start []).next (.op (o := .addManager .builtIn false) rfl trivial rfl)
  have made := managed.next (.make (m := 0) (o := .payload (.bitmap ⟨1, 1, 8, ⟨#[7]⟩⟩))
    rfl (by decide) (by rintro p ⟨⟩; decide) rfl)
  have bound := (made.next (.settle rfl)).next
    (.op (o := .bind "picture" (.graphic 0) 1) rfl (.inr (by decide)) rfl)
  have out := bound.next (.op (o := .swapOut 0) rfl rfl rfl)
  have damaged := out.next (.op (o := .alterFile 0 (·.fill ⟨#[1]⟩)) rfl rfl rfl)
  have retried := (failed_restores_can_be_retried damaged (g := 0) rfl).1 _ rfl
  obtain ⟨fails, -⟩ := retried _ .refl
  obtain ⟨-, -, fills⟩ := retried _ (.single (.use pure))
  exact ⟨_, _, _, damaged, rfl, fails, fills _ storedBitmap [9] (by decide) (by decide +kernel)⟩

/-- Next to an object of the largest size a bitmap does not come back, since its size does not fit
the count any more. -/
theorem retry_can_halt :
    ¬ ∀ (environment : Names String) (acts : List Action) (c : State),
      Reached environment acts c → ∀ g file e, (c.world.graphic g).backing = .file file →
        file.read = .error e → ∀ (p : Payload) (data : ByteArray) rest v, p.Fits →
          data.data.toList = (encode p).data.toList ++ rest →
            Script.changeFile g (·.fill data) c.world = .ok .nothing v →
              ∃ v', swapIn g v = .ok (.ok true) v' := by
  intro claim
  have managed := (reached_start []).next
    (.op (o := .addManager { Config.builtIn with swapEnabled := false } false) rfl trivial rfl)
  have made := managed.next (.make (m := 0) (o := .payload (.bitmap ⟨1, 1, 8, ⟨#[7]⟩⟩))
    rfl (by decide) (by rintro p ⟨⟩; decide) rfl)
  have bound := (made.next (.settle rfl)).next
    (.op (o := .bind "picture" (.graphic 0) 1) rfl (.inr (by decide)) rfl)
  have out := bound.next (.op (o := .swapOut 0) rfl rfl rfl)
  have arranged := out.next
    (.op (o := .arrange fun w => { w with objects := w.objects.push hugeObject })
      rfl (World.rearranged_push (x := hugeObject) _ trivial _) rfl)
  have settled := (arranged.next (.enlist (m := 0) (o := 0) rfl (by decide) rfl)).next (.settle rfl)
  have damaged := settled.next (.op (o := .alterFile 0 (·.fill ⟨#[1]⟩)) rfl rfl rfl)
  obtain ⟨v, back⟩ := claim [] _ _ damaged 0 _ _ rfl rfl (.bitmap ⟨1, 1, 8, ⟨#[7]⟩⟩) storedBitmap
    [9] _ (by decide) (by decide +kernel) rfl
  cases back

end GraphicCache.Run
