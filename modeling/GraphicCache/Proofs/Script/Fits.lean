/-
Scripts whose buffers have lengths of 64 bits, as all buffers in memory do. The payloads that such
a script makes can be written to swap files.
-/
import GraphicCache.Proofs.SwapFile.RoundTrip
import GraphicCache.Script.Step

namespace GraphicCache

/-! ## Drafts -/

/-- The pixels of the draft, if it comes with any, have a length of 64 bits. -/
def BitmapDraft.Fits (d : BitmapDraft) : Prop := ∀ pixels ∈ d.pixels, pixels.size < UInt64.size

/-- The buffers of the draft and the list of its frames have lengths of 64 bits. -/
def Draft.Fits : Draft → Prop
  | .bitmap b => b.Fits
  | .animation frames _ => frames.length < UInt64.size ∧ ∀ f ∈ frames, f.Fits
  | .complete p => p.Fits

theorem built_of_bind {α β : Type} {x : Except Overflow α} {f : α → Except Overflow β} {b : β}
    (h : (x >>= f) = .ok b) : ∃ a, x = .ok a ∧ f a = .ok b := by
  cases x with
  | error e => cases h
  | ok a => exact ⟨a, rfl, h⟩

/-- Zeros that were counted in 64 bits have a length of 64 bits. -/
theorem BitmapDraft.fits_build {d : BitmapDraft} {b : Bitmap} (h : d.Fits)
    (built : d.build = .ok b) : b.pixels.size < UInt64.size := by
  unfold build at built
  cases given : d.pixels with
  | some pixels =>
    rw [given] at built
    cases built
    exact h pixels given
  | none =>
    rw [given] at built
    obtain ⟨pixels, -, built⟩ := built_of_bind built
    obtain ⟨bits, counted, built⟩ := built_of_bind built
    cases built
    unfold mulCount at counted
    split at counted
    · next small =>
      cases counted
      show (zeros _).size < UInt64.size
      rw [size_zeros]
      omega
    · cases counted

theorem fits_frames {frames : List BitmapDraft} {bitmaps : List Bitmap} (h : ∀ f ∈ frames, f.Fits)
    (built : frames.mapM BitmapDraft.build = .ok bitmaps) :
    bitmaps.length = frames.length ∧ ∀ b ∈ bitmaps, b.pixels.size < UInt64.size := by
  induction frames generalizing bitmaps with
  | nil =>
    cases built
    exact ⟨rfl, by simp⟩
  | cons frame frames ih =>
    rw [List.mapM_cons] at built
    obtain ⟨first, builtFirst, built⟩ := built_of_bind built
    obtain ⟨others, builtOthers, built⟩ := built_of_bind built
    cases built
    obtain ⟨length, fits⟩ := ih (fun f hf => h f (List.mem_cons_of_mem frame hf)) builtOthers
    refine ⟨congrArg Nat.succ length, List.forall_mem_cons.2 ⟨?_, fits⟩⟩
    exact BitmapDraft.fits_build (h frame List.mem_cons_self) builtFirst

theorem Draft.fits_build {d : Draft} {p : Payload} (h : d.Fits) (built : d.build = .ok p) :
    p.Fits := by
  cases d with
  | bitmap b =>
    obtain ⟨bitmap, drawn, made⟩ := built_of_bind built
    cases made
    exact BitmapDraft.fits_build h drawn
  | animation frames loopCount =>
    obtain ⟨bitmaps, drawn, made⟩ := built_of_bind built
    cases made
    obtain ⟨length, fits⟩ := fits_frames h.2 drawn
    exact ⟨length ▸ h.1, fits⟩
  | complete p =>
    cases built
    exact h

/-! ## Scripts -/

namespace Script

/-- What goes into the graphic has buffers with lengths of 64 bits. -/
def Maker.Fits : Maker → Prop
  | .payload draft => draft.Fits
  | .link l page => (l.payload page).Fits
  | _ => True

/-- A payload that is given to a graphic has buffers with lengths of 64 bits. -/
def GraphicStep.Fits : GraphicStep → Prop
  | .replace draft => draft.Fits
  | _ => True

mutual

/-- All buffers in an instruction have lengths of 64 bits. -/
def Instruction.Fits : Instruction → Prop
  | .make _ _ maker => maker.Fits
  | .onGraphic _ step => step.Fits
  | .during _ steps => Step.AllFit steps
  | .newObject _ _ hook => Step.AllFit hook
  | _ => True

/-- All buffers in steps have lengths of 64 bits. -/
def Step.AllFit : List Step → Prop
  | [] => True
  | .mk _ instruction :: rest => instruction.Fits ∧ Step.AllFit rest

end

end Script

end GraphicCache
