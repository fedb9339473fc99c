/-
How long a swap file is. The size of a payload counts its buffers, and the writer puts something of
fixed width around each of them; what that comes to follows from the shape of the payload, the
number of its frames and whether it has a page, and from nothing that is in its buffers. The two are
computed by recursions that have nothing to do with each other, one over the payload in memory and
one over the bytes that are written.
-/
import GraphicCache.Proofs.SwapFile.RoundTrip

namespace GraphicCache

/-- What a payload takes in its swap file beside its buffers. -/
def Payload.header : Payload → Nat
  | .bitmap _ => 22
  | .animation a => 16 + 18 * a.frames.length
  | .vector v => if v.page.isSome then 21 else 17
  | .metafile _ => 20
  | .encoded _ => 16

theorem Payload.header_pos (p : Payload) : 0 < p.header := by
  cases p with
  | bitmap | metafile | encoded => exact Nat.succ_pos _
  | animation a => exact Nat.lt_of_lt_of_le (by decide) (Nat.le_add_right 16 _)
  | vector v =>
    unfold header
    dsimp only
    split <;> decide

namespace SwapFile

/-! ## Parts -/

@[simp] theorem length_littleEndian (count n : Nat) : (littleEndian count n).length = count := by
  induction count generalizing n with
  | zero => rfl
  | succ count ih => simp [littleEndian, ih]

@[simp] theorem length_bufferBytes (b : ByteArray) : (bufferBytes b).length = b.size + 8 := by
  rw [bufferBytes, List.length_append, length_littleEndian, Array.length_toList]
  exact Nat.add_comm 8 b.size

@[simp] theorem length_pageBytes (page : Option Int32) :
    (pageBytes page).length = if page.isSome then 5 else 1 := by
  cases page <;> simp [pageBytes]

@[simp] theorem length_bitmapBytes (b : Bitmap) : (bitmapBytes b).length = b.pixels.size + 18 := by
  simp only [bitmapBytes, List.length_append, length_littleEndian, length_bufferBytes]
  omega

/-- Frames stand one after the other, and so do their pixels. -/
theorem length_frames (a : Animation) :
    (a.frames.flatMap bitmapBytes).length = a.size + 18 * a.frames.length := by
  obtain ⟨frames, loopCount⟩ := a
  induction frames with
  | nil => rfl
  | cons frame frames ih =>
    have size : (Animation.mk (frame :: frames) loopCount).size =
        frame.pixels.size + (Animation.mk frames loopCount).size := rfl
    rw [List.flatMap_cons, List.length_append, length_bitmapBytes, ih, size]
    dsimp only
    rw [List.length_cons]
    omega

/-! ## Payloads -/

/-- The number of the shape takes four bytes of the header. -/
theorem length_payloadBytes (p : Payload) : (payloadBytes p).length + 4 = p.size + p.header := by
  cases p with
  | bitmap b =>
    simp only [payloadBytes, length_bitmapBytes, Payload.size, Payload.header]
  | animation a =>
    simp only [payloadBytes, List.length_append, length_littleEndian, length_frames,
      Payload.size, Payload.header]
    omega
  | vector v =>
    simp only [payloadBytes, List.length_append, length_littleEndian, length_bufferBytes,
      length_pageBytes, Payload.size, Payload.header]
    split <;> omega
  | metafile m =>
    simp only [payloadBytes, List.length_append, length_littleEndian, length_bufferBytes,
      Payload.size, Payload.header]
    omega
  | encoded i =>
    simp only [payloadBytes, List.length_append, length_littleEndian, length_bufferBytes,
      Payload.size, Payload.header]
    omega

theorem size_encode (p : Payload) : (encode p).size = p.size + p.header := by
  have written : (encode p).size = (encode p).data.toList.length := Array.length_toList.symm
  rw [written, data_encode, List.length_append, length_littleEndian, ← length_payloadBytes p]
  exact Nat.add_comm 4 _

end SwapFile

end GraphicCache
