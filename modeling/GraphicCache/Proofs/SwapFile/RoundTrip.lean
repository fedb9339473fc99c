/-
Reading a swap file gives back the payload that was written to it, whatever follows it in the file.
The writer puts the lengths of buffers into eight bytes, so every length has to fit them; in memory
no buffer is longer.

The proof goes along the reader: `Takes r bytes a` says that `r` takes `a` off the front of whatever
begins with `bytes`, and readers in a row take the bytes of the one before those of the other.
-/
import GraphicCache.SwapFile
import Mathlib.Algebra.Order.Ring.Int

namespace GraphicCache

/-! ## Lengths that fit -/

/-- The buffers of a payload and the list of its frames have lengths of 64 bits. -/
def Payload.Fits : Payload → Prop
  | .bitmap b => b.pixels.size < UInt64.size
  | .animation a =>
    a.frames.length < UInt64.size ∧ ∀ f ∈ a.frames, f.pixels.size < UInt64.size
  | .vector v => v.source.size < UInt64.size
  | .metafile m => m.actions.size < UInt64.size
  | .encoded i => i.data.size < UInt64.size

instance decidableFits (p : Payload) : Decidable p.Fits :=
  match p with
  | .bitmap b => inferInstanceAs (Decidable (b.pixels.size < UInt64.size))
  | .animation a => inferInstanceAs (Decidable
      (a.frames.length < UInt64.size ∧ ∀ f ∈ a.frames, f.pixels.size < UInt64.size))
  | .vector v => inferInstanceAs (Decidable (v.source.size < UInt64.size))
  | .metafile m => inferInstanceAs (Decidable (m.actions.size < UInt64.size))
  | .encoded i => inferInstanceAs (Decidable (i.data.size < UInt64.size))

namespace SwapFile

variable {α β : Type}

/-! ## Readers in a row -/

/-- The reader takes `a` off the front of bytes that begin like this, and leaves what follows. -/
def Takes (r : Reader α) (bytes : List UInt8) (a : α) : Prop :=
  ∀ rest, r (bytes ++ rest) = .ok (a, rest)

theorem takes_pure (a : α) : Takes (pure a) [] a := fun _ => rfl

theorem Takes.bind {r : Reader α} {f : α → Reader β} {bytes bytes' : List UInt8} {a : α} {b : β}
    (h : Takes r bytes a) (hf : Takes (f a) bytes' b) : Takes (r >>= f) (bytes ++ bytes') b := by
  intro rest
  rw [List.append_assoc]
  show (r (bytes ++ (bytes' ++ rest)) >>= fun p => f p.1 p.2) = _
  rw [h]
  exact hf rest

/-- A value that is made of the last one taken takes nothing more. -/
theorem Takes.map {r : Reader α} {bytes : List UInt8} {a : α} (f : α → β) (h : Takes r bytes a) :
    Takes (do return f (← r)) bytes (f a) := by
  have both := h.bind (f := fun x => pure (f x)) (takes_pure (f a))
  rwa [List.append_nil] at both

/-! ## Numbers and buffers -/

theorem takes_byte (b : UInt8) : Takes readByte [b] b := fun _ => rfl

theorem takes_number (count n : Nat) (h : n < 256 ^ count) :
    Takes (readNumber count) (littleEndian count n) n := by
  induction count generalizing n with
  | zero =>
    have none : n = 0 := by simpa using h
    rw [none]
    exact takes_pure 0
  | succ count ih =>
    have high : n / 256 < 256 ^ count := by
      rw [Nat.pow_succ] at h
      omega
    have low : (UInt8.ofNat (n % 256)).toNat = n % 256 := by simp
    have whole : (UInt8.ofNat (n % 256)).toNat + 256 * (n / 256) = n := by omega
    have taken := (takes_byte (UInt8.ofNat (n % 256))).bind (f := fun low => do
      let high ← readNumber count
      return low.toNat + 256 * high) ((ih (n / 256) high).map _)
    rw [whole] at taken
    exact taken

theorem takes_exactly (b : ByteArray) : Takes (readExactly b.size) b.data.toList b := by
  intro rest
  have length : b.data.toList.length = b.size := Array.length_toList
  unfold readExactly
  rw [List.splitAt_eq, List.take_left' length, List.drop_left' length]
  simp [length]

/-- A buffer after its length. -/
def bufferBytes (b : ByteArray) : List UInt8 := littleEndian 8 b.size ++ b.data.toList

theorem takes_bytes (b : ByteArray) (h : b.size < UInt64.size) :
    Takes readBytes (bufferBytes b) b :=
  (takes_number 8 b.size h).bind (takes_exactly b)

/-- A page number that may be missing. -/
def pageBytes : Option Int32 → List UInt8
  | none => littleEndian 1 0
  | some page => littleEndian 1 1 ++ littleEndian 4 page.toUInt32.toNat

theorem takes_page (page : Option Int32) : Takes readPage (pageBytes page) page := by
  cases page with
  | none => exact fun _ => rfl
  | some page =>
    have restored : (⟨UInt32.ofNat page.toUInt32.toNat⟩ : Int32) = page := by
      rw [UInt32.ofNat_toNat]
    have number := takes_number 4 page.toUInt32.toNat page.toUInt32.toNat_lt
    have taken := (takes_byte 1).bind (f := fun _ => do
      let n ← readNumber 4
      return some (⟨UInt32.ofNat n⟩ : Int32)) (number.map _)
    rw [restored] at taken
    exact taken

theorem takes_variant {variants : List α} {index : Nat} {v : α} (h : variants[index]? = some v)
    (small : index < 256 ^ 4) : Takes (readVariant variants) (littleEndian 4 index) v := by
  have picked : Takes (pickVariant variants index) [] v := by
    unfold pickVariant
    rw [h]
    exact takes_pure v
  have taken := (takes_number 4 index small).bind picked
  rwa [List.append_nil] at taken

/-! ## Payloads -/

def bitmapBytes (b : Bitmap) : List UInt8 :=
  littleEndian 4 b.width.toNat ++ (littleEndian 4 b.height.toNat ++
    (littleEndian 2 b.bitsPerPixel.toNat ++ bufferBytes b.pixels))

theorem takes_bitmap (b : Bitmap) (h : b.pixels.size < UInt64.size) :
    Takes readBitmap (bitmapBytes b) b := by
  have taken := (takes_number 4 b.width.toNat b.width.toNat_lt).bind (f := fun width => do
    let height ← readNumber 4
    let bitsPerPixel ← readNumber 2
    let pixels ← readBytes
    return (⟨UInt32.ofNat width, UInt32.ofNat height, UInt16.ofNat bitsPerPixel, pixels⟩ : Bitmap))
    ((takes_number 4 b.height.toNat b.height.toNat_lt).bind
      ((takes_number 2 b.bitsPerPixel.toNat b.bitsPerPixel.toNat_lt).bind
        ((takes_bytes b.pixels h).map _)))
  rw [UInt32.ofNat_toNat, UInt32.ofNat_toNat, UInt16.ofNat_toNat] at taken
  exact taken

theorem takes_bitmaps (frames : List Bitmap) (h : ∀ f ∈ frames, f.pixels.size < UInt64.size) :
    Takes (readBitmaps frames.length) (frames.flatMap bitmapBytes) frames := by
  induction frames with
  | nil => exact takes_pure []
  | cons frame frames ih =>
    have first := takes_bitmap frame (h frame (by simp))
    have others := ih fun f hf => h f (by simp [hf])
    exact first.bind (others.map _)

def shapeOf : Payload → Shape
  | .bitmap _ => .bitmap
  | .animation _ => .animation
  | .vector _ => .vector
  | .metafile _ => .metafile
  | .encoded _ => .encoded

/-- The bytes of a payload after the number of its shape. -/
def payloadBytes : Payload → List UInt8
  | .bitmap b => bitmapBytes b
  | .animation a =>
    littleEndian 8 a.frames.length ++
      (a.frames.flatMap bitmapBytes ++ littleEndian 4 a.loopCount.toNat)
  | .vector v =>
    littleEndian 4 (vectorIndex v.format) ++ (bufferBytes v.source ++ pageBytes v.page)
  | .metafile m =>
    littleEndian 4 m.width.toNat ++ (littleEndian 4 m.height.toNat ++ bufferBytes m.actions)
  | .encoded i => littleEndian 4 (linkIndex i.format) ++ bufferBytes i.data

theorem takes_shape (s : Shape) :
    Takes (readVariant Shape.all) (littleEndian 4 (Shape.all.idxOf s)) s := by
  have listed : Shape.all[Shape.all.idxOf s]? = some s := by cases s <;> rfl
  have small : Shape.all.idxOf s < 256 ^ 4 := by cases s <;> decide
  exact takes_variant listed small

theorem takes_vectorFormat (f : VectorFormat) :
    Takes (readVariant VectorFormat.all) (littleEndian 4 (vectorIndex f)) f := by
  have listed : VectorFormat.all[vectorIndex f]? = some f := by cases f <;> rfl
  have small : vectorIndex f < 256 ^ 4 := by cases f <;> decide
  exact takes_variant listed small

theorem takes_linkFormat (f : LinkFormat) :
    Takes (readVariant LinkFormat.all) (littleEndian 4 (linkIndex f)) f := by
  have listed : LinkFormat.all[linkIndex f]? = some f := by cases f <;> rfl
  have small : linkIndex f < 256 ^ 4 := by cases f <;> decide
  exact takes_variant listed small

/-- What follows the number of the shape is taken as the payload. -/
theorem takes_content (p : Payload) (h : p.Fits) :
    Takes (readShape (shapeOf p)) (payloadBytes p) p := by
  cases p with
  | bitmap b => exact (takes_bitmap b h).map _
  | animation a =>
    have loops := takes_number 4 a.loopCount.toNat a.loopCount.toNat_lt
    have taken := (takes_number 8 a.frames.length h.1).bind (f := fun count => do
      let frames ← readBitmaps count
      let loopCount ← readNumber 4
      return Payload.animation ⟨frames, UInt32.ofNat loopCount⟩)
      ((takes_bitmaps a.frames h.2).bind (loops.map _))
    rw [UInt32.ofNat_toNat] at taken
    exact taken
  | vector v =>
    exact (takes_vectorFormat v.format).bind
      ((takes_bytes v.source h).bind ((takes_page v.page).map _))
  | metafile m =>
    have taken := (takes_number 4 m.width.toNat m.width.toNat_lt).bind (f := fun width => do
      let height ← readNumber 4
      let actions ← readBytes
      return Payload.metafile ⟨UInt32.ofNat width, UInt32.ofNat height, actions⟩)
      ((takes_number 4 m.height.toNat m.height.toNat_lt).bind ((takes_bytes m.actions h).map _))
    rw [UInt32.ofNat_toNat, UInt32.ofNat_toNat] at taken
    exact taken
  | encoded i =>
    exact (takes_linkFormat i.format).bind ((takes_bytes i.data h).map _)

/-! ## What the writer wrote -/

@[simp] theorem data_writeNumber (count n : Nat) :
    (writeNumber count n).data.toList = littleEndian count n := rfl

@[simp] theorem data_addBytes (written b : ByteArray) :
    (addBytes written b).data.toList = written.data.toList ++ bufferBytes b := by
  simp [addBytes, bufferBytes]

@[simp] theorem data_addPage (written : ByteArray) (page : Option Int32) :
    (addPage written page).data.toList = written.data.toList ++ pageBytes page := by
  cases page <;> simp [addPage, pageBytes]

@[simp] theorem data_addBitmap (written : ByteArray) (b : Bitmap) :
    (addBitmap written b).data.toList = written.data.toList ++ bitmapBytes b := by
  simp [addBitmap, bitmapBytes]

theorem data_addBitmaps (written : ByteArray) (frames : List Bitmap) :
    (frames.foldl addBitmap written).data.toList =
      written.data.toList ++ frames.flatMap bitmapBytes := by
  induction frames generalizing written with
  | nil => simp
  | cons frame frames ih => rw [List.foldl_cons, ih]; simp

theorem data_encode (p : Payload) :
    (encode p).data.toList =
      littleEndian 4 (Shape.all.idxOf (shapeOf p)) ++ payloadBytes p := by
  cases p <;> simp [encode, shapeOf, payloadBytes, data_addBitmaps] <;> rfl

/-! ## The round trip -/

theorem takes_payload (p : Payload) (h : p.Fits) :
    Takes readPayload (encode p).data.toList p := by
  rw [data_encode]
  exact (takes_shape (shapeOf p)).bind (takes_content p h)

/-- A file that nobody altered holds the payload that was written to it. -/
theorem read_write (p : Payload) (h : p.Fits) : (write p).read = .ok p := by
  have taken := takes_payload p h []
  rw [List.append_nil] at taken
  unfold read decode write
  rw [taken]
  rfl

end SwapFile

end GraphicCache
