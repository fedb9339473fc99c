/-
The format of swap files. Numbers are little-endian and of fixed width; a buffer or a list stands
after its length in eight bytes, a variant after its number in four, and a value that may be
missing after a byte that is 0 or 1. Reading goes from left to right, stops at the first thing that
is wrong, and leaves alone whatever follows the payload.
-/
import GraphicCache.Payload

namespace GraphicCache.SwapFile

/-! ## Writing -/

/-- The `count` low bytes of a number, the lowest first. -/
def littleEndian : Nat → Nat → List UInt8
  | 0, _ => []
  | count + 1, n => UInt8.ofNat (n % 256) :: littleEndian count (n / 256)

def writeNumber (count n : Nat) : ByteArray := ⟨(littleEndian count n).toArray⟩

/-- Adds a buffer after its length to what was written before. -/
def addBytes (written b : ByteArray) : ByteArray := written ++ writeNumber 8 b.size ++ b

/-- Adds a page number that may be missing. -/
def addPage (written : ByteArray) : Option Int32 → ByteArray
  | none => written ++ writeNumber 1 0
  | some page => written ++ writeNumber 1 1 ++ writeNumber 4 page.toUInt32.toNat

def addBitmap (written : ByteArray) (b : Bitmap) : ByteArray :=
  addBytes (written ++ writeNumber 4 b.width.toNat ++ writeNumber 4 b.height.toNat ++
    writeNumber 2 b.bitsPerPixel.toNat) b.pixels

def vectorIndex (f : VectorFormat) : Nat := VectorFormat.all.idxOf f

def linkIndex (f : LinkFormat) : Nat := LinkFormat.all.idxOf f

/-- A payload as it stands in its swap file. -/
def encode : Payload → ByteArray
  | .bitmap b => addBitmap (writeNumber 4 0) b
  | .animation a =>
    a.frames.foldl addBitmap (writeNumber 4 1 ++ writeNumber 8 a.frames.length) ++
      writeNumber 4 a.loopCount.toNat
  | .vector v =>
    addPage (addBytes (writeNumber 4 2 ++ writeNumber 4 (vectorIndex v.format)) v.source) v.page
  | .metafile m =>
    addBytes (writeNumber 4 3 ++ writeNumber 4 m.width.toNat ++ writeNumber 4 m.height.toNat)
      m.actions
  | .encoded i => addBytes (writeNumber 4 4 ++ writeNumber 4 (linkIndex i.format)) i.data

example : (encode (.vector ⟨.pdf, .empty, some (-2)⟩)).data.toList =
    [2, 0, 0, 0, 3, 0, 0, 0, 0, 0, 0, 0, 0, 0, 0, 0, 1, 254, 255, 255, 255] := by decide +kernel

/-! ## Reading -/

/-- Why bytes are no payload. -/
inductive DecodeError where
  /-- The data ends too early. -/
  | endOfData
  /-- A variant's number is not below the count of variants. -/
  | badVariant (index count : Nat)
  /-- The byte before a value that may be missing is neither 0 nor 1. -/
  | badTag (tag : Nat)
  deriving DecidableEq, Repr

def DecodeError.message : DecodeError → String
  | .endOfData => "io error: failed to fill whole buffer"
  | .badVariant index count =>
    "invalid value: integer `" ++ toString index ++ "`, expected variant index 0 <= i < " ++
      toString count
  | .badTag tag => "tag for enum is not valid, found " ++ toString tag

/-- A reader takes a value off the front of the bytes. -/
abbrev Reader := StateT (List UInt8) (Except DecodeError)

def readByte : Reader UInt8 := fun
  | [] => .error .endOfData
  | b :: rest => .ok (b, rest)

def readNumber : Nat → Reader Nat
  | 0 => return 0
  | count + 1 => do
    let low ← readByte
    let high ← readNumber count
    return low.toNat + 256 * high

def readExactly (count : Nat) : Reader ByteArray := fun bytes =>
  let (taken, rest) := bytes.splitAt count
  if taken.length = count then .ok (⟨taken.toArray⟩, rest) else .error .endOfData

def readBytes : Reader ByteArray := do
  let count ← readNumber 8
  readExactly count

/-- Takes a page number that may be missing. -/
def readPage : Reader (Option Int32) := do
  let tag ← readByte
  if tag = 0 then return none
  else if tag = 1 then
    let page ← readNumber 4
    return some ⟨UInt32.ofNat page⟩
  else throw (.badTag tag.toNat)

/-- The variant of a number. -/
def pickVariant {α : Type} (variants : List α) (index : Nat) : Reader α :=
  match variants[index]? with
  | some v => return v
  | none => throw (.badVariant index variants.length)

/-- Takes the number of a variant and picks it. -/
def readVariant {α : Type} (variants : List α) : Reader α := do
  let index ← readNumber 4
  pickVariant variants index

def readBitmap : Reader Bitmap := do
  let width ← readNumber 4
  let height ← readNumber 4
  let bitsPerPixel ← readNumber 2
  let pixels ← readBytes
  return ⟨UInt32.ofNat width, UInt32.ofNat height, UInt16.ofNat bitsPerPixel, pixels⟩

def readBitmaps : Nat → Reader (List Bitmap)
  | 0 => return []
  | count + 1 => do
    let frame ← readBitmap
    let frames ← readBitmaps count
    return frame :: frames

/-- The shapes of a payload, in the order of their numbers. -/
inductive Shape where
  | bitmap
  | animation
  | vector
  | metafile
  | encoded
  deriving DecidableEq, Repr

/-- Every shape, in the order of their numbers. -/
def Shape.all : List Shape := [.bitmap, .animation, .vector, .metafile, .encoded]

/-- Takes what follows the number of a shape. -/
def readShape : Shape → Reader Payload
  | .bitmap => return .bitmap (← readBitmap)
  | .animation => do
    let count ← readNumber 8
    let frames ← readBitmaps count
    let loopCount ← readNumber 4
    return .animation ⟨frames, UInt32.ofNat loopCount⟩
  | .vector => do
    let format ← readVariant VectorFormat.all
    let source ← readBytes
    let page ← readPage
    return .vector ⟨format, source, page⟩
  | .metafile => do
    let width ← readNumber 4
    let height ← readNumber 4
    let actions ← readBytes
    return .metafile ⟨UInt32.ofNat width, UInt32.ofNat height, actions⟩
  | .encoded => do
    let format ← readVariant LinkFormat.all
    let data ← readBytes
    return .encoded ⟨format, data⟩

def readPayload : Reader Payload := do
  let shape ← readVariant Shape.all
  readShape shape

/-- The payload at the front of the bytes. -/
def decode (bytes : List UInt8) : Except DecodeError Payload :=
  (readPayload bytes).map (·.1)

end GraphicCache.SwapFile
