/-
Payloads still to be made: a bitmap may be given by its geometry alone and is then filled with
zeros. The number of its bits has to fit 64 bits, counted in two steps, pixels first.
-/
import GraphicCache.Amount
import GraphicCache.Payload

namespace GraphicCache

/-- A bitmap of the given geometry, filled with zeros, its last byte perhaps used in part. -/
def Bitmap.zeroed (width height : UInt32) (bitsPerPixel : UInt16) : Except Overflow Bitmap := do
  let pixels ← mulCount width.toNat height.toNat
  let bits ← mulCount pixels bitsPerPixel.toNat
  return ⟨width, height, bitsPerPixel, zeros ((bits + 7) / 8)⟩

/-- A bitmap to be made, with its pixels or of zeros. -/
structure BitmapDraft where
  width : UInt32
  height : UInt32
  bitsPerPixel : UInt16
  pixels : Option ByteArray

def BitmapDraft.build (d : BitmapDraft) : Except Overflow Bitmap :=
  match d.pixels with
  | some pixels => .ok ⟨d.width, d.height, d.bitsPerPixel, pixels⟩
  | none => Bitmap.zeroed d.width d.height d.bitsPerPixel

/-- A payload to be made. -/
inductive Draft where
  | bitmap (bitmap : BitmapDraft)
  | animation (frames : List BitmapDraft) (loopCount : UInt32)
  | complete (payload : Payload)

/-- Makes the payload, frames in order. -/
def Draft.build : Draft → Except Overflow Payload
  | .bitmap b => do return .bitmap (← b.build)
  | .animation frames loopCount => do return .animation ⟨← frames.mapM BitmapDraft.build, loopCount⟩
  | .complete p => .ok p

end GraphicCache
