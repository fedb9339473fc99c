/-
Payloads of graphics as plain data: pixel buffers, animations of them, vector sources, recorded
drawing actions and images that are still encoded; and the links they can be materialised from.
The size of a payload counts its buffers only.
-/
import GraphicCache.Buffer

namespace GraphicCache

/-! ## Kinds and formats -/

/-- What a graphic shows. -/
inductive Kind where
  | empty
  | bitmap
  | animation
  | vector
  | metafile
  | externalLink
  deriving DecidableEq, Repr

def Kind.name : Kind → String
  | .empty => "Empty"
  | .bitmap => "Bitmap"
  | .animation => "Animation"
  | .vector => "Vector"
  | .metafile => "Metafile"
  | .externalLink => "ExternalLink"

/-- The formats of vector sources. -/
inductive VectorFormat where
  | svg
  | emf
  | wmf
  | pdf
  deriving DecidableEq, Repr

/-- The formats a link can carry. -/
inductive LinkFormat where
  | png
  | jpeg
  | gif
  | bmp
  | tiff
  | webp
  | svg
  | emf
  | wmf
  | pdf
  deriving DecidableEq, Repr

namespace VectorFormat

/-- Every vector format, in the order of their numbers. -/
def all : List VectorFormat := [.svg, .emf, .wmf, .pdf]

def name : VectorFormat → String
  | .svg => "Svg"
  | .emf => "Emf"
  | .wmf => "Wmf"
  | .pdf => "Pdf"

def ofName? (s : String) : Option VectorFormat := all.find? fun f => f.name == s

end VectorFormat

namespace LinkFormat

/-- Every link format, in the order of their numbers. -/
def all : List LinkFormat := [.png, .jpeg, .gif, .bmp, .tiff, .webp, .svg, .emf, .wmf, .pdf]

def name : LinkFormat → String
  | .png => "Png"
  | .jpeg => "Jpeg"
  | .gif => "Gif"
  | .bmp => "Bmp"
  | .tiff => "Tiff"
  | .webp => "Webp"
  | .svg => "Svg"
  | .emf => "Emf"
  | .wmf => "Wmf"
  | .pdf => "Pdf"

def ofName? (s : String) : Option LinkFormat := all.find? fun f => f.name == s

/-- The vector format a link of this format materialises as, if it does. -/
def vectorFormat? : LinkFormat → Option VectorFormat
  | .svg => some .svg
  | .emf => some .emf
  | .wmf => some .wmf
  | .pdf => some .pdf
  | _ => none

end LinkFormat

/-! ## Payloads -/

/-- A raster image with its uncompressed pixels. -/
structure Bitmap where
  width : UInt32
  height : UInt32
  bitsPerPixel : UInt16
  pixels : ByteArray
  deriving DecidableEq

/-- A sequence of frames; a loop count of 0 never ends. -/
structure Animation where
  frames : List Bitmap
  loopCount : UInt32
  deriving DecidableEq

/-- A vector graphic kept as its source; the page is that of a source with several. -/
structure VectorGraphic where
  format : VectorFormat
  source : ByteArray
  page : Option Int32
  deriving DecidableEq

/-- Recorded drawing actions. -/
structure Metafile where
  width : UInt32
  height : UInt32
  actions : ByteArray
  deriving DecidableEq

/-- A raster image that was not decoded. -/
structure EncodedImage where
  format : LinkFormat
  data : ByteArray
  deriving DecidableEq

/-- The content of a graphic. -/
inductive Payload where
  | bitmap (bitmap : Bitmap)
  | animation (animation : Animation)
  | vector (vector : VectorGraphic)
  | metafile (metafile : Metafile)
  | encoded (image : EncodedImage)
  deriving DecidableEq

def Animation.size (a : Animation) : Nat :=
  a.frames.foldr (fun f total => f.pixels.size + total) 0

namespace Payload

/-- The kind of a payload; an encoded image is a bitmap. -/
def kind : Payload → Kind
  | .bitmap _ => .bitmap
  | .animation _ => .animation
  | .vector _ => .vector
  | .metafile _ => .metafile
  | .encoded _ => .bitmap

/-- The bytes a payload occupies. -/
def size : Payload → Nat
  | .bitmap b => b.pixels.size
  | .animation a => a.size
  | .vector v => v.source.size
  | .metafile m => m.actions.size
  | .encoded i => i.data.size

end Payload

/-! ## Links -/

/-- The encoded bytes a graphic was made from. -/
structure Link where
  format : LinkFormat
  data : ByteArray
  deriving DecidableEq

namespace Link

/-- The kind of the graphic behind a link. -/
def kind (l : Link) : Kind :=
  if l.format.vectorFormat?.isSome then .vector else .bitmap

/-- The payload of a link: a vector source at the page, or else an encoded image. -/
def payload (l : Link) (page : Option Int32) : Payload :=
  match l.format.vectorFormat? with
  | some format => .vector ⟨format, l.data, page⟩
  | none => .encoded ⟨l.format, l.data⟩

/-- Materialising keeps the kind that the link announces. -/
theorem kind_payload (l : Link) (page : Option Int32) : (l.payload page).kind = l.kind := by
  unfold payload kind
  cases l.format.vectorFormat? <;> rfl

end Link

/-! ## Descriptions -/

def Bitmap.describe (b : Bitmap) : String :=
  Text.record "Bitmap" [
    Text.field "width" (toString b.width.toNat),
    Text.field "height" (toString b.height.toNat),
    Text.field "bits_per_pixel" (toString b.bitsPerPixel.toNat),
    Text.field "pixels" (describeBytes b.pixels)]

def Payload.describe : Payload → String
  | .bitmap b => Text.variant "Bitmap" b.describe
  | .animation a => Text.variant "Animation" <| Text.record "Animation" [
      Text.field "frames" (Text.listed (a.frames.map Bitmap.describe)),
      Text.field "loop_count" (toString a.loopCount.toNat)]
  | .vector v => Text.variant "Vector" <| Text.record "VectorGraphicData" [
      Text.field "format" v.format.name,
      Text.field "source" (describeBytes v.source),
      Text.field "page_index" (Text.optional (v.page.map fun p => toString p.toInt))]
  | .metafile m => Text.variant "Metafile" <| Text.record "Metafile" [
      Text.field "width" (toString m.width.toNat),
      Text.field "height" (toString m.height.toNat),
      Text.field "actions" (describeBytes m.actions)]
  | .encoded i => Text.variant "Encoded" <| Text.record "EncodedImage" [
      Text.field "format" i.format.name,
      Text.field "data" (describeBytes i.data)]

end GraphicCache
