/-
Swap files: the stored form of a payload that is out of memory. A file remembers how many bytes
were written at first, whatever happens to its contents from outside afterwards.
-/
import GraphicCache.Payload.Draft
import GraphicCache.SwapFile.Codec

namespace GraphicCache

/-- The file a payload was swapped out to. -/
structure SwapFile where
  contents : ByteArray
  /-- How many bytes were written when the payload was swapped out. -/
  written : Nat
  deriving DecidableEq

namespace SwapFile

def write (p : Payload) : SwapFile :=
  let bytes := encode p
  ⟨bytes, bytes.size⟩

def read (f : SwapFile) : Except DecodeError Payload := decode f.contents.data.toList

/-! ## Changes from outside -/

def fill (f : SwapFile) (data : ByteArray) : SwapFile := { f with contents := data }

/-- Overwrites the contents from an offset on; a gap before it becomes zeros. Without data nothing
changes. -/
def patch (f : SwapFile) (offset : Nat) (data : ByteArray) : SwapFile :=
  if data.size = 0 then f
  else
    let front := f.contents.extract 0 offset
    let back := f.contents.extract (offset + data.size) f.contents.size
    { f with contents := front ++ zeros (offset - front.size) ++ data ++ back }

/-- Cuts the contents to a length, or fills them up to it with zeros. -/
def resize (f : SwapFile) (length : Nat) : SwapFile :=
  let front := f.contents.extract 0 length
  { f with contents := front ++ zeros (length - front.size) }

end SwapFile

end GraphicCache
