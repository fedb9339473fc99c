/-
Byte buffers: buffers of zeros, equality and description. A buffer is its bytes in order, so two of
them are equal when their lists of bytes are.
-/
import GraphicCache.Text.Quoted

namespace GraphicCache

/-! ## Equality -/

/-- Equality of buffers is decided byte for byte. -/
instance decidableEqBuffer : DecidableEq ByteArray := ByteArray.decEq

/-! ## Zeros -/

def blockSize : Nat := 65536

def zeroBlock : ByteArray := ⟨Array.replicate blockSize 0⟩

/-- A buffer with blocks of zeros added to its end. -/
def addBlocks : Nat → ByteArray → ByteArray
  | 0, b => b
  | count + 1, b => addBlocks count (b ++ zeroBlock)

/-- A buffer of zeros, written block by block, so that a large one is made quickly. -/
def zeros (n : Nat) : ByteArray :=
  addBlocks (n / blockSize) (.emptyWithCapacity n) ++ ⟨Array.replicate (n % blockSize) 0⟩

theorem data_addBlocks (count : Nat) (b : ByteArray) :
    (addBlocks count b).data = b.data ++ Array.replicate (count * blockSize) 0 := by
  induction count generalizing b with
  | zero => simp [addBlocks]
  | succ count ih =>
    rw [addBlocks, ih, ByteArray.data_append, Array.append_assoc, zeroBlock,
      Array.replicate_append_replicate, Nat.succ_mul, Nat.add_comm]

/-- A buffer of zeros has the given length and nothing but zeros. -/
theorem zeros_eq (n : Nat) : zeros n = ⟨Array.replicate n 0⟩ := by
  have start : (ByteArray.emptyWithCapacity n).data = #[] := rfl
  apply ByteArray.ext
  rw [zeros, ByteArray.data_append, data_addBlocks, start, Array.empty_append,
    Array.replicate_append_replicate, Nat.mul_comm, Nat.div_add_mod]

theorem size_zeros (n : Nat) : (zeros n).size = n := by
  simp [zeros_eq, ByteArray.size]

/-! ## Description -/

def describeBytes (b : ByteArray) : String :=
  Text.listed (b.data.toList.map fun x => toString x.toNat)

example : describeBytes (zeros 3) = "[0, 0, 0]" := by decide +kernel

end GraphicCache
