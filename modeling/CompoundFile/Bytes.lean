/-!
# Byte strings and little-endian words

A byte string is a `ByteArray`. Two views of it are used throughout.

**Padded.** `byteAt b i` is byte `i`, or zero past the end, so a field of a cut-off block reads as
if the block were padded with zeros. `word16`, `word32` and `word64` read little-endian words
in this view, and `padTo` makes the padding real.

**Checked.** `slice? b offset length` is the part of `b` that starts at `offset`, and nothing
when any byte of it is missing.

Words are natural numbers written in base 256, least digit first: `toLE` writes and `ofLE` reads.
-/

namespace CompoundFile.Bytes

/-! ## Little-endian numerals -/

/-- The number whose base-256 digits, least first, are the given bytes. -/
def ofLE : List UInt8 → Nat
  | [] => 0
  | b :: bs => b.toNat + 256 * ofLE bs

/-- The `w` lowest base-256 digits of a number, least first. -/
def toLE : Nat → Nat → List UInt8
  | 0, _ => []
  | w + 1, n => UInt8.ofNat n :: toLE w (n / 256)

@[simp] theorem length_toLE (w n : Nat) : (toLE w n).length = w := by
  induction w generalizing n with
  | zero => rfl
  | succ w ih => simp [toLE, ih]

/-! ## The padded view -/

/-- The byte at an offset, zero past the end. -/
def byteAt (b : ByteArray) (i : Nat) : UInt8 :=
  if h : i < b.size then b[i] else 0

/-- The `length` bytes from `offset` on, padded with zeros. -/
def window (b : ByteArray) (offset length : Nat) : List UInt8 :=
  (List.range length).map fun i => byteAt b (offset + i)

@[simp] theorem length_window (b : ByteArray) (offset length : Nat) :
    (window b offset length).length = length := by
  simp [window]

/-- The little-endian 16-bit word at an offset. -/
def word16 (b : ByteArray) (offset : Nat) : UInt16 := UInt16.ofNat (ofLE (window b offset 2))

/-- The little-endian 32-bit word at an offset. -/
def word32 (b : ByteArray) (offset : Nat) : UInt32 := UInt32.ofNat (ofLE (window b offset 4))

/-- The little-endian 64-bit word at an offset. -/
def word64 (b : ByteArray) (offset : Nat) : UInt64 := UInt64.ofNat (ofLE (window b offset 8))

/-- The little-endian 32-bit words of a block, one for every four whole bytes. -/
def words32 (b : ByteArray) : Array UInt32 :=
  (Array.range (b.size / 4)).map fun i => word32 b (4 * i)

@[simp] theorem size_words32 (b : ByteArray) : (words32 b).size = b.size / 4 := by
  simp [words32]

/-- A run of equal bytes. -/
def replicate (length : Nat) (byte : UInt8) : ByteArray := ⟨Array.replicate length byte⟩

@[simp] theorem size_replicate (length : Nat) (byte : UInt8) :
    (replicate length byte).size = length := by
  simp [replicate, ByteArray.size]

/-- A byte string lengthened with zeros to at least `size` bytes. -/
def padTo (size : Nat) (b : ByteArray) : ByteArray := b ++ replicate (size - b.size) 0

theorem size_padTo {size : Nat} {b : ByteArray} (h : b.size ≤ size) :
    (padTo size b).size = size := by
  simp [padTo, ByteArray.size_append]
  omega

/-! ## The checked view -/

/-- The `length` bytes from `offset` on, if all of them exist. -/
def slice? (b : ByteArray) (offset length : Nat) : Option ByteArray :=
  if offset + length ≤ b.size then some (b.extract offset (offset + length)) else none

/-- A byte string cut into consecutive pieces of `size` bytes; a shorter rest is dropped. -/
def chunks (size : Nat) (b : ByteArray) : List ByteArray :=
  (List.range (b.size / size)).map fun i => b.extract (size * i) (size * i + size)

@[simp] theorem length_chunks (size : Nat) (b : ByteArray) :
    (chunks size b).length = b.size / size := by
  simp [chunks]

/-- The bytes before the first zero byte. -/
def untilNul (b : ByteArray) : List UInt8 := b.data.toList.takeWhile (· != 0)

end CompoundFile.Bytes
