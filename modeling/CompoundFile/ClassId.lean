import CompoundFile.Bytes
import CompoundFile.Text.Hex

/-!
# Class identifiers

A class identifier is sixteen bytes. Its text groups them `4-2-2-2-6`; the first three groups are
little-endian words, the others are bytes in order.
-/

namespace CompoundFile

/-- A class identifier: sixteen bytes, in file order. -/
structure ClassId where
  bytes : Vector UInt8 16
  deriving DecidableEq, Repr

namespace ClassId

/-- The class identifier at an offset of a byte string. -/
def read (b : ByteArray) (offset : Nat) : ClassId :=
  ⟨Vector.ofFn fun i => Bytes.byteAt b (offset + i)⟩

/-- The identifier of nothing: all bytes zero. -/
def isNil (c : ClassId) : Bool := c.bytes.all (· == 0)

/-- The bytes from `first` on, `length` of them, as a list. -/
def part (c : ClassId) (first length : Nat) : List UInt8 := (c.bytes.toList.drop first).take length

/-- The text of a class identifier, in upper-case hexadecimal. -/
def toText (c : ClassId) : String :=
  let word (first length : Nat) := Text.upperHex (2 * length) (Bytes.ofLE (c.part first length))
  let plain (first length : Nat) :=
    String.join ((c.part first length).map fun b => Text.upperHex 2 b.toNat)
  String.intercalate "-" [word 0 4, word 4 2, word 6 2, plain 8 2, plain 10 6]

end ClassId

end CompoundFile
