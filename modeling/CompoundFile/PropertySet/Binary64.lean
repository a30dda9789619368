/-!
# Floating-point numbers by their bits

Property values hold floating-point numbers of 64 and of 32 bits. They are kept as the bits of the
64-bit format, so that every number, and every not-a-number, is told apart from every other.

`widen` turns a 32-bit number into the 64-bit number of the same value. A number below the normal
range of the short format is normal in the long one.
-/

namespace CompoundFile

/-- A floating-point number of 64 bits, given by its bits. -/
structure Binary64 where
  bits : UInt64
  deriving DecidableEq, Repr

namespace Binary64

/-- The number with a sign bit, an exponent field and a fraction field. -/
def ofFields (sign exponent fraction : Nat) : Binary64 :=
  ⟨UInt64.ofNat ((sign <<< 63) + (exponent <<< 52) + fraction)⟩

/-- The exponent field. -/
def exponent (x : Binary64) : Nat := (x.bits.toNat >>> 52) % 0x800

/-- The fraction field. -/
def fraction (x : Binary64) : Nat := x.bits.toNat % 0x10000000000000

/-- Whether the bits stand for no number. -/
def isNaN (x : Binary64) : Bool := x.exponent == 2047 && x.fraction != 0

/-- The 64-bit number with the value of a 32-bit number. -/
def widen (bits : UInt32) : Binary64 :=
  let sign := bits.toNat >>> 31
  let exponent := (bits.toNat >>> 23) % 0x100
  let fraction := bits.toNat % 0x800000
  if exponent = 255 then
    if fraction = 0 then ofFields sign 2047 0
    else ofFields sign 2047 ((1 <<< 51) + ((fraction % 0x400000) <<< 29))
  else if exponent ≠ 0 then ofFields sign (exponent + 896) (fraction <<< 29)
  else if fraction = 0 then ofFields sign 0 0
  else
    let top := fraction.log2
    ofFields sign (top + 874) ((fraction - (1 <<< top)) <<< (52 - top))

example : widen 0x3FC00000 = ⟨0x3FF8000000000000⟩ := by decide +kernel
example : widen 0x00000001 = ⟨0x36A0000000000000⟩ := by decide +kernel

end Binary64

end CompoundFile
