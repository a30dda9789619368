/-!
# Hexadecimal numerals

Numbers written in base 16, in a least number of digits, in lower or upper case.
-/

namespace CompoundFile.Text

/-- The text moved right with zeros to at least `width` characters. -/
def zeroPadded (width : Nat) (digits : List Char) : String :=
  String.ofList (List.replicate (width - digits.length) '0' ++ digits)

/-- A number in base 16 with lower-case letters and at least `width` digits. -/
def hex (width n : Nat) : String := zeroPadded width (Nat.toDigits 16 n)

/-- A number in base 16 with upper-case letters and at least `width` digits. -/
def upperHex (width n : Nat) : String := zeroPadded width ((Nat.toDigits 16 n).map Char.toUpper)

/-- A number in base 10 with at least `width` digits. -/
def decimal (width n : Nat) : String := zeroPadded width (Nat.toDigits 10 n)

example : hex 4 0xFE = "00fe" := by decide +kernel
example : upperHex 2 0xAB = "AB" := by decide +kernel
example : decimal 2 7 = "07" := by decide +kernel

end CompoundFile.Text
