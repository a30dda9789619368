import CompoundFile.Codepage.Index.Jis0208
import CompoundFile.Codepage.Index.Hangul
import CompoundFile.Codepage.Index.Big5
import CompoundFile.Text.Decoder

/-!
# Codepages of one and two bytes

In these codepages a byte is a character of its own, or a lead byte that needs a trail byte, or
malformed. A pair that stands for no character gives one U+FFFD; if its trail byte is ASCII, that
byte is then read on its own, so damage never swallows ASCII.

The four rules of this kind are a single-byte codepage given by the table of its upper half, and
codepages 932, 949 and 950.
-/

namespace CompoundFile.Codepage

open Text

/-- What the bytes of a codepage of one and two bytes stand for. -/
structure DoubleByte where
  /-- The character of a byte that stands alone. -/
  single : UInt8 → Option Char
  /-- Whether a byte needs a trail byte. -/
  isLead : UInt8 → Bool
  /-- The characters of a lead byte and a trail byte. -/
  pair : UInt8 → UInt8 → Option (List Char)

namespace DoubleByte

variable (r : DoubleByte)

/-- A byte after a complete character. -/
def first (b : UInt8) : List Char × Option UInt8 :=
  match r.single b with
  | some c => ([c], none)
  | none => if r.isLead b then ([], some b) else ([replacement], none)

/-- A byte after a lead byte. -/
def second (lead b : UInt8) : List Char × Option UInt8 :=
  match r.pair lead b with
  | some cs => (cs, none)
  | none =>
    if b.toNat < 0x80 then ([replacement, Char.ofNat b.toNat], none) else ([replacement], none)

/-- The decoder of a codepage; its state is the lead byte that waits for its trail byte. -/
def decoder : Decoder (Option UInt8) where
  start := none
  step
    | none, b => r.first b
    | some lead, b => r.second lead b
  finish
    | none => []
    | some _ => [replacement]

end DoubleByte

/-- The character in a row and column of an index, if one is assigned. -/
def indexed (index : Array (Array Char)) (row column : Nat) : Option Char :=
  ((index[row]?).bind (·[column]?)).filter (· != replacement)

/-- The codepage with ASCII below `80` and a table of characters from there on. -/
def singleByte (upper : Array Char) : DoubleByte where
  single b :=
    if b.toNat < 0x80 then some (Char.ofNat b.toNat)
    else (upper[b.toNat - 0x80]?).filter (· != replacement)
  isLead _ := false
  pair _ _ := none

/-! ## Japanese -/

/-- A character of codepage 932 by row and column of its lead and trail byte. The rows of the lead
bytes `F0` to `F9` are the private use area from U+E000 on. -/
def japaneseChar (row column : Nat) : Option Char :=
  if 47 ≤ row ∧ row ≤ 56 then some (Char.ofNat (0xE000 + (row - 47) * 188 + column))
  else indexed Index.jis0208 row column

/-- Codepage 932: ASCII and `80`, half-width katakana, and JIS X 0208 in two bytes. -/
def japanese : DoubleByte where
  single b :=
    let n := b.toNat
    if n ≤ 0x80 then some (Char.ofNat n)
    else if 0xA1 ≤ n ∧ n ≤ 0xDF then some (Char.ofNat (0xFF61 + (n - 0xA1)))
    else none
  isLead b :=
    let n := b.toNat
    (0x81 ≤ n && n ≤ 0x9F) || (0xE0 ≤ n && n ≤ 0xFC)
  pair lead b :=
    let row := if lead.toNat < 0xA0 then lead.toNat - 0x81 else lead.toNat - 0xC1
    let n := b.toNat
    if 0x40 ≤ n ∧ n ≤ 0x7E then (japaneseChar row (n - 0x40)).map fun c => [c]
    else if 0x80 ≤ n ∧ n ≤ 0xFC then (japaneseChar row (n - 0x41)).map fun c => [c]
    else none

/-! ## Korean -/

/-- Codepage 949: ASCII and the unified Hangul code in two bytes. -/
def korean : DoubleByte where
  single b := if b.toNat < 0x80 then some (Char.ofNat b.toNat) else none
  isLead b := 0x81 ≤ b.toNat && b.toNat ≤ 0xFE
  pair lead b :=
    let n := b.toNat
    if 0x41 ≤ n ∧ n ≤ 0xFE then
      (indexed Index.hangul (lead.toNat - 0x81) (n - 0x41)).map fun c => [c]
    else none

/-! ## Traditional Chinese -/

/-- The pairs of codepage 950 that stand for a letter and a combining mark. -/
def composed (lead trail : Nat) : Option (List Char) :=
  match lead, trail with
  | 0x88, 0x62 => some ['\u00CA', '\u0304']
  | 0x88, 0x64 => some ['\u00CA', '\u030C']
  | 0x88, 0xA3 => some ['\u00EA', '\u0304']
  | 0x88, 0xA5 => some ['\u00EA', '\u030C']
  | _, _ => none

/-- Codepage 950: ASCII and Big5 with the Hong Kong supplement in two bytes. -/
def traditionalChinese : DoubleByte where
  single b := if b.toNat < 0x80 then some (Char.ofNat b.toNat) else none
  isLead b := 0x81 ≤ b.toNat && b.toNat ≤ 0xFE
  pair lead b :=
    let row := lead.toNat - 0x81
    let n := b.toNat
    match composed lead.toNat n with
    | some cs => some cs
    | none =>
      if 0x40 ≤ n ∧ n ≤ 0x7E then (indexed Index.big5 row (n - 0x40)).map fun c => [c]
      else if 0xA1 ≤ n ∧ n ≤ 0xFE then (indexed Index.big5 row (n - 0x62)).map fun c => [c]
      else none

end CompoundFile.Codepage
