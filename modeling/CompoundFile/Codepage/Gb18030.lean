import CompoundFile.Codepage.DoubleByte
import CompoundFile.Codepage.Index.Gb18030
import CompoundFile.Codepage.Index.Gb18030Runs

/-!
# Codepage 936

Codepage 936 is read by the rules of GB 18030: ASCII, the euro sign in `80`, characters of two bytes
and characters of four bytes. A four-byte character is a lead byte, a digit, a lead byte and a
digit; together they are a number (`position`), which the runs of the standard map to a code point.

A sequence of which the third or fourth byte does not fit gives one U+FFFD, and all its bytes but
the first are read afresh.
-/

namespace CompoundFile.Codepage.Gb18030

open Text

/-- The bytes of an unfinished character. -/
inductive State where
  | start
  | one (a : UInt8)
  | two (a b : UInt8)
  | three (a b c : UInt8)
  deriving DecidableEq, Repr

/-- A byte that can begin a character of several bytes. -/
def isLead (b : UInt8) : Bool := 0x81 ≤ b.toNat && b.toNat ≤ 0xFE

/-- A byte that can be second or fourth of four. -/
def isDigit (b : UInt8) : Bool := 0x30 ≤ b.toNat && b.toNat ≤ 0x39

/-- The character in a user-defined area, by lead byte, trail byte and column. -/
def userDefined (lead trail column : Nat) : Option Char :=
  if 0xAA ≤ lead ∧ lead ≤ 0xAF ∧ 0xA1 ≤ trail then
    some (Char.ofNat (0xE000 + (lead - 0xAA) * 94 + (trail - 0xA1)))
  else if 0xF8 ≤ lead ∧ lead ≤ 0xFE ∧ 0xA1 ≤ trail then
    some (Char.ofNat (0xE234 + (lead - 0xF8) * 94 + (trail - 0xA1)))
  else if 0xA1 ≤ lead ∧ lead ≤ 0xA7 ∧ trail < 0xA1 then
    some (Char.ofNat (0xE4C6 + (lead - 0xA1) * 96 + column))
  else none

/-- The character of a lead byte and a trail byte. -/
def pair (lead trail : UInt8) : Option Char :=
  let n := trail.toNat
  if (0x40 ≤ n ∧ n ≤ 0x7E) ∨ (0x80 ≤ n ∧ n ≤ 0xFE) then
    let column := if n < 0x7F then n - 0x40 else n - 0x41
    (indexed Index.gb18030 (lead.toNat - 0x81) column).or (userDefined lead.toNat n column)
  else none

/-- The number that four bytes stand for. -/
def position (a b c d : UInt8) : Nat :=
  (((a.toNat - 0x81) * 10 + (b.toNat - 0x30)) * 126 + (c.toNat - 0x81)) * 10 + (d.toNat - 0x30)

/-- The character at a position of the four-byte part. -/
def charAt (p : Nat) : Option Char :=
  if (39419 < p ∧ p < 189000) ∨ 1237575 < p then none
  else if p = 7457 then some '\uE7C7'
  else
    (Index.gb18030Runs.findRev? (·.1 ≤ p)).map fun (start, code) => Char.ofNat (code + (p - start))

/-- A byte after a complete character. -/
def first (b : UInt8) : List Char × State :=
  if b.toNat < 0x80 then ([Char.ofNat b.toNat], .start)
  else if b = 0x80 then (['€'], .start)
  else if isLead b then ([], .one b)
  else ([replacement], .start)

/-- A byte after a lead byte. -/
def second (a b : UInt8) : List Char × State :=
  if isDigit b then ([], .two a b)
  else
    match pair a b with
    | some c => ([c], .start)
    | none =>
      if b.toNat < 0x80 then ([replacement, Char.ofNat b.toNat], .start)
      else ([replacement], .start)

/-- One more byte. -/
def step : State → UInt8 → List Char × State
  | .start, b => first b
  | .one a, b => second a b
  | .two a b, c =>
    if isLead c then ([], .three a b c)
    else
      let (out, s) := first c
      (replacement :: Char.ofNat b.toNat :: out, s)
  | .three a b c, d =>
    if isDigit d then ([(charAt (position a b c d)).getD replacement], .start)
    else
      let (out, s) := second c d
      (replacement :: Char.ofNat b.toNat :: out, s)

/-- The decoder of codepage 936. -/
def decoder : Decoder State where
  start := .start
  step := step
  finish
    | .start => []
    | _ => [replacement]

end CompoundFile.Codepage.Gb18030
