import CompoundFile.Text.Decoder

/-!
# UTF-8 with replacement

The first byte of a character says how many bytes are owed and in which range the next one must
lie; every later byte lies in `80`–`BF`. When a byte does not fit, the sequence so far becomes one
U+FFFD and the byte is read afresh, so each maximal part that could have begun a character gives
one replacement.
-/

namespace CompoundFile.Text.Utf8

/-- Where the decoder stands: between characters, or inside one with `owed` bytes to come, the
next of them from `low` to `high`, and the bits collected so far. -/
inductive State where
  | start
  | inside (owed low high bits : Nat)
  deriving DecidableEq, Repr

/-- The first byte of a character. -/
def first (b : UInt8) : List Char × State :=
  let n := b.toNat
  if n < 0x80 then ([Char.ofNat n], .start)
  else if n < 0xC2 then ([replacement], .start)
  else if n < 0xE0 then ([], .inside 1 0x80 0xBF (n - 0xC0))
  else if n = 0xE0 then ([], .inside 2 0xA0 0xBF 0)
  else if n = 0xED then ([], .inside 2 0x80 0x9F 0xD)
  else if n < 0xF0 then ([], .inside 2 0x80 0xBF (n - 0xE0))
  else if n = 0xF0 then ([], .inside 3 0x90 0xBF 0)
  else if n < 0xF4 then ([], .inside 3 0x80 0xBF (n - 0xF0))
  else if n = 0xF4 then ([], .inside 3 0x80 0x8F 4)
  else ([replacement], .start)

/-- One more byte. -/
def step : State → UInt8 → List Char × State
  | .start, b => first b
  | .inside owed low high bits, b =>
    if low ≤ b.toNat ∧ b.toNat ≤ high then
      let bits := bits * 64 + (b.toNat - 0x80)
      if owed ≤ 1 then ([Char.ofNat bits], .start) else ([], .inside (owed - 1) 0x80 0xBF bits)
    else
      let (out, s) := first b
      (replacement :: out, s)

/-- UTF-8, with U+FFFD for what is malformed or cut off. -/
def decoder : Decoder State where
  start := .start
  step := step
  finish
    | .start => []
    | .inside .. => [replacement]

end CompoundFile.Text.Utf8
