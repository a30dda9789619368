/-!
# Decoders that read one byte at a time

A decoder turns bytes into characters. It keeps a state between bytes, gives the characters that
each byte completes, and says at the end what an unfinished sequence stands for. A malformed
sequence gives the replacement character U+FFFD.
-/

namespace CompoundFile.Text

/-- The character that stands for a malformed sequence. -/
def replacement : Char := '\uFFFD'

/-- A decoder with states in `State`. -/
structure Decoder (State : Type) where
  /-- The state between characters. -/
  start : State
  /-- The characters that a byte completes, and the state after it. -/
  step : State → UInt8 → List Char × State
  /-- The characters that stand for what is unfinished at the end. -/
  finish : State → List Char

namespace Decoder

variable {State : Type} (d : Decoder State)

/-- The characters completed by the bytes, and the state after them. -/
def run : State → List UInt8 → List Char × State
  | s, [] => ([], s)
  | s, b :: bs =>
    let (out, s) := d.step s b
    let (rest, s) := run s bs
    (out ++ rest, s)

/-- The characters of a whole byte string. -/
def decode (bs : List UInt8) : List Char :=
  let (out, s) := d.run d.start bs
  out ++ d.finish s

end Decoder

end CompoundFile.Text
