import CompoundFile.Text.Uppercase.Table

/-!
# Full uppercase forms

The uppercase form of a character is a short text: most characters map to one character or to
themselves, some to two or three (`ß` to `SS`). The mapping does not depend on a language or on the
text around a character, so the form of a text is the forms of its characters in order.
-/

namespace CompoundFile.Text.Uppercase

/-- The uppercase form of the code point `n`, if a run holds it. -/
def Run.image? (r : Run) (n : Nat) : Option Nat :=
  if r.first ≤ n ∧ n ≤ r.last ∧ (n - r.first) % r.step = 0 then some (r.image + (n - r.first))
  else none

/-- The uppercase form of a character outside ASCII. -/
def upperWide (c : Char) : List Char :=
  match expansions.find? (·.1 == c.toNat) with
  | some (_, form) => form
  | none =>
    match runs.findSome? (·.image? c.toNat) with
    | some n => [Char.ofNat n]
    | none => [c]

/-- The uppercase form of a character. -/
def upperChar (c : Char) : List Char := if c.toNat < 0x80 then [c.toUpper] else upperWide c

/-- The uppercase form of a text. -/
def upper (cs : List Char) : List Char := cs.flatMap upperChar

example : upper ['s', 'ß'] = ['S', 'S', 'S'] := by decide +kernel

end CompoundFile.Text.Uppercase
