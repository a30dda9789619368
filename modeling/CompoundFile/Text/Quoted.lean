import CompoundFile.Text.Hex
import CompoundFile.Text.Quoted.Table

/-!
# Quoted text

Text between double quotes. A quote, a backslash and four control characters are written as a
backslash and one character; every character without a glyph of its own is written by its number,
as a backslash, `u` and the number in braces. All other characters stand for themselves.
-/

namespace CompoundFile.Text.Quoted

/-- A character without a glyph of its own. -/
def isHidden (c : Char) : Bool :=
  hiddenRuns.any fun (first, last) => first ≤ c.toNat && c.toNat ≤ last

/-- A character inside quotes. -/
def encodeChar (c : Char) : String :=
  if c = '\x00' then "\\0"
  else if c = '\t' then "\\t"
  else if c = '\n' then "\\n"
  else if c = '\r' then "\\r"
  else if c = '"' then "\\\""
  else if c = '\\' then "\\\\"
  else if isHidden c then "\\u\x7b" ++ hex 1 c.toNat ++ "\x7d"
  else c.toString

/-- A text in quotes. -/
def encode (s : String) : String := "\"" ++ String.join (s.toList.map encodeChar) ++ "\""

end CompoundFile.Text.Quoted
