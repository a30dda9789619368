import CompoundFile.Bytes
import CompoundFile.Codepage.DoubleByte
import CompoundFile.Codepage.Gb18030
import CompoundFile.Codepage.Index.SingleByte
import CompoundFile.Text.Blank

/-!
# Codepages of narrow text

Narrow text is a byte string whose encoding the file does not record. The reader chooses one of
fifteen codepages for it: ASCII or one of fourteen Windows codepages, each with a number and a
name.

**Names.** `ofName?` accepts, in any letter case and with blanks around, `ascii`, `us-ascii`, and
`cp` or `windows-` followed by the number of a Windows codepage.

**Decoding.** `decode` stops at the first zero byte. What a codepage does not assign becomes
U+FFFD; for ASCII that is every byte from `80` on.
-/

namespace CompoundFile

/-- The codepages of narrow text. -/
inductive Codepage where
  | ascii
  | windows874
  | windows932
  | windows936
  | windows949
  | windows950
  | windows1250
  | windows1251
  | windows1252
  | windows1253
  | windows1254
  | windows1255
  | windows1256
  | windows1257
  | windows1258
  deriving DecidableEq, Repr, Inhabited

namespace Codepage

/-- Every codepage. -/
def all : List Codepage :=
  [ascii, windows874, windows932, windows936, windows949, windows950, windows1250, windows1251,
    windows1252, windows1253, windows1254, windows1255, windows1256, windows1257, windows1258]

/-- The number of a codepage. -/
def id : Codepage → Nat
  | ascii => 20127
  | windows874 => 874
  | windows932 => 932
  | windows936 => 936
  | windows949 => 949
  | windows950 => 950
  | windows1250 => 1250
  | windows1251 => 1251
  | windows1252 => 1252
  | windows1253 => 1253
  | windows1254 => 1254
  | windows1255 => 1255
  | windows1256 => 1256
  | windows1257 => 1257
  | windows1258 => 1258

/-- The codepage with a number. -/
def ofId? (n : Nat) : Option Codepage := all.find? (·.id == n)

theorem ofId?_id (c : Codepage) : ofId? c.id = some c := by cases c <;> decide

/-- The usual name of a codepage. -/
def name : Codepage → String
  | ascii => "ascii"
  | c => "cp" ++ toString c.id

/-- The name of a codepage as a term of this library's texts. -/
def label : Codepage → String
  | ascii => "Ascii"
  | c => "Windows" ++ toString c.id

/-! ## Names -/

/-- The rest of a text after a beginning that it has. -/
def after? (beginning text : List Char) : Option (List Char) :=
  if beginning.isPrefixOf text then some (text.drop beginning.length) else none

/-- The number that a text of one or more decimal digits stands for. -/
def digits? (text : List Char) : Option Nat :=
  if text ≠ [] ∧ text.all Char.isDigit then
    some (text.foldl (fun n c => 10 * n + (c.toNat - '0'.toNat)) 0)
  else none

/-- A decimal numeral, which may begin with a plus sign and with zeros. -/
def numeral? : List Char → Option Nat
  | '+' :: text => digits? text
  | text => digits? text

/-- The codepage with a name. -/
def ofName? (s : String) : Option Codepage :=
  let text := (Text.trim s.toList).map Char.toLower
  if text = "ascii".toList ∨ text = "us-ascii".toList then some ascii
  else
    (((after? "cp".toList text).or (after? "windows-".toList text)).bind numeral?).bind
      (ofId? · |>.filter (· != ascii))

/-! ## Decoding -/

/-- The characters of bytes without a zero byte. -/
def decodeBytes (c : Codepage) (bytes : List UInt8) : List Char :=
  match c with
  | ascii => (singleByte #[]).decoder.decode bytes
  | windows874 => (singleByte Index.windows874).decoder.decode bytes
  | windows932 => japanese.decoder.decode bytes
  | windows936 => Gb18030.decoder.decode bytes
  | windows949 => korean.decoder.decode bytes
  | windows950 => traditionalChinese.decoder.decode bytes
  | windows1250 => (singleByte Index.windows1250).decoder.decode bytes
  | windows1251 => (singleByte Index.windows1251).decoder.decode bytes
  | windows1252 => (singleByte Index.windows1252).decoder.decode bytes
  | windows1253 => (singleByte Index.windows1253).decoder.decode bytes
  | windows1254 => (singleByte Index.windows1254).decoder.decode bytes
  | windows1255 => (singleByte Index.windows1255).decoder.decode bytes
  | windows1256 => (singleByte Index.windows1256).decoder.decode bytes
  | windows1257 => (singleByte Index.windows1257).decoder.decode bytes
  | windows1258 => (singleByte Index.windows1258).decoder.decode bytes

/-- The text of a narrow string, up to its first zero byte. -/
def decode (c : Codepage) (b : ByteArray) : String :=
  String.ofList (c.decodeBytes (Bytes.untilNul b))

end Codepage

end CompoundFile
