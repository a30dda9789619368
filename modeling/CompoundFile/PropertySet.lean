import CompoundFile.PropertySet.Decode

/-!
# Property sets

A property set is a stream of typed properties, grouped in sections. Its header lists the
sections; a section lists its properties as pairs of an identifier and an offset.

**Codepage.** Property 1 of a section declares the encoding of its narrow text. It is looked up
before any property is decoded, wherever it stands. A section that declares none, or one that is
not supported, uses the codepage chosen by the reader.

**Dictionary.** Property 0 names other properties. It has no tag and is left out.
-/

namespace CompoundFile

namespace PropertySet

/-- A property: its identifier and its value. -/
structure Property where
  id : UInt32
  value : Value

/-- A section of a property set. -/
structure Section where
  /-- Says what the identifiers of the section mean. -/
  formatId : ClassId
  /-- The codepage number that the section declares. -/
  codepage : Option UInt32
  properties : List Property

namespace Section

/-- The value of the first property with an identifier. -/
def get? (s : Section) (id : UInt32) : Option Value :=
  (s.properties.find? (·.id == id)).map (·.value)

/-- One line of the property table: an identifier and an offset in the section. -/
structure Slot where
  id : UInt32
  offset : Nat
  deriving DecidableEq, Repr

/-- The first `count` lines of the property table. -/
def slots (b : ByteArray) (count : Nat) : List Slot :=
  (List.range count).map fun i =>
    ⟨Bytes.word32 b (8 + 8 * i), (Bytes.word32 b (12 + 8 * i)).toNat⟩

/-- Where the bytes of a property end at the latest: at the next listed offset, or with the
section. -/
def limit (size : Nat) (slots : List Slot) (offset : Nat) : Nat :=
  (((slots.map (·.offset)).filter (offset < ·)).min?).getD size

/-- The codepage number that a value declares. -/
def codepageOf : Value → Option UInt32
  | .int16 n => some n.toUInt16.toUInt32
  | .uint16 n => some n.toUInt32
  | .int32 n => some n.toUInt32
  | .uint32 n => some n
  | _ => none

/-- The codepage number that a section declares. -/
def declaredCodepage (b : ByteArray) (slots : List Slot) (fallback : Codepage) :
    Except Fault (Option UInt32) :=
  match slots.find? (·.id == 1) with
  | none => .ok none
  | some slot =>
    (property b (.codepage fallback) slot.offset (limit b.size slots slot.offset)).map codepageOf

/-- Decode the bytes of a section. `offset` is where they begin in the stream. -/
def parseBody (b : ByteArray) (formatId : ClassId) (offset : Nat) (fallback : Codepage) :
    Except Fault Section := do
  let count := (← word32 b 4).toNat
  if b.size < 8 + 8 * count then
    throw (.propertyCount offset count)
  let slots := slots b count
  let codepage ← declaredCodepage b slots fallback
  let text := NarrowText.ofCodepage codepage fallback
  let properties ← (slots.filter (·.id != 0)).mapM fun slot => do
    return ⟨slot.id, ← property b text slot.offset (limit b.size slots slot.offset)⟩
  return { formatId, codepage, properties }

/-- Decode the section that begins at an offset of the stream. -/
def parse (b : ByteArray) (formatId : ClassId) (offset : Nat) (fallback : Codepage) :
    Except Fault Section := do
  let size := (← word32 b offset).toNat
  match Bytes.slice? b offset size with
  | none => throw (.sectionOverrun offset)
  | some body => parseBody body formatId offset fallback

end Section

end PropertySet

/-- A property set. -/
structure PropertySet where
  format : UInt16
  systemVersion : UInt32
  clsid : ClassId
  sections : List PropertySet.Section

namespace PropertySet

/-- The size of the header in bytes. -/
def headerSize : Nat := 28

/-- The size of a line of the section list in bytes. -/
def sectionEntrySize : Nat := 20

/-- The largest number of sections that is accepted. -/
def maxSections : Nat := 16

/-- Decode a property set. Narrow text is in the `fallback` codepage where no other is declared. -/
def parse (b : ByteArray) (fallback : Codepage) : Except Fault PropertySet := do
  if b.size < headerSize then
    throw .noHeader
  let mark := Bytes.word16 b 0
  if mark ≠ 0xFFFE then
    throw (.byteOrder mark)
  let count := Bytes.word32 b 24
  if maxSections < count.toNat then
    throw (.sectionCount count)
  let sections ← (List.range count.toNat).mapM fun i => do
    let entry := headerSize + i * sectionEntrySize
    let formatId ← classIdAt b entry
    let offset := (← word32 b (entry + 16)).toNat
    Section.parse b formatId offset fallback
  return {
    format := Bytes.word16 b 2
    systemVersion := Bytes.word32 b 4
    clsid := ClassId.read b 8
    sections }

/-- Where the first section with a format identifier stands among the sections. -/
def index? (p : PropertySet) (formatId : ClassId) : Option Nat :=
  p.sections.findIdx? (·.formatId == formatId)

/-- The first section with a format identifier. -/
def find? (p : PropertySet) (formatId : ClassId) : Option Section :=
  (p.index? formatId).bind (p.sections[·]?)

end PropertySet

end CompoundFile
