import CompoundFile.Bytes
import CompoundFile.ClassId
import CompoundFile.Filetime
import CompoundFile.Text.Utf16

/-!
# Directory entries

The directory is a stream of records of 128 bytes. `Entry.parse` decodes one record; the number of a
record, counted from zero, is its identifier and is not part of it.

**Names.** The name field has 64 bytes of UTF-16 and a length in bytes, which must be even and at
most 64. The name ends at its first zero. A record of type *empty* has no name, whatever its
bytes.

**Sizes.** Version 3 uses the low 32 bits of the size field only. A storage has size 0.
-/

namespace CompoundFile

/-- The types of directory entries. -/
inductive EntryType where
  /-- A record that is not in use. -/
  | empty
  /-- A storage, which holds other entries. -/
  | storage
  /-- A stream, which holds bytes. -/
  | stream
  | lockBytes
  | property
  /-- The root storage. -/
  | root
  /-- Any other value. -/
  | unknown (tag : UInt8)
  deriving DecidableEq, Repr, Inhabited

namespace EntryType

/-- The type with a tag. -/
def ofByte (tag : UInt8) : EntryType :=
  if tag = 0 then .empty
  else if tag = 1 then .storage
  else if tag = 2 then .stream
  else if tag = 3 then .lockBytes
  else if tag = 4 then .property
  else if tag = 5 then .root
  else .unknown tag

/-- The tag of a type. -/
def toByte : EntryType → UInt8
  | empty => 0
  | storage => 1
  | stream => 2
  | lockBytes => 3
  | property => 4
  | root => 5
  | unknown tag => tag

/-- Whether entries of a type can have children. -/
def isContainer : EntryType → Bool
  | storage | root => true
  | _ => false

/-- The text of a type. -/
def toText : EntryType → String
  | empty => "Empty"
  | storage => "Storage"
  | stream => "Stream"
  | lockBytes => "LockBytes"
  | property => "Property"
  | root => "Root"
  | unknown tag => s!"Unknown({tag.toNat})"

end EntryType

namespace Directory

/-- A link that leads to no entry. -/
def noEntry : UInt32 := 0xFFFFFFFF

/-- The largest number of an entry. -/
def maxEntry : UInt32 := 0xFFFFFFFA

/-- What is wrong with a directory. -/
inductive Fault where
  /-- A record does not have 128 bytes. -/
  | recordSize (sid : UInt32)
  | nameLength (sid : UInt32) (length : UInt16)
  /-- There is no complete record. -/
  | noRecords
  | noRoot
  | manyRoots
  /-- A link is neither an entry number nor empty. -/
  | reserved (sid parent : UInt32)
  | outside (sid parent : UInt32) (count : Nat)
  | rootAsChild (sid parent : UInt32)
  /-- A link leads to an entry that is neither a storage nor a stream. -/
  | unusable (sid parent : UInt32) (type : EntryType)
  /-- Two links lead to one entry. -/
  | repeated (sid : UInt32)
  deriving DecidableEq, Repr

/-- The words for a fault. -/
def Fault.message : Fault → String
  | recordSize sid => s!"directory entry {sid.toNat} has an unexpected size"
  | nameLength sid length => s!"directory entry {sid.toNat} has invalid name length {length.toNat}"
  | noRecords => "directory stream is empty"
  | noRoot => "directory has no root entry"
  | manyRoots => "directory has more than one root entry"
  | reserved sid parent =>
    "entry 0x" ++ Text.hex 1 sid.toNat ++ s!" under {parent.toNat} is a reserved marker"
  | outside sid parent count =>
    s!"entry {sid.toNat} under {parent.toNat} is outside the directory ({count} entries)"
  | rootAsChild sid parent => s!"root entry {sid.toNat} appears as a child of {parent.toNat}"
  | unusable sid parent type =>
    s!"entry {sid.toNat} under {parent.toNat} has unusable type {type.toText}"
  | repeated sid => s!"directory entry {sid.toNat} is referenced more than once"

/-- One entry of the directory. -/
structure Entry where
  /-- The number of the record. -/
  sid : UInt32
  name : String
  type : EntryType
  color : UInt8
  /-- The siblings that come before, or `noEntry`. -/
  left : UInt32
  /-- The siblings that come after, or `noEntry`. -/
  right : UInt32
  /-- One of the children, or `noEntry`. -/
  child : UInt32
  clsid : ClassId
  state : UInt32
  createdTicks : UInt64
  modifiedTicks : UInt64
  /-- The first sector or short sector of the content. -/
  startSector : UInt32
  size : UInt64
  deriving DecidableEq, Repr

namespace Entry

/-- The size of a record in bytes. -/
def recordSize : Nat := 128

/-- The size of the name field of a record in bytes. -/
def nameSize : Nat := 64

/-- The text of a name field, up to its first zero. -/
def nameOfBytes (bytes : List UInt8) : String :=
  String.ofList ((Text.Utf16.decode (Text.Utf16.unitsOfBytes bytes)).takeWhile (· != '\x00'))

/-- The name in a record. -/
def parseName (b : ByteArray) (sid : UInt32) (type : EntryType) : Except Fault String :=
  let length := Bytes.word16 b 0x40
  if type = .empty then .ok ""
  else if nameSize < length.toNat ∨ length.toNat % 2 ≠ 0 then .error (.nameLength sid length)
  else .ok (nameOfBytes (Bytes.window b 0 length.toNat))

/-- The size that a record of a type declares by its size field. -/
def declaredSize (major : UInt16) (type : EntryType) (field : UInt64) : UInt64 :=
  if type = .storage then 0
  else if major = 3 then field.toUInt32.toUInt64
  else field

/-- Decode record number `sid` of a directory of a major version. -/
def parse (b : ByteArray) (sid : UInt32) (major : UInt16) : Except Fault Entry := do
  if b.size ≠ recordSize then
    throw (.recordSize sid)
  let type := EntryType.ofByte (Bytes.byteAt b 0x42)
  let name ← parseName b sid type
  return {
    sid
    name
    type
    color := Bytes.byteAt b 0x43
    left := Bytes.word32 b 0x44
    right := Bytes.word32 b 0x48
    child := Bytes.word32 b 0x4C
    clsid := ClassId.read b 0x50
    state := Bytes.word32 b 0x60
    createdTicks := Bytes.word64 b 0x64
    modifiedTicks := Bytes.word64 b 0x6C
    startSector := Bytes.word32 b 0x74
    size := declaredSize major type (Bytes.word64 b 0x78) }

/-- When the entry was made, if that is set. -/
def created (e : Entry) : Option Instant := Filetime.instant? e.createdTicks

/-- When the entry was last changed, if that is set. -/
def modified (e : Entry) : Option Instant := Filetime.instant? e.modifiedTicks

end Entry

end Directory

end CompoundFile
