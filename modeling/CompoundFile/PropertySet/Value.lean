import CompoundFile.ClassId
import CompoundFile.Filetime
import CompoundFile.PropertySet.Binary64

/-!
# Property values

A value carries its type. Types that this library does not decode are kept as their tag and their
bytes.
-/

namespace CompoundFile.PropertySet

/-- The value of a property. -/
inductive Value where
  | empty
  | null
  | int8 (n : Int8)
  | uint8 (n : UInt8)
  | int16 (n : Int16)
  | uint16 (n : UInt16)
  | int32 (n : Int32)
  | uint32 (n : UInt32)
  | int64 (n : Int64)
  | uint64 (n : UInt64)
  | real (x : Binary64)
  /-- An amount in units of 1/10000. -/
  | currency (n : Int64)
  /-- Days since 1899-12-30. -/
  | date (x : Binary64)
  | bool (b : Bool)
  /-- Narrow text. -/
  | narrow (s : String)
  /-- UTF-16 text. -/
  | wide (s : String)
  /-- Ticks of a file time. -/
  | filetime (ticks : UInt64)
  | blob (data : ByteArray)
  /-- Clipboard data and its format. -/
  | clipboard (format : Int32) (data : ByteArray)
  | classId (id : ClassId)
  /-- A list of texts or of values of any type. -/
  | vector (values : List Value)
  /-- A value that is not decoded: its type tag and the bytes up to the next value. -/
  | unsupported (tag : UInt16) (data : ByteArray)

namespace Value

/-- The text of a narrow or wide value. -/
def text? : Value → Option String
  | narrow s | wide s => some s
  | _ => none

/-- The instant of a file time. -/
def instant? : Value → Option Instant
  | filetime ticks => Filetime.instant? ticks
  | _ => none

end Value

/-! ## Type tags -/

/-- The types of values that stand by themselves. -/
inductive ScalarType where
  | empty
  | null
  | int8
  | uint8
  | int16
  | uint16
  | int32
  | uint32
  | int64
  | uint64
  | real32
  | real64
  | currency
  | date
  | bool
  | narrow
  | wide
  | filetime
  | blob
  | clipboard
  | classId
  deriving DecidableEq, Repr

/-- The scalar type with a tag. -/
def ScalarType.ofTag? (tag : UInt16) : Option ScalarType :=
  match tag.toNat with
  | 0 => some .empty
  | 1 => some .null
  | 2 => some .int16
  | 3 | 10 | 22 => some .int32
  | 4 => some .real32
  | 5 => some .real64
  | 6 => some .currency
  | 7 => some .date
  | 8 | 30 => some .narrow
  | 11 => some .bool
  | 16 => some .int8
  | 17 => some .uint8
  | 18 => some .uint16
  | 19 | 23 => some .uint32
  | 20 => some .int64
  | 21 => some .uint64
  | 31 => some .wide
  | 64 => some .filetime
  | 65 => some .blob
  | 71 => some .clipboard
  | 72 => some .classId
  | _ => none

/-- The element types of vectors. -/
inductive ElementType where
  /-- Values without tags of their own. -/
  | scalar (type : ScalarType)
  /-- Values that carry their own tags. -/
  | tagged
  deriving DecidableEq, Repr

/-- The element type with a tag, if vectors of it are decoded. -/
def ElementType.ofTag? (tag : UInt16) : Option ElementType :=
  match tag.toNat with
  | 12 => some .tagged
  | 30 => some (.scalar .narrow)
  | 31 => some (.scalar .wide)
  | _ => none

/-- The bit of a tag that makes it a vector. -/
def vectorBit : Nat := 0x1000

/-- What a tag says: a scalar or a vector, with the type or the element type if it is decoded. -/
inductive Shape where
  | scalar (type : Option ScalarType)
  | vector (element : Option ElementType)
  deriving DecidableEq, Repr

/-- The shape with a tag. -/
def Shape.ofTag (tag : UInt16) : Shape :=
  if tag.toNat / vectorBit % 2 = 1 then
    .vector (ElementType.ofTag? (UInt16.ofNat (tag.toNat - vectorBit)))
  else .scalar (ScalarType.ofTag? tag)

end CompoundFile.PropertySet
