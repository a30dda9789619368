import CompoundFile.Bytes
import CompoundFile.Codepage
import CompoundFile.PropertySet.Value
import CompoundFile.Text.Utf16
import CompoundFile.Text.Utf8

/-!
# Decoding property values

Values are decoded from the bytes of their section, at an offset in it. Every access is checked: a
value that is not wholly inside the section is a fault. A value that stands by itself is a tag and
a content, and its content is padded to a multiple of four bytes.

**Vectors** are a count and that many elements, one behind the other. An element may be a vector
again. Decoding ends because every element begins behind the beginning of its vector: a decoder
gives the offset past a value with a proof that it is not before the offset it was given.

**Undecoded types.** `scalar`, `vector` and `tagged` give nothing for a type that is not decoded.
Its length is not known, so as an element it is a fault, and as a property it keeps its bytes up
to the next property (`property`).
-/

namespace CompoundFile.PropertySet

/-- What is wrong with a property set. -/
inductive Fault where
  /-- There are fewer bytes than a header takes. -/
  | noHeader
  | byteOrder (mark : UInt16)
  | sectionCount (count : UInt32)
  /-- A value is not wholly inside its section. -/
  | outside (offset length : Nat)
  | sectionOverrun (offset : Nat)
  | propertyCount (offset count : Nat)
  /-- Clipboard data is too short for its format. -/
  | clipboardSize (offset size : Nat)
  /-- A vector has more elements than its section can hold. -/
  | elementCount (offset count : Nat)
  | undecodableElement (offset : Nat)
  deriving DecidableEq, Repr

/-- The words for a fault. -/
def Fault.message : Fault → String
  | noHeader => "property set stream is shorter than its header"
  | byteOrder mark => "property set has byte order 0x" ++ Text.hex 4 mark.toNat
  | sectionCount count => s!"property set declares {count.toNat} sections"
  | outside offset length => s!"property data at {offset}+{length} is outside its section"
  | sectionOverrun offset => s!"section at {offset} overruns the stream"
  | propertyCount offset count => s!"section at {offset} declares {count} properties"
  | clipboardSize offset size => s!"clipboard data at {offset} has size {size}"
  | elementCount offset count => s!"vector at {offset} declares {count} elements"
  | undecodableElement offset => s!"vector element at {offset} has an undecodable type"

/-! ## Checked access -/

/-- The bytes at an offset. -/
def slice (b : ByteArray) (offset length : Nat) : Except Fault ByteArray :=
  match Bytes.slice? b offset length with
  | some s => .ok s
  | none => .error (.outside offset length)

/-- The 16-bit word at an offset. -/
def word16 (b : ByteArray) (offset : Nat) : Except Fault UInt16 :=
  (slice b offset 2).map (Bytes.word16 · 0)

/-- The 32-bit word at an offset. -/
def word32 (b : ByteArray) (offset : Nat) : Except Fault UInt32 :=
  (slice b offset 4).map (Bytes.word32 · 0)

/-- The 64-bit word at an offset. -/
def word64 (b : ByteArray) (offset : Nat) : Except Fault UInt64 :=
  (slice b offset 8).map (Bytes.word64 · 0)

/-- The class identifier at an offset. -/
def classIdAt (b : ByteArray) (offset : Nat) : Except Fault ClassId :=
  (slice b offset 16).map (ClassId.read · 0)

theorem le_size_of_slice {b s : ByteArray} {offset length : Nat}
    (h : slice b offset length = .ok s) : offset + length ≤ b.size := by
  unfold slice Bytes.slice? at h
  split at h
  next hs =>
    split at hs
    · assumption
    · cases hs
  next => cases h

theorem le_size_of_word16 {b : ByteArray} {offset : Nat} {w : UInt16}
    (h : word16 b offset = .ok w) : offset + 2 ≤ b.size := by
  unfold word16 at h
  match hs : slice b offset 2 with
  | .ok s => exact le_size_of_slice hs
  | .error _ => rw [hs] at h; cases h

theorem le_size_of_word32 {b : ByteArray} {offset : Nat} {w : UInt32}
    (h : word32 b offset = .ok w) : offset + 4 ≤ b.size := by
  unfold word32 at h
  match hs : slice b offset 4 with
  | .ok s => exact le_size_of_slice hs
  | .error _ => rw [hs] at h; cases h

/-! ## Narrow text -/

/-- How a section stores narrow text. -/
inductive NarrowText where
  | utf16
  | utf8
  | codepage (c : Codepage)
  deriving DecidableEq, Repr

namespace NarrowText

/-- UTF-16 text up to its first zero unit. -/
def wide (b : ByteArray) : String :=
  String.ofList (Text.Utf16.decode ((Text.Utf16.unitsOfBytes b.data.toList).takeWhile (· != 0)))

/-- The way of a section that declares a codepage number, or none. -/
def ofCodepage (declared : Option UInt32) (fallback : Codepage) : NarrowText :=
  match declared with
  | none => .codepage fallback
  | some number =>
    if number = 1200 then .utf16
    else if number = 65001 then .utf8
    else .codepage ((Codepage.ofId? number.toNat).getD fallback)

/-- The text of some bytes. -/
def decode (n : NarrowText) (b : ByteArray) : String :=
  match n with
  | utf16 => wide b
  | utf8 => String.ofList (Text.Utf8.decoder.decode (Bytes.untilNul b))
  | codepage c => c.decode b

end NarrowText

/-! ## Values -/

/-- Something read from an offset on, and the offset past it. -/
structure Read (α : Type) (offset : Nat) where
  value : α
  next : Nat
  le_next : offset ≤ next

/-- A length filled up to a multiple of four. -/
def padded (length : Nat) : Nat := (length + 3) / 4 * 4

/-- A value whose content begins `skip` bytes past the offset and has a length. -/
def Read.spanning {α : Type} {offset : Nat} (value : α) (skip length : Nat) : Read α offset :=
  ⟨value, offset + skip + padded length, by omega⟩

/-- Decode the content of a scalar. -/
def scalar (b : ByteArray) (text : NarrowText) (type : ScalarType) (pos : Nat) :
    Except Fault (Read Value pos) :=
  match type with
  | .empty => return .spanning .empty 0 0
  | .null => return .spanning .null 0 0
  | .int8 => return .spanning (.int8 (Bytes.byteAt (← slice b pos 1) 0).toInt8) 0 1
  | .uint8 => return .spanning (.uint8 (Bytes.byteAt (← slice b pos 1) 0)) 0 1
  | .int16 => return .spanning (.int16 (← word16 b pos).toInt16) 0 2
  | .uint16 => return .spanning (.uint16 (← word16 b pos)) 0 2
  | .bool => return .spanning (.bool ((← word16 b pos) != 0)) 0 2
  | .int32 => return .spanning (.int32 (← word32 b pos).toInt32) 0 4
  | .uint32 => return .spanning (.uint32 (← word32 b pos)) 0 4
  | .real32 => return .spanning (.real (Binary64.widen (← word32 b pos))) 0 4
  | .int64 => return .spanning (.int64 (← word64 b pos).toInt64) 0 8
  | .uint64 => return .spanning (.uint64 (← word64 b pos)) 0 8
  | .real64 => return .spanning (.real ⟨← word64 b pos⟩) 0 8
  | .currency => return .spanning (.currency (← word64 b pos).toInt64) 0 8
  | .date => return .spanning (.date ⟨← word64 b pos⟩) 0 8
  | .filetime => return .spanning (.filetime (← word64 b pos)) 0 8
  | .classId => return .spanning (.classId (← classIdAt b pos)) 0 16
  | .narrow => do
    let length := (← word32 b pos).toNat
    return .spanning (.narrow (text.decode (← slice b (pos + 4) length))) 4 length
  | .wide => do
    let length := 2 * (← word32 b pos).toNat
    return .spanning (.wide (NarrowText.wide (← slice b (pos + 4) length))) 4 length
  | .blob => do
    let length := (← word32 b pos).toNat
    return .spanning (.blob (← slice b (pos + 4) length)) 4 length
  | .clipboard => do
    let size := (← word32 b pos).toNat
    if size < 4 then
      throw (.clipboardSize pos size)
    let format ← word32 b (pos + 4)
    return .spanning (.clipboard format.toInt32 (← slice b (pos + 8) (size - 4))) 8 (size - 4)

/-- The content of a scalar if its type is decoded. -/
def scalar? (b : ByteArray) (text : NarrowText) (type : Option ScalarType) (pos : Nat) :
    Except Fault (Option (Read Value pos)) :=
  match type with
  | none => .ok none
  | some type => (scalar b text type pos).map some

mutual

/-- Decode a tag and the value behind it. -/
def tagged (b : ByteArray) (text : NarrowText) (offset : Nat) :
    Except Fault (Option (Read Value (offset + 4))) :=
  match _h : word16 b offset with
  | .error fault => .error fault
  | .ok tag =>
    match Shape.ofTag tag with
    | .scalar type => scalar? b text type (offset + 4)
    | .vector none => .ok none
    | .vector (some element) => (vector b text element (offset + 4)).map some
termination_by (b.size - offset, 0)
decreasing_by
  have := le_size_of_word16 _h
  exact Prod.Lex.left _ _ (by omega)

/-- Decode the count and the elements of a vector. -/
def vector (b : ByteArray) (text : NarrowText) (element : ElementType) (pos : Nat) :
    Except Fault (Read Value pos) :=
  match _h : word32 b pos with
  | .error fault => .error fault
  | .ok count =>
    if (b.size - (pos + 4)) / 4 < count.toNat then .error (.elementCount pos count.toNat)
    else
      (elements b text element count.toNat (pos + 4)).map fun r =>
        ⟨.vector r.value, r.next, by have := r.le_next; omega⟩
termination_by (b.size - pos, 0)
decreasing_by
  have := le_size_of_word32 _h
  exact Prod.Lex.left _ _ (by omega)

/-- Decode a number of elements. -/
def elements (b : ByteArray) (text : NarrowText) (element : ElementType) :
    (count : Nat) → (pos : Nat) → Except Fault (Read (List Value) pos)
  | 0, pos => .ok ⟨[], pos, Nat.le_refl _⟩
  | count + 1, pos => do
    let first : Option (Read Value pos) ←
      match element with
      | .scalar type => (scalar b text type pos).map some
      | .tagged =>
        (tagged b text pos).map fun r =>
          r.map fun r => ⟨r.value, r.next, by have := r.le_next; omega⟩
    match first with
    | none => .error (.undecodableElement pos)
    | some first =>
      let rest ← elements b text element count first.next
      return ⟨first.value :: rest.value, rest.next,
        Nat.le_trans first.le_next rest.le_next⟩
termination_by count pos => (b.size - pos, count)
decreasing_by
  · have hle := first.le_next
    by_cases heq : b.size - first.next = b.size - pos
    · rw [heq]
      exact Prod.Lex.right _ (Nat.lt_succ_self _)
    · exact Prod.Lex.left _ _ (by omega)
  · exact Prod.Lex.right _ (Nat.succ_pos _)

end

/-- Decode the property at an offset. If its type is not decoded, its bytes reach up to `limit`. -/
def property (b : ByteArray) (text : NarrowText) (offset limit : Nat) : Except Fault Value := do
  match ← tagged b text offset with
  | some r => return r.value
  | none =>
    let tag ← word16 b offset
    return .unsupported tag (← slice b (offset + 4) (limit - (offset + 4)))

end CompoundFile.PropertySet
