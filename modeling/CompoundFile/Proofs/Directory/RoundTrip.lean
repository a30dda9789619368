import CompoundFile.Directory.Name
import CompoundFile.Proofs.Directory.Records
import CompoundFile.Proofs.Layout

/-!
# Records that are written and read back

A record is written with its name in UTF-16, a zero behind the name and any bytes in the rest of the
name field. The length that goes with it counts the zero. What is read is the entry that was written,
for every name without a zero that fits (`Entry.parse_record`).

**What is lost.** A storage has no size of its own, and version 3 keeps the low half of a size. A
record of type empty has no name.

**What is refused.** Only a block that is no record, and a length of a name that is odd or goes
beyond the name field, of a record that is in use (`Entry.exists_error_iff`).

Main result: `Entry.record_read_back`.
-/

namespace CompoundFile

open Bytes

/-! ## Types -/

namespace EntryType

/-- A type is its tag. -/
theorem toByte_ofByte (tag : UInt8) : (ofByte tag).toByte = tag := by
  unfold ofByte
  split_ifs with h₀ h₁ h₂ h₃ h₄ h₅
  · exact h₀.symm
  · exact h₁.symm
  · exact h₂.symm
  · exact h₃.symm
  · exact h₄.symm
  · exact h₅.symm
  · rfl

theorem ofByte_eq_empty_iff {tag : UInt8} : ofByte tag = .empty ↔ tag = 0 := by
  constructor
  · intro h
    rw [← toByte_ofByte tag, h]
    rfl
  · rintro rfl
    rfl

theorem ofByte_eq_storage_iff {tag : UInt8} : ofByte tag = .storage ↔ tag = 1 := by
  constructor
  · intro h
    rw [← toByte_ofByte tag, h]
    rfl
  · rintro rfl
    rfl

end EntryType

namespace Directory.Entry

/-! ## Names -/

/-- A name field: the name in UTF-16, a zero, and any bytes. -/
def nameField (name : String) (rest : List UInt8) : List UInt8 :=
  ((Text.Utf16.encode name.toList ++ [0]).flatMap fun u : UInt16 => toLE 2 u.toNat) ++ rest

/-- The length that is written with a name, in bytes. -/
def nameLength (name : String) : UInt16 := UInt16.ofNat (2 * (unitCount name + 1))

section Name

variable {name : String} {rest : List UInt8}

theorem length_units (name : String) :
    ((Text.Utf16.encode name.toList ++ [0]).flatMap fun u : UInt16 => toLE 2 u.toNat).length =
      2 * (unitCount name + 1) := by
  simp [List.length_flatMap, unitCount, Nat.mul_comm, Nat.mul_succ]

theorem toNat_nameLength (hshort : unitCount name ≤ 31) :
    (nameLength name).toNat = 2 * (unitCount name + 1) := by
  refine UInt16.toNat_ofNat_of_lt' ?_
  rw [UInt16.size]
  omega

/-- The zero behind the name is a unit of its own, and its character ends the name. -/
theorem decode_terminated (name : String) :
    Text.Utf16.decode (Text.Utf16.encode name.toList ++ [0]) = name.toList ++ ['\x00'] := by
  have hzero : Text.Utf16.encode name.toList ++ [0] =
      Text.Utf16.encode (name.toList ++ ['\x00']) := by
    rw [Text.Utf16.encode, Text.Utf16.encode, List.flatMap_append]
    rfl
  rw [hzero, Text.Utf16.decode_encode]

/-- **A written name is read back**, whatever follows it in its field. -/
theorem nameOfBytes_nameField (hnul : '\x00' ∉ name.toList) (hshort : unitCount name ≤ 31) :
    nameOfBytes ((nameField name rest).take (nameLength name).toNat) = name := by
  have huntil : (name.toList ++ ['\x00']).takeWhile (· != '\x00') = name.toList := by
    rw [List.takeWhile_append_of_pos]
    · simp
    · intro c hc
      exact bne_iff_ne.2 fun h => hnul (h ▸ hc)
  rw [toNat_nameLength hshort, ← length_units, nameField, List.take_left, nameOfBytes,
    Text.Utf16.unitsOfBytes_flatMap, decode_terminated, huntil, String.ofList_toList]

end Name

/-! ## Records -/

/-- The record of an entry, with a type tag, a size field and bytes behind the name. -/
def record (e : Entry) (rest : List UInt8) (tag : UInt8) (size : UInt64) : List UInt8 :=
  (e.fields (nameField e.name rest) (nameLength e.name) tag size).flatten

theorem declaredSize_ofByte (major : UInt16) (tag : UInt8) (size : UInt64) :
    declaredSize major (.ofByte tag) size =
      if tag = 1 then 0 else if major = 3 then .ofNat (size.toNat % 2 ^ 32) else size := by
  have hlow : size.toUInt32.toUInt64 = .ofNat (size.toNat % 2 ^ 32) := by
    rw [← UInt64.toNat_inj, UInt32.toNat_toUInt64, UInt64.toNat_toUInt32,
      UInt64.toNat_ofNat_of_lt']
    rw [UInt64.size]
    omega
  rw [declaredSize, hlow]
  simp only [EntryType.ofByte_eq_storage_iff]

section Record

variable {e : Entry} {rest : List UInt8} {tag : UInt8} {size : UInt64} {major : UInt16}
  (hnul : '\x00' ∉ e.name.toList) (hshort : unitCount e.name ≤ 31)
  (hrest : rest.length = 64 - 2 * (unitCount e.name + 1))
include hnul hshort hrest

/-- The record of an entry is what is written of the entry that is read. -/
theorem written_record (size : UInt64) (major : UInt16) (htag : tag ≠ 0) :
    ({ e with type := .ofByte tag, size := declaredSize major (.ofByte tag) size } : Entry).Written
      major (nameField e.name rest) (nameLength e.name) tag size := by
  have hlength := toNat_nameLength hshort
  refine ⟨?_, rfl, ?_, rfl⟩
  · rw [nameField, List.length_append, length_units, hrest, nameSize]
    omega
  · rw [if_neg (EntryType.ofByte_eq_empty_iff.not.2 htag)]
    refine ⟨?_, ?_, (nameOfBytes_nameField hnul hshort).symm⟩
    · rw [hlength, nameSize]
      omega
    · rw [hlength]
      omega

/-- **A written record is read back**, but for the size. -/
theorem parse_record (htag : tag ≠ 0) :
    (e.record rest tag size).length = 128 ∧
      parse (ofList (e.record rest tag size)) e.sid major =
        .ok { e with
          type := .ofByte tag
          size := if tag = 1 then 0 else if major = 3 then .ofNat (size.toNat % 2 ^ 32) else size } := by
  have hwritten := written_record hnul hshort hrest size major htag
  have hlength := length_fields hwritten
  rw [← declaredSize_ofByte]
  exact ⟨hlength, parse_fields hwritten⟩

end Record

/-- A record that is not in use has no name. -/
theorem exists_parse_empty {b : ByteArray} (sid : UInt32) (major : UInt16) (hsize : b.size = 128)
    (htag : byteAt b 0x42 = 0) :
    ∃ e, parse b sid major = .ok e ∧ e.type = .empty ∧ e.name = "" := by
  have hempty : EntryType.ofByte (byteAt b 0x42) = .empty := EntryType.ofByte_eq_empty_iff.2 htag
  have haccepted : ∃ e, parse b sid major = .ok e :=
    parse_ok_iff.2 ⟨hsize, fun hused => absurd hempty hused⟩
  obtain ⟨e, hparse⟩ := haccepted
  refine ⟨e, hparse, ?_⟩
  unfold parse at hparse
  obtain ⟨-, hfields⟩ := guard_eq_ok_iff.1 hparse
  obtain ⟨name, hname, hfields⟩ := bind_eq_ok_iff.1 hfields
  unfold parseName at hname
  rw [if_pos hempty] at hname
  cases hname
  cases hfields
  exact ⟨hempty, rfl⟩

/-- A block is refused for its size, or for the length of the name of a record that is in use. -/
theorem exists_error_iff (b : ByteArray) (sid : UInt32) (major : UInt16) :
    (∃ fault, parse b sid major = .error fault) ↔ b.size ≠ 128 ∨ byteAt b 0x42 ≠ 0 ∧
      (64 < (word16 b 0x40).toNat ∨ (word16 b 0x40).toNat % 2 = 1) := by
  have hlength : ¬((word16 b 0x40).toNat ≤ nameSize ∧ (word16 b 0x40).toNat % 2 = 0) ↔
      64 < (word16 b 0x40).toNat ∨ (word16 b 0x40).toNat % 2 = 1 := by
    unfold nameSize
    omega
  rw [CompoundFile.exists_error_iff, parse_ok_iff, not_and_or, Classical.not_imp, hlength,
    EntryType.ofByte_eq_empty_iff.ne]
  exact Iff.rfl

/-- **Reading a record undoes writing it.** A record in use, of any type, with a name of characters
other than zero that takes at most 31 units, any bytes behind its terminator and any values in the
other fields is decoded to this name and these values; only the size is zero for a storage and cut to
32 bits in version 3. A record of type empty is decoded, without a name. Any other block is a damaged
directory exactly when it has not 128 bytes, or is in use with a name length that is odd or more than
64. -/
theorem record_read_back :
    (∀ (e : Entry) (rest : List UInt8) (tag : UInt8) (size : UInt64) (major : UInt16), tag ≠ 0 →
      '\x00' ∉ e.name.toList → unitCount e.name ≤ 31 →
      rest.length = 64 - 2 * (unitCount e.name + 1) →
      (e.record rest tag size).length = 128 ∧
        parse (ofList (e.record rest tag size)) e.sid major =
          .ok { e with
            type := .ofByte tag
            size :=
              if tag = 1 then 0 else if major = 3 then .ofNat (size.toNat % 2 ^ 32) else size }) ∧
    (∀ tag, (EntryType.ofByte tag).toByte = tag) ∧
    (∀ (b : ByteArray) (sid : UInt32) (major : UInt16), b.size = 128 → byteAt b 0x42 = 0 →
      ∃ e, parse b sid major = .ok e ∧ e.type = .empty ∧ e.name = "") ∧
    ∀ (b : ByteArray) (sid : UInt32) (major : UInt16),
      (∃ fault, parse b sid major = .error fault ∧ (Error.format (.directory fault)).isFormat) ↔
        b.size ≠ 128 ∨ byteAt b 0x42 ≠ 0 ∧
          (64 < (word16 b 0x40).toNat ∨ (word16 b 0x40).toNat % 2 = 1) := by
  refine ⟨?_, EntryType.toByte_ofByte, ?_, ?_⟩
  · intro e rest tag size major htag hnul hshort hrest
    exact parse_record hnul hshort hrest htag
  · intro b sid major hsize htag
    exact exists_parse_empty sid major hsize htag
  · intro b sid major
    rw [← exists_error_iff b sid major]
    simp [Error.isFormat]

/-- A stream in version 3 whose name has a pair of surrogates, with bytes behind the terminator and
a size of more than 32 bits. -/
theorem record_read_back_surrogates :
    parse (ofList ((Sample.entry 7 "a😀" .stream noEntry noEntry 9 0).record (List.replicate 56 0xFF)
      2 0x100000005)) 7 3 = .ok (Sample.entry 7 "a😀" .stream noEntry noEntry 9 5) := by
  obtain ⟨hread, -⟩ := record_read_back
  exact (hread (Sample.entry 7 "a😀" .stream noEntry noEntry 9 0) (List.replicate 56 0xFF) 2
    0x100000005 3 (by decide) (by decide) (by decide) (by decide)).2

end Directory.Entry

end CompoundFile
