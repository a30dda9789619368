import CompoundFile.Proofs.ByteList
import CompoundFile.Proofs.PropertySet.Decoding

/-!
# Written scalars

A value that stands by itself is written as its content, filled up to a multiple of four bytes
(`Atom.bytes`). Text ends with a zero, which its count includes. Only text that is given back as it is
can be written: a zero would end it early, and narrow text must not depend on a codepage
(`AsciiText`, `WideText`).

**Places.** Decoding is checked access at offsets, so it is stated for every byte string that has the
written bytes at the offset (`Bytes.Holds`).

Main result: `reads_scalar`.
-/

namespace CompoundFile.PropertySet

open Bytes (Holds ofList toLE)

/-! ## Checked access -/

section Access

variable {b : ByteArray} {pos : Nat}

theorem slice?_of_holds {l : List UInt8} (h : Holds b pos l) :
    Bytes.slice? b pos l.length = some (ofList l) := by
  rw [Bytes.slice?, if_pos h.add_length_le, h.extract_eq]

theorem slice_of_holds {l : List UInt8} {n : Nat} (h : Holds b pos l) (hn : l.length = n) :
    slice b pos n = .ok (ofList l) := by
  rw [← hn, slice, slice?_of_holds h]

theorem word16_of_holds {v : UInt16} (h : Holds b pos (toLE 2 v.toNat)) : word16 b pos = .ok v := by
  rw [word16, slice_of_holds h (Bytes.length_toLE _ _)]
  exact congrArg Except.ok (Bytes.word16_of_holds (Bytes.holds_ofList _))

theorem word32_of_holds {v : UInt32} (h : Holds b pos (toLE 4 v.toNat)) : word32 b pos = .ok v := by
  rw [word32, slice_of_holds h (Bytes.length_toLE _ _)]
  exact congrArg Except.ok (Bytes.word32_of_holds (Bytes.holds_ofList _))

theorem word64_of_holds {v : UInt64} (h : Holds b pos (toLE 8 v.toNat)) : word64 b pos = .ok v := by
  rw [word64, slice_of_holds h (Bytes.length_toLE _ _)]
  exact congrArg Except.ok (Bytes.word64_of_holds (Bytes.holds_ofList _))

theorem classIdAt_of_holds {c : ClassId} (h : Holds b pos c.bytes.toList) :
    classIdAt b pos = .ok c := by
  rw [classIdAt, slice_of_holds h (by simp)]
  exact congrArg Except.ok (Bytes.classId_of_holds (Bytes.holds_ofList _))

/-- A length or a count that is written in four bytes. -/
theorem exists_word32_of_holds {n : Nat} (hn : n < 2 ^ 32) (h : Holds b pos (toLE 4 n)) :
    ∃ w, word32 b pos = .ok w ∧ w.toNat = n := by
  have hw : (UInt32.ofNat n).toNat = n := UInt32.toNat_ofNat_of_lt' hn
  exact ⟨UInt32.ofNat n, word32_of_holds (hw.symm ▸ h), hw⟩

end Access

/-! ## Text -/

/-- Narrow text that is written: ASCII without a zero. -/
structure AsciiText where
  text : String
  ascii : ∀ c ∈ text.toList, 0 < c.toNat ∧ c.toNat < 0x80

/-- UTF-16 text that is written: any without a zero. -/
structure WideText where
  text : String
  nulFree : ∀ c ∈ text.toList, c.toNat ≠ 0

namespace AsciiText

/-- The bytes of the characters. -/
def letters (t : AsciiText) : List UInt8 := t.text.toList.map fun c => UInt8.ofNat c.toNat

/-- The bytes of the text with the zero behind it. -/
def bytes (t : AsciiText) : List UInt8 := t.letters ++ [0]

theorem step_ascii (upper : Array Char) {c : Char} (hc : c.toNat < 0x80) :
    (Codepage.singleByte upper).decoder.step none (UInt8.ofNat c.toNat) = ([c], none) := by
  have hto : (UInt8.ofNat c.toNat).toNat = c.toNat := by
    rw [UInt8.toNat_ofNat']
    omega
  simp only [Codepage.DoubleByte.decoder, Codepage.DoubleByte.first, Codepage.singleByte, hto, hc,
    if_true, Char.ofNat_toNat]

/-- ASCII stands for itself in a single-byte codepage, whatever its upper half is. -/
theorem run_ascii (upper : Array Char) {cs : List Char} (h : ∀ c ∈ cs, c.toNat < 0x80) :
    (Codepage.singleByte upper).decoder.run none (cs.map fun c => UInt8.ofNat c.toNat) =
      (cs, none) := by
  induction cs with
  | nil => rfl
  | cons c cs ih =>
    obtain ⟨hc, hcs⟩ := List.forall_mem_cons.1 h
    simp only [List.map_cons, Text.Decoder.run, step_ascii upper hc, ih hcs]
    rfl

theorem decodeBytes_letters (t : AsciiText) : Codepage.ascii.decodeBytes t.letters = t.text.toList := by
  have hstart : (Codepage.singleByte #[]).decoder.start = none := rfl
  rw [Codepage.decodeBytes, Text.Decoder.decode, hstart, letters,
    run_ascii _ fun c hc => (t.ascii c hc).2]
  exact List.append_nil _

theorem ne_zero_of_mem_letters {t : AsciiText} {byte : UInt8} (h : byte ∈ t.letters) :
    byte ≠ 0 := by
  obtain ⟨c, hc, rfl⟩ := List.mem_map.1 h
  obtain ⟨hpos, hlt⟩ := t.ascii c hc
  rw [← UInt8.toNat_inj.ne, UInt8.toNat_ofNat', UInt8.toNat_zero]
  omega

/-- **Written ASCII text is read back.** -/
theorem decode_bytes (t : AsciiText) :
    (NarrowText.codepage .ascii).decode (ofList t.bytes) = t.text := by
  have huntil : Bytes.untilNul (ofList t.bytes) = t.letters := by
    show (t.letters ++ [0]).takeWhile _ = _
    rw [List.takeWhile_append_of_pos fun byte hbyte => bne_iff_ne.2 (ne_zero_of_mem_letters hbyte)]
    simp
  rw [NarrowText.decode, Codepage.decode, huntil, t.decodeBytes_letters, String.ofList_toList]

end AsciiText

namespace WideText

/-- The units of the text with the zero behind them. -/
def units (t : WideText) : List UInt16 := Text.Utf16.encode t.text.toList ++ [0]

/-- The bytes of the text with the zero behind it. -/
def bytes (t : WideText) : List UInt8 := t.units.flatMap fun u => toLE 2 u.toNat

theorem length_bytes (t : WideText) : t.bytes.length = 2 * t.units.length := by
  simp [bytes, List.length_flatMap, Nat.mul_comm]

theorem ne_zero_of_mem_encodeChar {c : Char} (hc : c.toNat ≠ 0) {u : UInt16}
    (hu : u ∈ Text.Utf16.encodeChar c) : u ≠ 0 := by
  rw [← UInt16.toNat_inj.ne]
  unfold Text.Utf16.encodeChar at hu
  split at hu
  next hsmall =>
    rw [List.mem_singleton.1 hu, UInt16.toNat_ofNat_of_lt' hsmall]
    exact hc
  next =>
    have hlt : c.toNat < 0x110000 := by
      rcases c.valid with h | h
      · exact Nat.lt_trans h (by decide)
      · exact h.2
    have : UInt16.size = 65536 := rfl
    rcases List.mem_pair.1 hu with rfl | rfl <;> rw [UInt16.toNat_ofNat_of_lt' (by omega)] <;> simp

/-- **Written UTF-16 text is read back.** -/
theorem wide_bytes (t : WideText) : NarrowText.wide (ofList t.bytes) = t.text := by
  have huntil : t.units.takeWhile (· != 0) = Text.Utf16.encode t.text.toList := by
    rw [units, List.takeWhile_append_of_pos]
    · simp
    · intro u hu
      obtain ⟨c, hc, hu⟩ := List.mem_flatMap.1 hu
      exact bne_iff_ne.2 (ne_zero_of_mem_encodeChar (t.nulFree c hc) hu)
  rw [NarrowText.wide]
  show String.ofList (Text.Utf16.decode ((Text.Utf16.unitsOfBytes t.bytes).takeWhile _)) = _
  rw [bytes, Text.Utf16.unitsOfBytes_flatMap, huntil, Text.Utf16.decode_encode, String.ofList_toList]

end WideText

/-! ## Values -/

/-- The tag of a scalar type. Some types have others besides. -/
def ScalarType.tag : ScalarType → UInt16
  | .empty => 0
  | .null => 1
  | .int16 => 2
  | .int32 => 3
  | .real32 => 4
  | .real64 => 5
  | .currency => 6
  | .date => 7
  | .bool => 11
  | .int8 => 16
  | .uint8 => 17
  | .uint16 => 18
  | .uint32 => 19
  | .int64 => 20
  | .uint64 => 21
  | .narrow => 30
  | .wide => 31
  | .filetime => 64
  | .blob => 65
  | .clipboard => 71
  | .classId => 72

theorem ScalarType.shape_tag (t : ScalarType) : Shape.ofTag t.tag = .scalar (some t) := by
  cases t <;> rfl

/-- A value that stands by itself. -/
inductive Atom where
  | empty
  | null
  | int8 (n : Int8)
  | uint8 (n : UInt8)
  | int16 (n : Int16)
  | uint16 (n : UInt16)
  | int32 (n : Int32)
  | uint32 (n : UInt32)
  | int64 (n : Int64)
  | uint64 (n : UInt64)
  | real (x : Binary64)
  | currency (n : Int64)
  | date (x : Binary64)
  | bool (b : Bool)
  | narrow (t : AsciiText)
  | wide (t : WideText)
  | filetime (ticks : UInt64)
  | blob (data : ByteArray)
  | clipboard (format : Int32) (data : ByteArray)
  | classId (id : ClassId)

namespace Atom

def type : Atom → ScalarType
  | empty => .empty
  | null => .null
  | int8 _ => .int8
  | uint8 _ => .uint8
  | int16 _ => .int16
  | uint16 _ => .uint16
  | int32 _ => .int32
  | uint32 _ => .uint32
  | int64 _ => .int64
  | uint64 _ => .uint64
  | real _ => .real64
  | currency _ => .currency
  | date _ => .date
  | bool _ => .bool
  | narrow _ => .narrow
  | wide _ => .wide
  | filetime _ => .filetime
  | blob _ => .blob
  | clipboard _ _ => .clipboard
  | classId _ => .classId

def value : Atom → Value
  | empty => .empty
  | null => .null
  | int8 n => .int8 n
  | uint8 n => .uint8 n
  | int16 n => .int16 n
  | uint16 n => .uint16 n
  | int32 n => .int32 n
  | uint32 n => .uint32 n
  | int64 n => .int64 n
  | uint64 n => .uint64 n
  | real x => .real x
  | currency n => .currency n
  | date x => .date x
  | bool b => .bool b
  | narrow t => .narrow t.text
  | wide t => .wide t.text
  | filetime ticks => .filetime ticks
  | blob data => .blob data
  | clipboard format data => .clipboard format data
  | classId id => .classId id

/-- The bytes of the value without the padding. Truth is all bits set. The size of clipboard data
covers its format. -/
def content : Atom → List UInt8
  | empty | null => []
  | int8 n => [n.toUInt8]
  | uint8 n => [n]
  | int16 n => toLE 2 n.toUInt16.toNat
  | uint16 n => toLE 2 n.toNat
  | int32 n => toLE 4 n.toUInt32.toNat
  | uint32 n => toLE 4 n.toNat
  | int64 n | currency n => toLE 8 n.toUInt64.toNat
  | uint64 n | filetime n => toLE 8 n.toNat
  | real x | date x => toLE 8 x.bits.toNat
  | bool b => toLE 2 (if b then 0xFFFF else 0 : UInt16).toNat
  | narrow t => toLE 4 t.bytes.length ++ t.bytes
  | wide t => toLE 4 t.units.length ++ t.bytes
  | blob data => toLE 4 data.size ++ data.data.toList
  | clipboard format data =>
    toLE 4 (4 + data.size) ++ (toLE 4 format.toUInt32.toNat ++ data.data.toList)
  | classId id => id.bytes.toList

/-- The bytes of the value, padded to a multiple of four. -/
def bytes (a : Atom) : List UInt8 := Bytes.fill (padded a.content.length) 0 a.content

theorem length_bytes (a : Atom) : a.bytes.length = padded a.content.length := by
  rw [bytes, Bytes.fill, List.length_append, List.length_replicate]
  unfold padded
  omega

theorem length_content_le (a : Atom) : a.content.length ≤ a.bytes.length := by
  rw [length_bytes]
  unfold padded
  omega

end Atom

section Scalars

variable {b : ByteArray} {pos : Nat}

/-- A scalar of a fixed length. -/
theorem Reads.fixed {α : Type} {x : Except Fault α} {a : α} (hx : x = .ok a) (f : α → Value)
    (length : Nat) :
    Reads (do return .spanning (f (← x)) 0 length : Except Fault (Read Value pos)) (f a)
      (pos + padded length) :=
  ⟨.spanning (f a) 0 length, by rw [hx]; rfl, rfl, rfl⟩

/-- A scalar that has a count written before it, which determines its length. -/
theorem Reads.counted {l : List UInt8} {n : Nat} (length : Nat → Nat) (hn : n < 2 ^ 32)
    (hl : l.length = length n) (h : Holds b pos (toLE 4 n ++ l)) (f : ByteArray → Value) :
    Reads (do
      let length := length (← word32 b pos).toNat
      return .spanning (f (← slice b (pos + 4) length)) 4 length : Except Fault (Read Value pos))
      (f (ofList l)) (pos + padded (toLE 4 n ++ l).length) := by
  obtain ⟨w, hw, rfl⟩ := exists_word32_of_holds hn h.left
  have hslice : slice b (pos + 4) (length w.toNat) = .ok (ofList l) := slice_of_holds h.right hl
  refine ⟨.spanning (f (ofList l)) 4 (length w.toNat), ?_, rfl, ?_⟩
  · exact bind_eq_ok_iff.2 ⟨w, hw, bind_eq_ok_iff.2 ⟨_, hslice, rfl⟩⟩
  · show pos + 4 + padded (length w.toNat) = _
    rw [List.length_append, Bytes.length_toLE, hl]
    unfold padded
    omega

/-- Clipboard data has its size and its format written before it. -/
theorem reads_clipboard (hsize : b.size < 2 ^ 32) (format : Int32) (data : ByteArray)
    (h : Holds b pos (Atom.clipboard format data).content) :
    Reads (scalar b (.codepage .ascii) .clipboard pos) (.clipboard format data)
      (pos + padded (Atom.clipboard format data).content.length) := by
  have hlength : (Atom.clipboard format data).content.length = 8 + data.size := by
    simp only [Atom.content, List.length_append, Bytes.length_toLE, Array.length_toList,
      ByteArray.size_data]
    omega
  have hle := h.add_length_le
  obtain ⟨w, hw, hwsize⟩ := exists_word32_of_holds (by omega) h.left
  have hformat : word32 b (pos + 4) = .ok format.toUInt32 := word32_of_holds h.right.left
  have hslice : slice b (pos + 8) (w.toNat - 4) = .ok data :=
    slice_of_holds h.right.right (by rw [hwsize, Nat.add_sub_cancel_left]; rfl)
  refine ⟨.spanning (.clipboard format data) 8 (w.toNat - 4), ?_, rfl, ?_⟩
  · refine bind_eq_ok_iff.2 ⟨w, hw, guard_eq_ok_iff.2 ⟨by omega, ?_⟩⟩
    exact bind_eq_ok_iff.2 ⟨_, hformat, bind_eq_ok_iff.2 ⟨_, hslice, rfl⟩⟩
  · show pos + 8 + padded (w.toNat - 4) = _
    rw [hlength, hwsize]
    unfold padded
    omega

/-- **A written scalar is read back.** -/
theorem reads_scalar (hsize : b.size < 2 ^ 32) (a : Atom) (h : Holds b pos a.content) :
    Reads (scalar b (.codepage .ascii) a.type pos) a.value (pos + padded a.content.length) := by
  have hle := h.add_length_le
  cases a with
  | empty => exact ⟨.spanning .empty 0 0, rfl, rfl, rfl⟩
  | null => exact ⟨.spanning .null 0 0, rfl, rfl, rfl⟩
  | int8 n =>
    exact Reads.fixed (slice_of_holds h rfl) (fun s => .int8 (Bytes.byteAt s 0).toInt8) 1
  | uint8 n => exact Reads.fixed (slice_of_holds h rfl) (fun s => .uint8 (Bytes.byteAt s 0)) 1
  | int16 n => exact Reads.fixed (word16_of_holds h) (fun w => .int16 w.toInt16) 2
  | uint16 n => exact Reads.fixed (word16_of_holds h) .uint16 2
  | int32 n => exact Reads.fixed (word32_of_holds h) (fun w => .int32 w.toInt32) 4
  | uint32 n => exact Reads.fixed (word32_of_holds h) .uint32 4
  | int64 n => exact Reads.fixed (word64_of_holds h) (fun w => .int64 w.toInt64) 8
  | uint64 n => exact Reads.fixed (word64_of_holds h) .uint64 8
  | real x => exact Reads.fixed (word64_of_holds h) (fun w => .real ⟨w⟩) 8
  | currency n => exact Reads.fixed (word64_of_holds h) (fun w => .currency w.toInt64) 8
  | date x => exact Reads.fixed (word64_of_holds h) (fun w => .date ⟨w⟩) 8
  | bool t =>
    cases t with
    | false => exact Reads.fixed (word16_of_holds h) (fun w => .bool (w != 0)) 2
    | true => exact Reads.fixed (word16_of_holds h) (fun w => .bool (w != 0)) 2
  | narrow t =>
    have hn : t.bytes.length < 2 ^ 32 := by
      simp only [Atom.content, List.length_append] at hle
      omega
    have hread := Reads.counted id hn rfl h fun s => .narrow ((NarrowText.codepage .ascii).decode s)
    rw [t.decode_bytes] at hread
    exact hread
  | wide t =>
    have hn : t.units.length < 2 ^ 32 := by
      simp only [Atom.content, List.length_append, t.length_bytes] at hle
      omega
    have hread := Reads.counted (2 * ·) hn t.length_bytes h fun s => .wide (NarrowText.wide s)
    rw [t.wide_bytes] at hread
    exact hread
  | filetime ticks => exact Reads.fixed (word64_of_holds h) .filetime 8
  | blob data =>
    have hn : data.size < 2 ^ 32 := by
      simp only [Atom.content, List.length_append, Array.length_toList, ByteArray.size_data] at hle
      omega
    exact Reads.counted id hn rfl h .blob
  | clipboard format data => exact reads_clipboard hsize format data h
  | classId id =>
    have hlength : (Atom.classId id).content.length = 16 := Vector.length_toList
    rw [hlength]
    exact Reads.fixed (classIdAt_of_holds h) .classId 16

end Scalars

end CompoundFile.PropertySet
