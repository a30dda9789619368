import CompoundFile.Proofs.Bytes
import CompoundFile.Proofs.Directory.Links
import CompoundFile.Proofs.Results

/-!
# The records of a directory

What decoding needs of a record stands at fixed offsets from its beginning: its type, the length of
its name and its links. The records are decoded exactly when all names have admissible lengths
(`parseEntries_ok_iff`), and the entries have the types and links of their records
(`Decodes.type_eq`, `Decodes.link_eq`).
-/

namespace CompoundFile

namespace Directory

/-! ## One record -/

namespace Entry

/-- A name is decoded when its length is admissible, and always in an empty record. -/
theorem parseName_ok_iff {b : ByteArray} {sid : UInt32} {type : EntryType} :
    (∃ name, parseName b sid type = .ok name) ↔ (type ≠ .empty →
      (Bytes.word16 b 0x40).toNat ≤ nameSize ∧ (Bytes.word16 b 0x40).toNat % 2 = 0) := by
  unfold parseName
  by_cases hempty : type = .empty
  · simp [hempty]
  · by_cases hlength : nameSize < (Bytes.word16 b 0x40).toNat ∨ (Bytes.word16 b 0x40).toNat % 2 ≠ 0
    · simp only [if_neg hempty, if_pos hlength]
      constructor
      · rintro ⟨name, h⟩
        cases h
      · intro h
        have := h hempty
        omega
    · simp only [if_neg hempty, if_neg hlength]
      refine ⟨fun _ _ => ?_, fun _ => ⟨_, rfl⟩⟩
      omega

/-- A record is decoded when it is complete and its name is decoded. -/
theorem parse_ok_iff {b : ByteArray} {sid : UInt32} {major : UInt16} :
    (∃ e, parse b sid major = .ok e) ↔ b.size = recordSize ∧
      (EntryType.ofByte (Bytes.byteAt b 0x42) ≠ .empty →
        (Bytes.word16 b 0x40).toNat ≤ nameSize ∧ (Bytes.word16 b 0x40).toNat % 2 = 0) := by
  rw [← parseName_ok_iff]
  unfold parse
  constructor
  · rintro ⟨e, h⟩
    obtain ⟨hsize, h⟩ := guard_eq_ok_iff.1 h
    obtain ⟨name, hname, -⟩ := bind_eq_ok_iff.1 h
    exact ⟨not_not.1 hsize, name, hname⟩
  · rintro ⟨hsize, name, hname⟩
    exact ⟨_, guard_eq_ok_iff.2 ⟨not_not.2 hsize, bind_eq_ok_iff.2 ⟨name, hname, rfl⟩⟩⟩

/-- What decoding takes over from a record. -/
theorem eq_of_parse {b : ByteArray} {sid : UInt32} {major : UInt16} {e : Entry}
    (h : parse b sid major = .ok e) :
    e.sid = sid ∧ e.type = .ofByte (Bytes.byteAt b 0x42) ∧ e.left = Bytes.word32 b 0x44 ∧
      e.right = Bytes.word32 b 0x48 ∧ e.child = Bytes.word32 b 0x4C := by
  unfold parse at h
  obtain ⟨-, h⟩ := guard_eq_ok_iff.1 h
  obtain ⟨name, -, h⟩ := bind_eq_ok_iff.1 h
  cases h
  exact ⟨rfl, rfl, rfl, rfl, rfl⟩

end Entry

/-! ## All records -/

/-- The number of complete records. -/
def recordCount (data : ByteArray) : Nat := data.size / Entry.recordSize

/-- The type of a record. -/
def typeAt (data : ByteArray) (i : Nat) : EntryType :=
  .ofByte (Bytes.byteAt data (Entry.recordSize * i + 0x42))

/-- The length of the name of a record in bytes. -/
def nameLengthAt (data : ByteArray) (i : Nat) : Nat :=
  (Bytes.word16 data (Entry.recordSize * i + 0x40)).toNat

/-- A record of the directory. -/
def recordAt (data : ByteArray) (i : Nat) : ByteArray :=
  data.extract (Entry.recordSize * i) (Entry.recordSize * i + Entry.recordSize)

section Record

variable {data : ByteArray} {i : Nat} (hi : i < recordCount data)
include hi

theorem record_le : Entry.recordSize * i + Entry.recordSize ≤ data.size := by
  unfold recordCount Entry.recordSize at *
  omega

theorem size_recordAt : (recordAt data i).size = Entry.recordSize := by
  have := record_le hi
  rw [recordAt, ByteArray.size_extract]
  omega

theorem typeAt_eq : typeAt data i = .ofByte (Bytes.byteAt (recordAt data i) 0x42) := by
  rw [recordAt, Bytes.byteAt_extract (by simp [Entry.recordSize]) (record_le hi)]
  rfl

theorem nameLengthAt_eq :
    nameLengthAt data i = (Bytes.word16 (recordAt data i) 0x40).toNat := by
  rw [recordAt, Bytes.word16_extract (by simp [Entry.recordSize]) (record_le hi)]
  rfl

theorem word32_recordAt {offset : Nat} (hoffset : offset + 4 ≤ Entry.recordSize) :
    Bytes.word32 (recordAt data i) offset = Bytes.word32 data (Entry.recordSize * i + offset) :=
  Bytes.word32_extract (by omega) (record_le hi)

end Record

/-- The records are decoded to the entries. -/
def Decodes (data : ByteArray) (major : UInt16) (es : List Entry) : Prop :=
  List.Forall₂ (fun i e => Entry.parse (recordAt data i) (UInt32.ofNat i) major = .ok e)
    (List.range (recordCount data)) es

theorem zipIdx_chunks (data : ByteArray) :
    (Bytes.chunks Entry.recordSize data).zipIdx =
      (List.range (recordCount data)).map fun i => (recordAt data i, i) := by
  refine List.ext_getElem (by simp [recordCount]) fun i hi hi' => ?_
  simp [Bytes.chunks, recordAt]

theorem parseEntries_eq_ok_iff {data : ByteArray} {major : UInt16} {es : List Entry} :
    Tree.parseEntries data major = .ok es ↔ Decodes data major es := by
  rw [Tree.parseEntries, zipIdx_chunks, mapM_eq_ok_iff, List.forall₂_map_left_iff]
  exact Iff.rfl

/-- The records are decoded exactly when all names that count have admissible lengths. -/
theorem parseEntries_ok_iff {data : ByteArray} {major : UInt16} :
    (∃ es, Tree.parseEntries data major = .ok es) ↔ ∀ i < recordCount data,
      typeAt data i ≠ .empty → nameLengthAt data i ≤ Entry.nameSize ∧ nameLengthAt data i % 2 = 0 := by
  rw [Tree.parseEntries, zipIdx_chunks, mapM_ok_iff]
  simp only [List.mem_map, List.mem_range, forall_exists_index, and_imp, forall_apply_eq_imp_iff₂]
  refine forall₂_congr fun i hi => ?_
  rw [Entry.parse_ok_iff, typeAt_eq hi, nameLengthAt_eq hi]
  exact ⟨And.right, fun h => ⟨size_recordAt hi, h⟩⟩

/-! ## Links -/

/-- Where a link stands in a record. -/
def Side.offset : Side → Nat
  | .left => 0x44
  | .right => 0x48
  | .child => 0x4C

/-- The links and types in the records. -/
def Links.ofRecords (data : ByteArray) : Links where
  target l :=
    if l.1.toNat < recordCount data then
      Bytes.word32 data (Entry.recordSize * l.1.toNat + l.2.offset)
    else noEntry
  type? n := if n.toNat < recordCount data then some (typeAt data n.toNat) else none

namespace Decodes

variable {data : ByteArray} {major : UInt16} {es : List Entry} (h : Decodes data major es)
include h

theorem length_eq : es.length = recordCount data := by
  rw [← List.Forall₂.length_eq h, List.length_range]

theorem parse_getElem {i : Nat} (hi : i < es.length) :
    Entry.parse (recordAt data i) (UInt32.ofNat i) major = .ok es[i] := by
  have hlt : i < (List.range (recordCount data)).length := by
    rw [List.length_range, ← h.length_eq]
    exact hi
  have hget := List.Forall₂.get h hlt hi
  simpa using hget

theorem sid_eq {i : Nat} (hi : i < es.length) : es[i].sid = UInt32.ofNat i :=
  (Entry.eq_of_parse (h.parse_getElem hi)).1

theorem type_eq {i : Nat} (hi : i < es.length) : es[i].type = typeAt data i := by
  rw [typeAt_eq (h.length_eq ▸ hi)]
  exact (Entry.eq_of_parse (h.parse_getElem hi)).2.1

/-- The entries have the links and types of their records. -/
theorem links_eq : Links.ofEntries es.toArray = Links.ofRecords data := by
  refine congrArg₂ Links.mk (funext fun l => ?_) (funext fun n => ?_)
  · by_cases hlt : l.1.toNat < es.length
    · have hlt' : l.1.toNat < recordCount data := h.length_eq ▸ hlt
      obtain ⟨-, -, hleft, hright, hchild⟩ := Entry.eq_of_parse (h.parse_getElem hlt)
      rw [if_pos hlt', List.getElem?_toArray, List.getElem?_eq_getElem hlt]
      obtain ⟨n, side⟩ := l
      cases side with
      | left => exact hleft.trans (word32_recordAt hlt' (by decide))
      | right => exact hright.trans (word32_recordAt hlt' (by decide))
      | child => exact hchild.trans (word32_recordAt hlt' (by decide))
    · rw [if_neg (h.length_eq ▸ hlt), List.getElem?_toArray, List.getElem?_eq_none (by omega)]
  · by_cases hlt : n.toNat < es.length
    · rw [if_pos (h.length_eq ▸ hlt), List.getElem?_toArray, List.getElem?_eq_getElem hlt,
        Option.map_some, h.type_eq hlt]
    · rw [if_neg (h.length_eq ▸ hlt), List.getElem?_toArray, List.getElem?_eq_none (by omega),
        Option.map_none]

end Decodes

end Directory

end CompoundFile
