import CompoundFile.Proofs.Bytes
import CompoundFile.Proofs.Results
import CompoundFile.PropertySet

/-!
# When values are read

Decoding gives a value together with the offset past it (`Reads`). Where a type may be one that is not
decoded it gives such a pair or nothing (`Decodes`). There is one law for every part of the decoder. It
says when the part gives something, and what, by the parts that it is made of.

**Scalars** are read when all their bytes are inside the section (`ScalarType.Fits`), whatever
the way of narrow text is.

**Induction.** The elements of a vector begin behind its tag, and a tag is read inside the section only.
So a fact about decoding at an offset may be shown from the same fact at all later offsets
(`offset_induction`).

Main results: `reads_scalar_iff`, `decodes_tagged_iff`, `reads_vector_iff` and
`reads_elements_succ_iff`.
-/

namespace CompoundFile.PropertySet

/-- Something was read: a value, and the offset past it. -/
def Reads {α : Type} {pos : Nat} (x : Except Fault (Read α pos)) (value : α) (next : Nat) : Prop :=
  ∃ r, x = .ok r ∧ r.value = value ∧ r.next = next

/-- A value of a decoded type was read. -/
def Decodes {pos : Nat} (x : Except Fault (Option (Read Value pos))) (value : Value) (next : Nat) :
    Prop :=
  ∃ r, x = .ok (some r) ∧ r.value = value ∧ r.next = next

/-- What was read past a tag, as read from the tag on. -/
def Read.withTag {α : Type} {pos skip : Nat} (r : Read α (pos + skip)) : Read α pos :=
  ⟨r.value, r.next, Nat.le_trans (Nat.le_add_right pos skip) r.le_next⟩

/-- One element of a vector. -/
def element (b : ByteArray) (text : NarrowText) (e : ElementType) (pos : Nat) :
    Except Fault (Option (Read Value pos)) :=
  match e with
  | .scalar type => (scalar b text type pos).map some
  | .tagged => (tagged b text pos).map fun r => r.map Read.withTag

/-! ## Checked access -/

section Access

variable {b : ByteArray} {pos length : Nat}

theorem slice_eq_ok_iff {s : ByteArray} :
    slice b pos length = .ok s ↔ pos + length ≤ b.size ∧ b.extract pos (pos + length) = s := by
  rw [← Bytes.slice?_eq_some_iff]
  unfold slice
  cases Bytes.slice? b pos length <;> simp

theorem map_slice_eq_ok_iff {α : Type} {f : ByteArray → α} {a : α} :
    (slice b pos length).map f = .ok a ↔
      pos + length ≤ b.size ∧ f (b.extract pos (pos + length)) = a := by
  simp only [map_eq_ok_iff, slice_eq_ok_iff]
  constructor
  · rintro ⟨s, ⟨hle, rfl⟩, h⟩
    exact ⟨hle, h⟩
  · rintro ⟨hle, h⟩
    exact ⟨_, ⟨hle, rfl⟩, h⟩

theorem word16_eq_ok_iff {w : UInt16} :
    word16 b pos = .ok w ↔ pos + 2 ≤ b.size ∧ Bytes.word16 b pos = w := by
  rw [word16, map_slice_eq_ok_iff]
  refine and_congr_right fun hle => ?_
  rw [Bytes.word16_extract (by omega) hle, Nat.add_zero]

theorem word32_eq_ok_iff {w : UInt32} :
    word32 b pos = .ok w ↔ pos + 4 ≤ b.size ∧ Bytes.word32 b pos = w := by
  rw [word32, map_slice_eq_ok_iff]
  refine and_congr_right fun hle => ?_
  rw [Bytes.word32_extract (by omega) hle, Nat.add_zero]

theorem word64_eq_ok_iff {w : UInt64} :
    word64 b pos = .ok w ↔ pos + 8 ≤ b.size ∧ Bytes.word64 b pos = w := by
  rw [word64, map_slice_eq_ok_iff]
  refine and_congr_right fun hle => ?_
  rw [Bytes.word64_extract (by omega) hle, Nat.add_zero]

theorem classIdAt_eq_ok_iff {c : ClassId} :
    classIdAt b pos = .ok c ↔ pos + 16 ≤ b.size ∧ ClassId.read b pos = c := by
  rw [classIdAt, map_slice_eq_ok_iff]
  refine and_congr_right fun hle => ?_
  rw [Bytes.classId_extract (by omega) hle, Nat.add_zero]

end Access

/-! ## Scalars -/

namespace ScalarType

/-- The number of bytes that the content of a scalar takes. A count stands before the bytes that it
counts; the count of clipboard data covers the format. -/
def length (b : ByteArray) (pos : Nat) : ScalarType → Nat
  | .empty | .null => 0
  | .int8 | .uint8 => 1
  | .int16 | .uint16 | .bool => 2
  | .int32 | .uint32 | .real32 => 4
  | .int64 | .uint64 | .real64 | .currency | .date | .filetime => 8
  | .classId => 16
  | .narrow | .blob | .clipboard => 4 + (Bytes.word32 b pos).toNat
  | .wide => 4 + 2 * (Bytes.word32 b pos).toNat

/-- The content of a scalar is inside the section, and clipboard data has a format. -/
def Fits (b : ByteArray) (pos : Nat) : ScalarType → Prop
  | .empty | .null => True
  | .clipboard => pos + clipboard.length b pos ≤ b.size ∧ 4 ≤ (Bytes.word32 b pos).toNat
  | type => pos + type.length b pos ≤ b.size

/-- The scalar that stands at a position. -/
def value (b : ByteArray) (text : NarrowText) (pos : Nat) (type : ScalarType) : Value :=
  let counted := b.extract (pos + 4) (pos + type.length b pos)
  match type with
  | .empty => .empty
  | .null => .null
  | .int8 => .int8 (Bytes.byteAt b pos).toInt8
  | .uint8 => .uint8 (Bytes.byteAt b pos)
  | .int16 => .int16 (Bytes.word16 b pos).toInt16
  | .uint16 => .uint16 (Bytes.word16 b pos)
  | .bool => .bool (Bytes.word16 b pos != 0)
  | .int32 => .int32 (Bytes.word32 b pos).toInt32
  | .uint32 => .uint32 (Bytes.word32 b pos)
  | .real32 => .real (Binary64.widen (Bytes.word32 b pos))
  | .int64 => .int64 (Bytes.word64 b pos).toInt64
  | .uint64 => .uint64 (Bytes.word64 b pos)
  | .real64 => .real ⟨Bytes.word64 b pos⟩
  | .currency => .currency (Bytes.word64 b pos).toInt64
  | .date => .date ⟨Bytes.word64 b pos⟩
  | .filetime => .filetime (Bytes.word64 b pos)
  | .classId => .classId (ClassId.read b pos)
  | .narrow => .narrow (text.decode counted)
  | .wide => .wide (NarrowText.wide counted)
  | .blob => .blob counted
  | .clipboard =>
    .clipboard (Bytes.word32 b (pos + 4)).toInt32
      (b.extract (pos + 8) (pos + type.length b pos))

end ScalarType

section Scalars

variable {b : ByteArray} {pos next : Nat} {v : Value}

/-- A scalar without content. -/
theorem reads_bare_iff (value : Value) :
    Reads (.ok (.spanning value 0 0) : Except Fault (Read Value pos)) v next ↔
      True ∧ value = v ∧ next = pos + padded 0 := by
  constructor
  · rintro ⟨r, hr, rfl, rfl⟩
    cases hr
    exact ⟨trivial, rfl, rfl⟩
  · rintro ⟨-, rfl, rfl⟩
    exact ⟨_, rfl, rfl, rfl⟩

/-- A scalar of a fixed length. -/
theorem reads_fixed_iff {α : Type} {x : Except Fault α} {length : Nat} {a : α} (f : α → Value)
    (hx : ∀ a', x = .ok a' ↔ pos + length ≤ b.size ∧ a = a') :
    Reads (do return .spanning (f (← x)) 0 length : Except Fault (Read Value pos)) v next ↔
      pos + length ≤ b.size ∧ f a = v ∧ next = pos + padded length := by
  constructor
  · rintro ⟨r, hr, rfl, rfl⟩
    obtain ⟨a', ha, hr⟩ := bind_eq_ok_iff.1 hr
    obtain ⟨hle, rfl⟩ := (hx a').1 ha
    cases hr
    exact ⟨hle, rfl, rfl⟩
  · rintro ⟨hle, rfl, rfl⟩
    exact ⟨_, bind_eq_ok_iff.2 ⟨a, (hx a).2 ⟨hle, rfl⟩, rfl⟩, rfl, rfl⟩

/-- A scalar of one byte. -/
theorem reads_byte_iff (f : UInt8 → Value) :
    Reads (do return .spanning (f (Bytes.byteAt (← slice b pos 1) 0)) 0 1 :
      Except Fault (Read Value pos)) v next ↔
      pos + 1 ≤ b.size ∧ f (Bytes.byteAt b pos) = v ∧ next = pos + padded 1 := by
  refine (reads_fixed_iff (fun s => f (Bytes.byteAt s 0)) fun _ => slice_eq_ok_iff).trans ?_
  refine and_congr_right fun hle => ?_
  rw [Bytes.byteAt_extract (by omega) hle, Nat.add_zero]

/-- A scalar that has a count before it, which determines its length. -/
theorem reads_counted_iff (length : Nat → Nat) (f : ByteArray → Value) :
    Reads (do
      let length := length (← word32 b pos).toNat
      return .spanning (f (← slice b (pos + 4) length)) 4 length : Except Fault (Read Value pos))
      v next ↔
    pos + (4 + length (Bytes.word32 b pos).toNat) ≤ b.size ∧
      f (b.extract (pos + 4) (pos + (4 + length (Bytes.word32 b pos).toNat))) = v ∧
      next = pos + padded (4 + length (Bytes.word32 b pos).toNat) := by
  have hpadded : ∀ n, pos + padded (4 + n) = pos + 4 + padded n := fun n => by
    unfold padded
    omega
  rw [hpadded, ← Nat.add_assoc]
  constructor
  · rintro ⟨r, hr, rfl, rfl⟩
    obtain ⟨w, hw, hr⟩ := bind_eq_ok_iff.1 hr
    obtain ⟨s, hs, hr⟩ := bind_eq_ok_iff.1 hr
    obtain ⟨-, rfl⟩ := word32_eq_ok_iff.1 hw
    obtain ⟨hle, rfl⟩ := slice_eq_ok_iff.1 hs
    cases hr
    exact ⟨hle, rfl, rfl⟩
  · rintro ⟨hle, rfl, rfl⟩
    have hw := word32_eq_ok_iff.2 ⟨show pos + 4 ≤ b.size by omega, rfl⟩
    have hs := slice_eq_ok_iff.2 ⟨hle, rfl⟩
    exact ⟨_, bind_eq_ok_iff.2 ⟨_, hw, bind_eq_ok_iff.2 ⟨_, hs, rfl⟩⟩, rfl, rfl⟩

/-- Clipboard data has its size and its format before it. -/
theorem reads_clipboard_iff {text : NarrowText} :
    Reads (scalar b text .clipboard pos) v next ↔
      (pos + (4 + (Bytes.word32 b pos).toNat) ≤ b.size ∧ 4 ≤ (Bytes.word32 b pos).toNat) ∧
        ScalarType.clipboard.value b text pos = v ∧
        next = pos + padded (4 + (Bytes.word32 b pos).toNat) := by
  -- The content has 8 bytes before the data, and the data has 4 bytes less than its size says.
  have hpast : ∀ n, 4 ≤ n → pos + 8 + (n - 4) = pos + (4 + n) := by omega
  have hpadded : ∀ n, 4 ≤ n → pos + 8 + padded (n - 4) = pos + padded (4 + n) := fun n hn => by
    unfold padded
    omega
  constructor
  · rintro ⟨r, hr, rfl, rfl⟩
    obtain ⟨w, hw, hr⟩ := bind_eq_ok_iff.1 hr
    obtain ⟨-, rfl⟩ := word32_eq_ok_iff.1 hw
    obtain ⟨hfour, hr⟩ := guard_eq_ok_iff.1 hr
    rw [Nat.not_lt] at hfour
    obtain ⟨format, hformat, hr⟩ := bind_eq_ok_iff.1 hr
    obtain ⟨s, hs, hr⟩ := bind_eq_ok_iff.1 hr
    obtain ⟨-, rfl⟩ := word32_eq_ok_iff.1 hformat
    obtain ⟨hle, rfl⟩ := slice_eq_ok_iff.1 hs
    cases hr
    rw [hpast _ hfour] at hle ⊢
    exact ⟨⟨hle, hfour⟩, rfl, hpadded _ hfour⟩
  · rintro ⟨⟨hle, hfour⟩, rfl, rfl⟩
    have hw := word32_eq_ok_iff.2 ⟨show pos + 4 ≤ b.size by omega, rfl⟩
    have hformat := word32_eq_ok_iff.2 ⟨show pos + 4 + 4 ≤ b.size by omega, rfl⟩
    have hs : slice b (pos + 8) ((Bytes.word32 b pos).toNat - 4) = .ok
        (b.extract (pos + 8) (pos + (4 + (Bytes.word32 b pos).toNat))) :=
      slice_eq_ok_iff.2 (by rw [hpast _ hfour]; exact ⟨hle, rfl⟩)
    refine ⟨.spanning (ScalarType.clipboard.value b text pos) 8 ((Bytes.word32 b pos).toNat - 4),
      ?_, rfl, hpadded _ hfour⟩
    exact bind_eq_ok_iff.2 ⟨_, hw, guard_eq_ok_iff.2 ⟨Nat.not_lt.2 hfour,
      bind_eq_ok_iff.2 ⟨_, hformat, bind_eq_ok_iff.2 ⟨_, hs, rfl⟩⟩⟩⟩

/-- **A scalar is read when its content fits**, whatever the way of narrow text is. -/
theorem reads_scalar_iff {text : NarrowText} {type : ScalarType} :
    Reads (scalar b text type pos) v next ↔
      type.Fits b pos ∧ type.value b text pos = v ∧ next = pos + padded (type.length b pos) := by
  cases type with
  | empty => exact reads_bare_iff .empty
  | null => exact reads_bare_iff .null
  | int8 => exact reads_byte_iff (fun w => .int8 w.toInt8)
  | uint8 => exact reads_byte_iff .uint8
  | int16 => exact reads_fixed_iff (fun w => .int16 w.toInt16) fun _ => word16_eq_ok_iff
  | uint16 => exact reads_fixed_iff .uint16 fun _ => word16_eq_ok_iff
  | bool => exact reads_fixed_iff (fun w => .bool (w != 0)) fun _ => word16_eq_ok_iff
  | int32 => exact reads_fixed_iff (fun w => .int32 w.toInt32) fun _ => word32_eq_ok_iff
  | uint32 => exact reads_fixed_iff .uint32 fun _ => word32_eq_ok_iff
  | real32 => exact reads_fixed_iff (fun w => .real (.widen w)) fun _ => word32_eq_ok_iff
  | int64 => exact reads_fixed_iff (fun w => .int64 w.toInt64) fun _ => word64_eq_ok_iff
  | uint64 => exact reads_fixed_iff .uint64 fun _ => word64_eq_ok_iff
  | real64 => exact reads_fixed_iff (fun w => .real ⟨w⟩) fun _ => word64_eq_ok_iff
  | currency => exact reads_fixed_iff (fun w => .currency w.toInt64) fun _ => word64_eq_ok_iff
  | date => exact reads_fixed_iff (fun w => .date ⟨w⟩) fun _ => word64_eq_ok_iff
  | filetime => exact reads_fixed_iff .filetime fun _ => word64_eq_ok_iff
  | classId => exact reads_fixed_iff .classId fun _ => classIdAt_eq_ok_iff
  | narrow => exact reads_counted_iff id fun s => .narrow (text.decode s)
  | wide => exact reads_counted_iff (2 * ·) fun s => .wide (NarrowText.wide s)
  | blob => exact reads_counted_iff id .blob
  | clipboard => exact reads_clipboard_iff

end Scalars

/-! ## Tags and vectors -/

section Vectors

variable {b : ByteArray} {text : NarrowText} {pos next : Nat} {v : Value} {vs : List Value}

theorem Decodes.le {x : Except Fault (Option (Read Value pos))} (h : Decodes x v next) :
    pos ≤ next := by
  obtain ⟨r, -, -, rfl⟩ := h
  exact r.le_next

theorem Reads.some {x : Except Fault (Read Value pos)} (h : Reads x v next) :
    Decodes (x.map Option.some) v next := by
  obtain ⟨r, rfl, hvalue, hnext⟩ := h
  exact ⟨r, rfl, hvalue, hnext⟩

theorem decodes_map_some_iff {x : Except Fault (Read Value pos)} :
    Decodes (x.map Option.some) v next ↔ Reads x v next := by
  refine ⟨?_, Reads.some⟩
  rintro ⟨r, hr, hvalue, hnext⟩
  obtain ⟨r', hr', hsome⟩ := map_eq_ok_iff.1 hr
  cases hsome
  exact ⟨r, hr', hvalue, hnext⟩

theorem not_decodes_none : ¬Decodes (.ok none : Except Fault (Option (Read Value pos))) v next := by
  rintro ⟨r, hr, -⟩
  cases hr

/-- What decoding does is decided by the tag. -/
theorem tagged_eq (b : ByteArray) (text : NarrowText) (pos : Nat) :
    tagged b text pos = (do
      match Shape.ofTag (← word16 b pos) with
      | .scalar type => scalar? b text type (pos + 4)
      | .vector none => .ok none
      | .vector (some e) => (vector b text e (pos + 4)).map some) := by
  rw [tagged]
  split
  next heq => rw [heq]; rfl
  next heq => rw [heq]; rfl

theorem tagged_of_tag {tag : UInt16} (htag : word16 b pos = .ok tag) :
    tagged b text pos =
      match Shape.ofTag tag with
      | .scalar type => scalar? b text type (pos + 4)
      | .vector none => .ok none
      | .vector (some e) => (vector b text e (pos + 4)).map some := by
  rw [tagged_eq, htag]
  rfl

/-- Decoding comes to an end without a fault only where a tag is. -/
theorem le_size_of_tagged {r : Option (Read Value (pos + 4))} (h : tagged b text pos = .ok r) :
    pos + 2 ≤ b.size := by
  rw [tagged_eq] at h
  obtain ⟨tag, htag, -⟩ := bind_eq_ok_iff.1 h
  exact (word16_eq_ok_iff.1 htag).1

/-- A value is decoded as the tag says: as a scalar or as a vector. -/
theorem decodes_tagged_iff :
    Decodes (tagged b text pos) v next ↔ pos + 2 ≤ b.size ∧
      ((∃ type, Shape.ofTag (Bytes.word16 b pos) = .scalar (some type) ∧
          Reads (scalar b text type (pos + 4)) v next) ∨
        ∃ e, Shape.ofTag (Bytes.word16 b pos) = .vector (some e) ∧
          Reads (vector b text e (pos + 4)) v next) := by
  have hle : Decodes (tagged b text pos) v next → pos + 2 ≤ b.size := fun ⟨_, hr, _⟩ =>
    le_size_of_tagged hr
  rw [← and_iff_right_of_imp hle]
  refine and_congr_right fun hle => ?_
  rw [tagged_of_tag (word16_eq_ok_iff.2 ⟨hle, rfl⟩)]
  cases Shape.ofTag (Bytes.word16 b pos) with
  | scalar type => cases type <;> simp [scalar?, not_decodes_none, decodes_map_some_iff]
  | vector e => cases e <;> simp [not_decodes_none, decodes_map_some_iff]

/-- Nothing is decoded where the type that the tag says is not. -/
theorem tagged_eq_none_iff :
    tagged b text pos = .ok none ↔ pos + 2 ≤ b.size ∧
      (Shape.ofTag (Bytes.word16 b pos) = .scalar none ∨
        Shape.ofTag (Bytes.word16 b pos) = .vector none) := by
  rw [← and_iff_right_of_imp le_size_of_tagged]
  refine and_congr_right fun hle => ?_
  rw [tagged_of_tag (word16_eq_ok_iff.2 ⟨hle, rfl⟩)]
  cases Shape.ofTag (Bytes.word16 b pos) with
  | scalar type => cases type <;> simp [scalar?, map_eq_ok_iff]
  | vector e => cases e <;> simp [map_eq_ok_iff]

theorem vector_eq (b : ByteArray) (text : NarrowText) (e : ElementType) (pos : Nat) :
    vector b text e pos = (do
      let count ← word32 b pos
      if (b.size - (pos + 4)) / 4 < count.toNat then .error (.elementCount pos count.toNat)
      else (elements b text e count.toNat (pos + 4)).map fun r =>
        ⟨.vector r.value, r.next, Nat.le_of_add_right_le r.le_next⟩) := by
  rw [vector]
  split
  next heq => rw [heq]; rfl
  next heq => rw [heq]; rfl

/-- A vector is read when the section has room for its elements and they are read. -/
theorem reads_vector_iff {e : ElementType} :
    Reads (vector b text e pos) v next ↔
      pos + 4 + 4 * (Bytes.word32 b pos).toNat ≤ b.size ∧
        ∃ vs, Reads (elements b text e (Bytes.word32 b pos).toNat (pos + 4)) vs next ∧
          .vector vs = v := by
  rw [vector_eq]
  constructor
  · rintro ⟨r, hr, rfl, rfl⟩
    obtain ⟨count, hcount, hr⟩ := bind_eq_ok_iff.1 hr
    obtain ⟨hle, rfl⟩ := word32_eq_ok_iff.1 hcount
    split at hr
    next => cases hr
    next hroom =>
      obtain ⟨r', hr', rfl⟩ := map_eq_ok_iff.1 hr
      exact ⟨by omega, _, ⟨r', hr', rfl, rfl⟩, rfl⟩
  · rintro ⟨hroom, vs, ⟨r, hr, rfl, rfl⟩, rfl⟩
    have hcount := word32_eq_ok_iff.2 ⟨show pos + 4 ≤ b.size by omega, rfl⟩
    refine ⟨⟨.vector r.value, r.next, Nat.le_of_add_right_le r.le_next⟩,
      bind_eq_ok_iff.2 ⟨_, hcount, ?_⟩, rfl, rfl⟩
    rw [if_neg (by omega), hr]
    rfl

theorem decodes_element_scalar_iff {type : ScalarType} :
    Decodes (element b text (.scalar type) pos) v next ↔ Reads (scalar b text type pos) v next :=
  decodes_map_some_iff

theorem decodes_element_tagged_iff :
    Decodes (element b text .tagged pos) v next ↔ Decodes (tagged b text pos) v next := by
  constructor
  · rintro ⟨r, hr, rfl, rfl⟩
    obtain ⟨r', hr', hmap⟩ := map_eq_ok_iff.1 hr
    obtain ⟨r'', rfl, rfl⟩ := Option.map_eq_some_iff.1 hmap
    exact ⟨r'', hr', rfl, rfl⟩
  · rintro ⟨r, hr, rfl, rfl⟩
    exact ⟨r.withTag, map_eq_ok_iff.2 ⟨_, hr, rfl⟩, rfl, rfl⟩

theorem elements_succ (e : ElementType) (count pos : Nat) :
    elements b text e (count + 1) pos = (do
      match ← element b text e pos with
      | none => .error (.undecodableElement pos)
      | some first =>
        let rest ← elements b text e count first.next
        return ⟨first.value :: rest.value, rest.next,
          Nat.le_trans first.le_next rest.le_next⟩) := by
  rw [elements.eq_def]
  cases e <;> rfl

theorem reads_elements_zero_iff {e : ElementType} :
    Reads (elements b text e 0 pos) vs next ↔ vs = [] ∧ next = pos := by
  rw [elements]
  constructor
  · rintro ⟨r, hr, rfl, rfl⟩
    cases hr
    exact ⟨rfl, rfl⟩
  · rintro ⟨rfl, rfl⟩
    exact ⟨_, rfl, rfl, rfl⟩

/-- The first element and the others behind it. -/
theorem reads_elements_succ_iff {e : ElementType} {count : Nat} :
    Reads (elements b text e (count + 1) pos) vs next ↔
      ∃ v mid rest, Decodes (element b text e pos) v mid ∧
        Reads (elements b text e count mid) rest next ∧ v :: rest = vs := by
  rw [elements_succ]
  constructor
  · rintro ⟨r, hr, rfl, rfl⟩
    obtain ⟨first?, hfirst, hr⟩ := bind_eq_ok_iff.1 hr
    cases first? with
    | none => cases hr
    | some first =>
      obtain ⟨rest, hrest, hr⟩ := bind_eq_ok_iff.1 hr
      cases hr
      exact ⟨_, _, _, ⟨first, hfirst, rfl, rfl⟩, ⟨rest, hrest, rfl, rfl⟩, rfl⟩
  · rintro ⟨v, mid, rest, ⟨first, hfirst, rfl, rfl⟩, ⟨r, hrest, rfl, rfl⟩, rfl⟩
    exact ⟨_, bind_eq_ok_iff.2 ⟨_, hfirst, bind_eq_ok_iff.2 ⟨r, hrest, rfl⟩⟩, rfl, rfl⟩

/-- A property of a decoded type does not depend on where the next one begins. -/
theorem property_of_decodes {limit : Nat} (h : Decodes (tagged b text pos) v next) :
    property b text pos limit = .ok v := by
  obtain ⟨r, hr, rfl, -⟩ := h
  exact bind_eq_ok_iff.2 ⟨_, hr, rfl⟩

end Vectors

/-! ## Induction -/

/-- A fact about an offset may be shown from the same fact at all later offsets, where the bytes of
a tag are inside the section. -/
theorem offset_induction {P : Nat → Prop} (size : Nat)
    (h : ∀ offset, (offset + 2 ≤ size → ∀ later, offset < later → P later) → P offset)
    (offset : Nat) : P offset := by
  induction hleft : size - offset using Nat.strong_induction_on generalizing offset with
  | _ left ih =>
    exact h offset fun hle later hlater => ih (size - later) (by omega) later rfl

end CompoundFile.PropertySet
