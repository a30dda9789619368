import CompoundFile.Proofs.PropertySet.Sections

/-!
# Values that are intact

A grammar of the values of decoded types, over the bytes of their section. It says where such a value
begins and ends, and nothing of its meaning: a scalar whose content fits, or a vector that has room for
its elements and is followed by them, one behind the other (`Intact`, `IntactRow`).

**Types that are not decoded** are given by their tags (`Undecoded`). A value of such a type is
never an element, since nothing says where the next element begins.

A value is decoded when it is intact (`exists_decodes_iff`). The way of narrow text has no part in it,
although a vector of values is decoded text by text.

Main results: `exists_decodes_iff` and `exists_property_iff`.
-/

namespace CompoundFile.PropertySet

mutual

/-- A tag at an offset and an intact value behind it, which ends where the next one may begin. -/
inductive Intact (b : ByteArray) : (offset next : Nat) → Prop where
  | scalar {offset : Nat} {type : ScalarType} (hsize : offset + 2 ≤ b.size)
      (htag : Shape.ofTag (Bytes.word16 b offset) = .scalar (some type))
      (hfits : type.Fits b (offset + 4)) :
      Intact b offset (offset + 4 + padded (type.length b (offset + 4)))
  | vector {offset next : Nat} {e : ElementType}
      (htag : Shape.ofTag (Bytes.word16 b offset) = .vector (some e))
      (hroom : offset + 8 + 4 * (Bytes.word32 b (offset + 4)).toNat ≤ b.size)
      (helements : IntactRow b e (Bytes.word32 b (offset + 4)).toNat (offset + 8) next) :
      Intact b offset next

/-- A number of intact elements, one behind the other. -/
inductive IntactRow (b : ByteArray) : (e : ElementType) → (count pos next : Nat) → Prop where
  | nil (e : ElementType) (pos : Nat) : IntactRow b e 0 pos pos
  | scalar {type : ScalarType} {count pos next : Nat} (hfirst : type.Fits b pos)
      (hrest : IntactRow b (.scalar type) count (pos + padded (type.length b pos)) next) :
      IntactRow b (.scalar type) (count + 1) pos next
  | tagged {count pos mid next : Nat} (hfirst : Intact b pos mid)
      (hrest : IntactRow b .tagged count mid next) : IntactRow b .tagged (count + 1) pos next

end

section Grammar

variable {b : ByteArray} {text : NarrowText} {offset next : Nat}

theorem intactRow_zero_iff {e : ElementType} {pos : Nat} :
    IntactRow b e 0 pos next ↔ next = pos := by
  constructor
  · intro h
    cases h
    rfl
  · rintro rfl
    exact .nil e next

theorem intactRow_scalar_iff {type : ScalarType} {count pos : Nat} :
    IntactRow b (.scalar type) (count + 1) pos next ↔
      type.Fits b pos ∧ IntactRow b (.scalar type) count (pos + padded (type.length b pos)) next := by
  constructor
  · intro h
    cases h with
    | scalar hfirst hrest => exact ⟨hfirst, hrest⟩
  · exact fun ⟨hfirst, hrest⟩ => .scalar hfirst hrest

theorem intactRow_tagged_iff {count pos : Nat} :
    IntactRow b .tagged (count + 1) pos next ↔
      ∃ mid, Intact b pos mid ∧ IntactRow b .tagged count mid next := by
  constructor
  · intro h
    cases h with
    | tagged hfirst hrest => exact ⟨_, hfirst, hrest⟩
  · exact fun ⟨mid, hfirst, hrest⟩ => .tagged hfirst hrest

theorem intact_iff :
    Intact b offset next ↔
      (∃ type, Shape.ofTag (Bytes.word16 b offset) = .scalar (some type) ∧ offset + 2 ≤ b.size ∧
        type.Fits b (offset + 4) ∧ next = offset + 4 + padded (type.length b (offset + 4))) ∨
      ∃ e, Shape.ofTag (Bytes.word16 b offset) = .vector (some e) ∧
        offset + 8 + 4 * (Bytes.word32 b (offset + 4)).toNat ≤ b.size ∧
        IntactRow b e (Bytes.word32 b (offset + 4)).toNat (offset + 8) next := by
  constructor
  · intro h
    cases h with
    | scalar hsize htag hfits => exact Or.inl ⟨_, htag, hsize, hfits, rfl⟩
    | vector htag hroom helements => exact Or.inr ⟨_, htag, hroom, helements⟩
  · rintro (⟨type, htag, hsize, hfits, rfl⟩ | ⟨e, htag, hroom, helements⟩)
    · exact .scalar hsize htag hfits
    · exact .vector htag hroom helements

/-- Elements are decoded when they are intact, if values with tags are from the first one on. -/
theorem exists_reads_elements_iff {first : Nat}
    (h : ∀ pos, first ≤ pos → ∀ next,
      (∃ v, Decodes (tagged b text pos) v next) ↔ Intact b pos next)
    (e : ElementType) (count : Nat) {pos : Nat} (hpos : first ≤ pos) :
    (∃ vs, Reads (elements b text e count pos) vs next) ↔ IntactRow b e count pos next := by
  induction count generalizing pos with
  | zero => simp [reads_elements_zero_iff, intactRow_zero_iff]
  | succ count ih =>
    simp only [reads_elements_succ_iff]
    cases e with
    | scalar type =>
      rw [intactRow_scalar_iff, ← ih (Nat.le_add_right_of_le hpos)]
      simp only [decodes_element_scalar_iff, reads_scalar_iff]
      constructor
      · rintro ⟨-, v, mid, rest, ⟨hfits, -, rfl⟩, hrest, -⟩
        exact ⟨hfits, rest, hrest⟩
      · rintro ⟨hfits, rest, hrest⟩
        exact ⟨_, _, _, rest, ⟨hfits, rfl, rfl⟩, hrest, rfl⟩
    | tagged =>
      rw [intactRow_tagged_iff]
      simp only [decodes_element_tagged_iff]
      constructor
      · rintro ⟨-, v, mid, rest, hfirst, hrest, -⟩
        have hmid : first ≤ mid := hpos.trans (Nat.le_of_add_right_le hfirst.le)
        exact ⟨mid, (h pos hpos mid).1 ⟨v, hfirst⟩, (ih hmid).1 ⟨rest, hrest⟩⟩
      · rintro ⟨mid, hfirst, hrest⟩
        obtain ⟨v, hfirst⟩ := (h pos hpos mid).2 hfirst
        have hmid : first ≤ mid := hpos.trans (Nat.le_of_add_right_le hfirst.le)
        obtain ⟨rest, hrest⟩ := (ih hmid).2 hrest
        exact ⟨_, v, mid, rest, hfirst, hrest, rfl⟩

/-- **A value of a decoded type is decoded when it is intact.** -/
theorem exists_decodes_iff : (∃ v, Decodes (tagged b text offset) v next) ↔ Intact b offset next := by
  induction offset using offset_induction b.size generalizing next with
  | h offset ih =>
    -- Both sides tell scalars from vectors by the tag. Elements stand at later offsets.
    rw [intact_iff]
    simp only [decodes_tagged_iff, reads_scalar_iff, reads_vector_iff]
    constructor
    · rintro ⟨v, hsize, ⟨type, htag, hfits, -, rfl⟩ | ⟨e, htag, hroom, vs, helements, -⟩⟩
      · exact Or.inl ⟨type, htag, hsize, hfits, rfl⟩
      · refine Or.inr ⟨e, htag, hroom, ?_⟩
        refine (exists_reads_elements_iff (fun pos hpos _ => ?_) e _ le_rfl).1 ⟨vs, helements⟩
        exact ih hsize pos (by omega)
    · rintro (⟨type, htag, hsize, hfits, rfl⟩ | ⟨e, htag, hroom, helements⟩)
      · exact ⟨_, hsize, Or.inl ⟨type, htag, hfits, rfl, rfl⟩⟩
      · have hsize : offset + 2 ≤ b.size := by omega
        obtain ⟨vs, helements⟩ := (exists_reads_elements_iff
          (fun pos hpos _ => ih hsize pos (by omega)) e _ le_rfl).2 helements
        exact ⟨_, hsize, Or.inr ⟨e, htag, hroom, vs, helements, rfl⟩⟩

end Grammar

/-! ## Types that are not decoded -/

/-- The type in a tag is not decoded: it is a vector of elements that are neither narrow texts, wide
texts nor values with tags, or a scalar of none of the known types. -/
def Undecoded (tag : UInt16) : Prop :=
  if tag.toNat / vectorBit % 2 = 1 then tag.toNat - vectorBit ∉ [12, 30, 31]
  else ScalarType.ofTag? tag = none

instance (tag : UInt16) : Decidable (Undecoded tag) :=
  inferInstanceAs (Decidable (if tag.toNat / vectorBit % 2 = 1 then _ else _))

theorem undecoded_iff {tag : UInt16} :
    Undecoded tag ↔ Shape.ofTag tag = .scalar none ∨ Shape.ofTag tag = .vector none := by
  unfold Undecoded Shape.ofTag
  split
  · have hnat : (UInt16.ofNat (tag.toNat - vectorBit)).toNat = tag.toNat - vectorBit :=
      UInt16.toNat_ofNat_of_lt' (Nat.lt_of_le_of_lt (Nat.sub_le _ _) tag.toNat_lt)
    simp only [ElementType.ofTag?, hnat]
    split <;> simp_all
  · simp

section Properties

variable {b : ByteArray} {text : NarrowText} {offset past : Nat}

/-- A property of a type that is not decoded keeps its tag and the bytes up to the limit. -/
theorem property_of_undecoded (htag : Undecoded (Bytes.word16 b offset))
    (hroom : offset + 4 ≤ b.size) (hpast : past ≤ b.size) :
    property b text offset past =
      .ok (.unsupported (Bytes.word16 b offset) (b.extract (offset + 4) past)) := by
  have hnone : tagged b text offset = .ok none :=
    tagged_eq_none_iff.2 ⟨by omega, undecoded_iff.1 htag⟩
  have hword := word16_eq_ok_iff.2 ⟨show offset + 2 ≤ b.size by omega, rfl⟩
  have hslice : slice b (offset + 4) (past - (offset + 4)) =
      .ok (b.extract (offset + 4) past) := by
    refine slice_eq_ok_iff.2 ⟨by omega, ?_⟩
    rw [Bytes.extract_add_sub]
  exact bind_eq_ok_iff.2 ⟨none, hnone, bind_eq_ok_iff.2 ⟨_, hword, bind_eq_ok_iff.2
    ⟨_, hslice, rfl⟩⟩⟩

/-- A property with room for its tag is decoded when its value is intact or of a type that is not
decoded. -/
theorem exists_property_iff (hroom : offset + 4 ≤ b.size) (hpast : past ≤ b.size) :
    (∃ v, property b text offset past = .ok v) ↔
      (¬Undecoded (Bytes.word16 b offset) → ∃ next, Intact b offset next) := by
  by_cases htag : Undecoded (Bytes.word16 b offset)
  · exact iff_of_true ⟨_, property_of_undecoded htag hroom hpast⟩ fun h => absurd htag h
  · constructor
    · rintro ⟨v, hv⟩ -
      obtain ⟨r?, hr, hv⟩ := bind_eq_ok_iff.1 hv
      cases r? with
      | none => exact absurd (undecoded_iff.2 (tagged_eq_none_iff.1 hr).2) htag
      | some r => exact ⟨r.next, exists_decodes_iff.1 ⟨r.value, r, hr, rfl, rfl⟩⟩
    · intro h
      obtain ⟨next, hintact⟩ := h htag
      obtain ⟨v, hv⟩ := exists_decodes_iff.2 hintact
      exact ⟨v, property_of_decodes hv⟩

end Properties

end CompoundFile.PropertySet
