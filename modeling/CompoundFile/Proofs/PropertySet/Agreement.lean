import CompoundFile.Proofs.PropertySet.Decoding

/-!
# Decoding twice

Two decodings of values are compared: of two sections that agree from a position on (`SameFrom`), with
two ways of narrow text whose texts of the same bytes are in a relation `R`. They take the same course
(`tagged_parallel`). The faults are the same, the values end at the same offsets, and they are alike:
where one has a narrow text the other has a related one, and all else is equal (`Value.Like`).

With the same way of narrow text and equality for `R` the two values are equal (`Value.Like.eq`).

**Induction.** Decoding does not look before the offset that it begins at, so a vector needs the fact
for its elements only, which stand at later offsets (`offset_induction`).

Main result: `property_parallel`.
-/

namespace CompoundFile.PropertySet

/-! ## Values that are alike -/

/-- The values are equal but for narrow texts, which are related. -/
inductive Value.Like (R : String → String → Prop) : Value → Value → Prop where
  | same (v : Value) : Like R v v
  | narrow {s t : String} (h : R s t) : Like R (.narrow s) (.narrow t)
  | vector {vs ws : List Value} (h : List.Forall₂ (Like R) vs ws) :
      Like R (.vector vs) (.vector ws)

mutual

theorem Value.Like.eq : ∀ {v w : Value}, v.Like Eq w → v = w
  | _, _, .same _ => rfl
  | _, _, .narrow h => congrArg _ h
  | .vector _, _, .vector h => congrArg _ (eq_of_forall₂_like h)

theorem eq_of_forall₂_like : ∀ {vs ws : List Value}, List.Forall₂ (Value.Like Eq) vs ws → vs = ws
  | [], _, h => (List.forall₂_nil_left_iff.1 h).symm
  | v :: vs, _, h => by
    obtain ⟨w, ws, hv, hvs, rfl⟩ := List.forall₂_cons_left_iff.1 h
    rw [hv.eq, eq_of_forall₂_like hvs]

end

/-! ## Sections that agree from a position on -/

/-- The byte strings are of one size, and have the same bytes from a position on. -/
structure SameFrom (start : Nat) (b b' : ByteArray) : Prop where
  size_eq : b.size = b'.size
  byteAt_eq : ∀ i, start ≤ i → Bytes.byteAt b i = Bytes.byteAt b' i

theorem SameFrom.refl (start : Nat) (b : ByteArray) : SameFrom start b b := ⟨rfl, fun _ _ => rfl⟩

section Access

variable {start pos : Nat} {b b' : ByteArray} (hb : SameFrom start b b') (hpos : start ≤ pos)
include hb hpos

theorem slice_same (length : Nat) : slice b pos length = slice b' pos length := by
  unfold slice Bytes.slice?
  rw [hb.size_eq, Bytes.extract_congr hb.size_eq fun i hi _ => hb.byteAt_eq i (hpos.trans hi)]

theorem word16_same : word16 b pos = word16 b' pos := by
  rw [word16, word16, slice_same hb hpos]

theorem word32_same : word32 b pos = word32 b' pos := by
  rw [word32, word32, slice_same hb hpos]

theorem word64_same : word64 b pos = word64 b' pos := by
  rw [word64, word64, slice_same hb hpos]

theorem classIdAt_same : classIdAt b pos = classIdAt b' pos := by
  rw [classIdAt, classIdAt, slice_same hb hpos]

end Access

/-! ## Two decodings -/

/-- What was read is related, and ends at the same offset. -/
def Read.Like {α : Type} {pos : Nat} (V : α → α → Prop) (r r' : Read α pos) : Prop :=
  V r.value r'.value ∧ r.next = r'.next

section Decodings

variable {R : String → String → Prop} {start : Nat} {b b' : ByteArray} {text text' : NarrowText}
  (hb : SameFrom start b b') (hR : ∀ s, R (text.decode s) (text'.decode s))
include hb

/-- Only narrow text depends on its way. -/
theorem scalar_same {pos : Nat} (hpos : start ≤ pos) {type : ScalarType} (htype : type ≠ .narrow) :
    scalar b text type pos = scalar b' text' type pos := by
  have hfour : start ≤ pos + 4 := Nat.le_add_right_of_le hpos
  have height : start ≤ pos + 8 := Nat.le_add_right_of_le hpos
  cases type with
  | narrow => exact absurd rfl htype
  | _ =>
    simp only [scalar, slice_same hb hpos, slice_same hb hfour, slice_same hb height,
      word16_same hb hpos, word32_same hb hpos, word32_same hb hfour, word64_same hb hpos,
      classIdAt_same hb hpos]

include hR

theorem scalar_parallel {pos : Nat} (hpos : start ≤ pos) (type : ScalarType) :
    Parallel (Read.Like (Value.Like R)) (scalar b text type pos) (scalar b' text' type pos) := by
  by_cases htype : type = .narrow
  · have hfour : start ≤ pos + 4 := Nat.le_add_right_of_le hpos
    subst htype
    simp only [scalar, word32_same hb hpos, slice_same hb hfour]
    exact .bind_same fun w _ => .bind_same fun s _ => .ok ⟨.narrow (hR s), rfl⟩
  · rw [scalar_same hb hpos htype]
    exact .refl (fun r => ⟨.same r.value, rfl⟩) _

/-- The element is decoded alike if a value with a tag is. -/
theorem element_parallel {pos : Nat} (hpos : start ≤ pos)
    (h : Parallel (Option.Rel (Read.Like (Value.Like R))) (tagged b text pos) (tagged b' text' pos))
    (e : ElementType) :
    Parallel (Option.Rel (Read.Like (Value.Like R))) (element b text e pos)
      (element b' text' e pos) := by
  cases e with
  | scalar type => exact (scalar_parallel hb hR hpos type).map fun _ _ h => .some h
  | tagged =>
    refine h.map fun r r' hr => ?_
    cases hr with
    | none => exact .none
    | some h => exact .some h

theorem elements_parallel {first : Nat} (hfirst : start ≤ first)
    (h : ∀ pos, first ≤ pos → Parallel (Option.Rel (Read.Like (Value.Like R))) (tagged b text pos)
      (tagged b' text' pos)) (e : ElementType) (count : Nat) {pos : Nat} (hpos : first ≤ pos) :
    Parallel (Read.Like (List.Forall₂ (Value.Like R))) (elements b text e count pos)
      (elements b' text' e count pos) := by
  induction count generalizing pos with
  | zero =>
    rw [elements, elements]
    exact .ok ⟨.nil, rfl⟩
  | succ count ih =>
    rw [elements_succ, elements_succ]
    refine (element_parallel hb hR (hfirst.trans hpos) (h pos hpos) e).bind fun r r' hr => ?_
    cases hr with
    | none => exact .error _
    | @some first first' hr =>
      obtain ⟨v, mid, hmid⟩ := first
      obtain ⟨v', mid', hmid'⟩ := first'
      obtain ⟨hv, rfl⟩ : v.Like R v' ∧ mid = mid' := hr
      exact (ih (hpos.trans hmid)).bind fun rest rest' hrest => .ok ⟨.cons hv hrest.1, hrest.2⟩

theorem vector_parallel {pos : Nat} (hpos : start ≤ pos)
    (h : ∀ later, pos + 4 ≤ later → Parallel (Option.Rel (Read.Like (Value.Like R)))
      (tagged b text later) (tagged b' text' later)) (e : ElementType) :
    Parallel (Read.Like (Value.Like R)) (vector b text e pos) (vector b' text' e pos) := by
  rw [vector_eq, vector_eq, word32_same hb hpos, hb.size_eq]
  refine .bind_same fun count _ => ?_
  split
  · exact .error _
  · refine (elements_parallel hb hR (Nat.le_add_right_of_le hpos) h e _ le_rfl).map ?_
    exact fun r r' hr => ⟨.vector hr.1, hr.2⟩

/-- **Two decodings take the same course.** -/
theorem tagged_parallel {offset : Nat} (hoffset : start ≤ offset) :
    Parallel (Option.Rel (Read.Like (Value.Like R))) (tagged b text offset)
      (tagged b' text' offset) := by
  induction offset using offset_induction b.size with
  | h offset ih =>
    -- The same tag leads both decodings to the same branch.
    have hfour : start ≤ offset + 4 := Nat.le_add_right_of_le hoffset
    rw [tagged_eq, tagged_eq, ← word16_same hb hoffset]
    refine .bind_same fun tag htag => ?_
    have hle := (word16_eq_ok_iff.1 htag).1
    cases Shape.ofTag tag with
    | scalar type =>
      cases type with
      | none => exact .ok .none
      | some type => exact (scalar_parallel hb hR hfour type).map fun _ _ h => .some h
    | vector e =>
      cases e with
      | none => exact .ok .none
      | some e =>
        refine (vector_parallel hb hR hfour (fun later hlater => ?_) e).map fun _ _ h => .some h
        exact ih hle later (by omega) (by omega)

/-- A property of which the type is not decoded has the same bytes. -/
theorem property_parallel {offset : Nat} (hoffset : start ≤ offset) (limit : Nat) :
    Parallel (Value.Like R) (property b text offset limit) (property b' text' offset limit) := by
  refine (tagged_parallel hb hR hoffset).bind fun r r' hr => ?_
  cases hr with
  | some hr => exact .ok hr.1
  | none =>
    simp only [word16_same hb hoffset, slice_same hb (Nat.le_add_right_of_le hoffset)]
    exact .refl .same _

omit hR in
/-- With the same way of narrow text both decodings give the same property. -/
theorem property_same {offset : Nat} (hoffset : start ≤ offset) (limit : Nat) :
    property b text offset limit = property b' text offset limit :=
  (property_parallel hb (fun _ => rfl) hoffset limit).eq fun _ _ => Value.Like.eq

end Decodings

end CompoundFile.PropertySet
