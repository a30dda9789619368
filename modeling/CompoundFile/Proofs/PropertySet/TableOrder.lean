import CompoundFile.Proofs.PropertySet.Agreement
import CompoundFile.Proofs.PropertySet.Undecoded

/-!
# The order of the property table

The lines of a property table may stand in any order. When they are permuted and no other byte of the
stream is changed (`Permuted`), the section is decoded as before, and has the same properties in the
order of the lines (`Reordered`).

**What the order could decide.** A line says where its property begins. Where the property ends is
decided by all listed offsets together, but not by their order (`limit_congr`). The codepage is declared
by the first line with identifier 1, so there must be no second one. The values stand behind the table,
and decoding does not look back (`SameFrom`).

Main result: `parse_permuted`.
-/

namespace CompoundFile.PropertySet.Section

/-- A line of the property table of the section at an offset of a stream. -/
def lineAt (b : ByteArray) (offset i : Nat) : Slot :=
  ⟨Bytes.word32 b (offset + 8 + 8 * i), (Bytes.word32 b (offset + 12 + 8 * i)).toNat⟩

/-- Line `i` of the second table is line `σ i` of the first, and all other bytes of the streams are
the same. -/
structure Permuted (b b' : ByteArray) (offset : Nat) {count : Nat} (σ : Equiv.Perm (Fin count)) :
    Prop where
  size_eq : b.size = b'.size
  line_eq : ∀ (i : Fin count) (j : Nat), j < 8 →
    Bytes.byteAt b' (offset + 8 + 8 * i + j) = Bytes.byteAt b (offset + 8 + 8 * σ i + j)
  rest_eq : ∀ i, i < offset + 8 ∨ offset + 8 + 8 * count ≤ i → Bytes.byteAt b i = Bytes.byteAt b' i

/-- The second section has the properties of the first, each in the place of its line. A line of the
dictionary has none. -/
structure Reordered (b : ByteArray) (offset : Nat) {count : Nat} (σ : Equiv.Perm (Fin count))
    (s s' : Section) : Prop where
  formatId_eq : s'.formatId = s.formatId
  codepage_eq : s'.codepage = s.codepage
  properties : ∃ inLine : Fin count → Option Property,
    (∀ i, (inLine i).map (·.id) =
      if (lineAt b offset i).id = 0 then none else some (lineAt b offset i).id) ∧
    s.properties = (List.finRange count).filterMap inLine ∧
    s'.properties = (List.finRange count).filterMap fun i => inLine (σ i)

section Tables

variable {b b' body body' : ByteArray} {offset count : Nat} {σ : Equiv.Perm (Fin count)}

namespace Permuted

theorem symm (h : Permuted b b' offset σ) : Permuted b' b offset σ.symm where
  size_eq := h.size_eq.symm
  line_eq i j hj := by rw [h.line_eq _ j hj, σ.apply_symm_apply]
  rest_eq i hi := (h.rest_eq i hi).symm

theorem lineAt_eq (h : Permuted b b' offset σ) (i : Fin count) :
    lineAt b' offset i = lineAt b offset (σ i) := by
  have hid : Bytes.word32 b' (offset + 8 + 8 * i) = Bytes.word32 b (offset + 8 + 8 * σ i) :=
    Bytes.word32_congr fun j hj => h.line_eq i j (by omega)
  have hplace : Bytes.word32 b' (offset + 12 + 8 * i) = Bytes.word32 b (offset + 12 + 8 * σ i) :=
    Bytes.word32_congr fun j hj => by
      have := h.line_eq i (4 + j) (by omega)
      grind
  rw [lineAt, lineAt, hid, hplace]

theorem count_eq (h : Permuted b b' offset σ) :
    Bytes.word32 b' (offset + 4) = Bytes.word32 b (offset + 4) :=
  Bytes.word32_congr fun j hj => (h.rest_eq _ (Or.inl (by omega))).symm

end Permuted

/-! ## Two sections -/

/-- The lines of a table are those that stand in the stream. -/
theorem Framed.slots_eq (h : Framed b offset body count) :
    slots body count = (List.finRange count).map fun i : Fin count => lineAt b offset i := by
  have htable := h.table_fits
  obtain ⟨-, hle, hbody⟩ := h.inside
  rw [slots, ← List.map_coe_finRange_eq_range, List.map_map]
  refine List.map_congr_left fun i _ => ?_
  have hi := i.isLt
  have hword : ∀ place, place + 4 ≤ 8 + 8 * count →
      Bytes.word32 body place = Bytes.word32 b (offset + place) := fun place h => by
    rw [hbody, Bytes.word32_extract (by omega) (by omega)]
  rw [Function.comp_apply, hword _ (by omega), hword _ (by omega), lineAt, Nat.add_assoc,
    Nat.add_assoc]

theorem Framed.count_eq_word (h : Framed b offset body count) :
    (Bytes.word32 b (offset + 4)).toNat = count := by
  have htable := h.table_fits
  obtain ⟨-, hle, hbody⟩ := h.inside
  rw [← h.count_eq, hbody, Bytes.word32_extract (by omega) (by omega)]

/-- Permuting the lines of a table leaves a section with the same bytes behind its table. -/
theorem Permuted.framed (h : Permuted b b' offset σ) (hframed : Framed b offset body count) :
    ∃ body', Framed b' offset body' count ∧ SameFrom (8 + 8 * count) body body' := by
  have htable := hframed.table_fits
  have hcount := hframed.count_eq_word
  obtain ⟨hsize, hle, hbody⟩ := hframed.inside
  have hle' : offset + body.size ≤ b'.size := h.size_eq ▸ hle
  have hsize' : (Bytes.word32 b' offset).toNat = body.size := by
    rw [hsize, Bytes.word32_congr fun j hj => (h.rest_eq _ (Or.inl (by omega))).symm]
  have hextract : (b'.extract offset (offset + body.size)).size = body.size := by
    rw [ByteArray.size_extract]
    omega
  refine ⟨b'.extract offset (offset + body.size), ?_, ?_, fun i hi => ?_⟩
  · refine ⟨by omega, Bytes.slice?_eq_some_iff.2 (by rw [hsize']; exact ⟨hle', rfl⟩), ?_, ?_⟩
    · rw [Bytes.word32_extract (by omega) hle', h.count_eq, hcount]
    · rw [hextract]
      exact htable
  · exact hextract.symm
  · by_cases hlt : i < body.size
    · rw [Bytes.byteAt_extract (by omega) hle', ← h.rest_eq _ (Or.inr (by omega))]
      conv_lhs => rw [hbody, Bytes.byteAt_extract (by omega) hle]
    · rw [Bytes.byteAt_of_le (by omega), Bytes.byteAt_of_le (by omega)]

end Tables

/-! ## Tables with the same lines -/

/-- The first element that passes a test is the same in any order, if no other passes it. -/
theorem find?_eq_of_mem_iff {α : Type} {xs ys : List α} {p : α → Bool}
    (hmem : ∀ x, x ∈ xs ↔ x ∈ ys) (hone : ∀ x ∈ xs, ∀ y ∈ xs, p x → p y → x = y) :
    xs.find? p = ys.find? p := by
  cases hx : xs.find? p with
  | none =>
    rw [List.find?_eq_none] at hx
    exact (List.find?_eq_none.2 fun y hy => hx y ((hmem y).2 hy)).symm
  | some x =>
    have hxs := List.mem_of_find?_eq_some hx
    cases hy : ys.find? p with
    | none => exact absurd (List.find?_some hx) (List.find?_eq_none.1 hy x ((hmem x).1 hxs))
    | some y =>
      have hys := (hmem y).2 (List.mem_of_find?_eq_some hy)
      rw [hone x hxs y hys (List.find?_some hx) (List.find?_some hy)]

section Lines

variable {start : Nat} {body body' : ByteArray} {lines lines' : List Slot}
  (hbody : SameFrom start body body') (hmem : ∀ slot, slot ∈ lines ↔ slot ∈ lines')
  (hstart : ∀ slot ∈ lines, start ≤ slot.offset)
include hbody hmem hstart

/-- The property of a listed line. -/
theorem property_eq (text : NarrowText) {slot : Slot} (hslot : slot ∈ lines) :
    property body text slot.offset (limit body.size lines slot.offset) =
      property body' text slot.offset (limit body'.size lines' slot.offset) := by
  rw [hbody.size_eq, limit_congr hmem]
  exact property_same hbody (hstart slot hslot) _

theorem declaredCodepage_eq (hone : ∀ x ∈ lines, ∀ y ∈ lines, x.id == 1 → y.id == 1 → x = y)
    (fallback : Codepage) :
    declaredCodepage body lines fallback = declaredCodepage body' lines' fallback := by
  unfold declaredCodepage
  rw [← find?_eq_of_mem_iff hmem hone]
  split
  · rfl
  next slot hslot =>
    rw [property_eq hbody hmem hstart _ (List.mem_of_find?_eq_some hslot)]

/-- A section with the same lines is decoded as well. Every line but that of the dictionary gives a
property, and the properties of either section are in the order of its lines. -/
theorem parse_of_same_lines {b b' : ByteArray} {offset count count' : Nat} {formatId : ClassId}
    {fallback : Codepage} {s : Section} (hframed : Framed b offset body count)
    (hframed' : Framed b' offset body' count') (hlines : lines = slots body count)
    (hlines' : lines' = slots body' count')
    (hone : ∀ x ∈ lines, ∀ y ∈ lines, x.id == 1 → y.id == 1 → x = y)
    (hs : parse b formatId offset fallback = .ok s) :
    ∃ f : Slot → Option Property,
      (∀ slot ∈ lines, (f slot).map (·.id) = if slot.id = 0 then none else some slot.id) ∧
      s.properties = lines.filterMap f ∧
      parse b' formatId offset fallback = .ok { s with properties := lines'.filterMap f } := by
  -- The codepage is found before any text is decoded, so it is the same for all lines.
  let text := NarrowText.ofCodepage s.codepage fallback
  obtain ⟨rfl, hcodepage, hproperties⟩ := hframed.parse_eq_ok_iff.1 hs
  rw [← hlines] at hcodepage hproperties
  obtain ⟨hall, hlisted⟩ := mapM_filter_eq_ok_iff.1 hproperties
  have hproperty : ∀ slot ∈ lines,
      propertyOf body text lines slot = propertyOf body' text lines' slot := fun slot hslot => by
    rw [propertyOf, propertyOf, property_eq hbody hmem hstart _ hslot]
  refine ⟨fun slot => if slot.id != 0 then (propertyOf body text lines slot).toOption else none,
    fun slot hslot => ?_, hlisted.symm, ?_⟩
  · by_cases hid : slot.id = 0
    · simp [hid]
    · obtain ⟨x, hx⟩ := hall slot hslot (by simpa using hid)
      have hx' : propertyOf body text lines slot = .ok x := hx
      simp [hid, hx', Except.toOption, (propertyOf_eq_ok_iff.1 hx').1]
  · refine hframed'.parse_eq_ok_iff.2 ⟨rfl, ?_, ?_⟩
    · rw [← hlines', ← declaredCodepage_eq hbody hmem hstart hone, hcodepage]
    · rw [← hlines']
      refine mapM_filter_eq_ok_iff.2 ⟨fun slot hslot hid => ?_, ?_⟩
      · obtain ⟨x, hx⟩ := hall slot ((hmem slot).2 hslot) hid
        exact ⟨x, (hproperty slot ((hmem slot).2 hslot)).symm.trans hx⟩
      · refine List.filterMap_congr fun slot hslot => ?_
        rw [hproperty slot ((hmem slot).2 hslot)]

end Lines

/-! ## Permuted tables -/

section Sections

variable {b b' : ByteArray} {offset count : Nat} {σ : Equiv.Perm (Fin count)} {formatId : ClassId}
  {fallback : Codepage} {s : Section}

theorem exists_parse_permuted (h : Permuted b b' offset σ)
    (hcount : (Bytes.word32 b (offset + 4)).toNat = count)
    (hbehind : ∀ i : Fin count, 8 + 8 * count ≤ (lineAt b offset i).offset)
    (hone : ∀ i j : Fin count, (lineAt b offset i).id = 1 → (lineAt b offset j).id = 1 → i = j)
    (hs : parse b formatId offset fallback = .ok s) :
    ∃ s', parse b' formatId offset fallback = .ok s' ∧ Reordered b offset σ s s' := by
  obtain ⟨body, count', hframed⟩ := exists_framed_of_parse hs
  obtain rfl : count = count' := hcount.symm.trans hframed.count_eq_word
  obtain ⟨body', hframed', hbody⟩ := h.framed hframed
  have hslots := hframed.slots_eq
  have hslots' : slots body' count =
      (List.finRange count).map fun i : Fin count => lineAt b offset (σ i) := by
    rw [hframed'.slots_eq]
    exact List.map_congr_left fun i _ => h.lineAt_eq i
  -- Both tables have the same lines, so what is said of lines may be said of either.
  have hmem : ∀ slot, slot ∈ slots body count ↔ slot ∈ slots body' count := fun slot => by
    simp only [hslots, hslots', List.mem_map, List.mem_finRange, true_and]
    exact (σ.exists_congr_right (q := fun i : Fin count => lineAt b offset i = slot)).symm
  have hstart : ∀ slot ∈ slots body count, 8 + 8 * count ≤ slot.offset := by
    simp only [hslots, List.forall_mem_map]
    exact fun i _ => hbehind i
  have hone' : ∀ x ∈ slots body count, ∀ y ∈ slots body count,
      x.id == 1 → y.id == 1 → x = y := by
    simp only [hslots, List.forall_mem_map, beq_iff_eq]
    exact fun i _ j _ hi hj => by rw [hone i j hi hj]
  obtain ⟨f, hid, hproperties, hs'⟩ :=
    parse_of_same_lines hbody hmem hstart hframed hframed' rfl rfl hone' hs
  rw [hslots, List.filterMap_map] at hproperties
  rw [hslots', List.filterMap_map] at hs'
  refine ⟨_, hs', rfl, rfl, fun i => f (lineAt b offset i), fun i => hid _ ?_, hproperties, rfl⟩
  rw [hslots]
  exact List.mem_map_of_mem (List.mem_finRange i)

/-- **The order of the property table does not matter.** Let all values of a section stand behind its
table, and at most one line declare a codepage. With its table permuted the section is decoded exactly
when it was before, and has the same codepage and the same properties in the order of the lines. -/
theorem parse_permuted (h : Permuted b b' offset σ)
    (hcount : (Bytes.word32 b (offset + 4)).toNat = count)
    (hbehind : ∀ i : Fin count, 8 + 8 * count ≤ (lineAt b offset i).offset)
    (hone : ∀ i j : Fin count, (lineAt b offset i).id = 1 → (lineAt b offset j).id = 1 → i = j)
    (formatId : ClassId) (fallback : Codepage) :
    ((∃ s, parse b formatId offset fallback = .ok s) ↔
      ∃ s', parse b' formatId offset fallback = .ok s') ∧
    ∀ s s', parse b formatId offset fallback = .ok s →
      parse b' formatId offset fallback = .ok s' → Reordered b offset σ s s' := by
  have hbehind' : ∀ i : Fin count, 8 + 8 * count ≤ (lineAt b' offset i).offset := fun i => by
    rw [h.lineAt_eq]
    exact hbehind (σ i)
  have hone' : ∀ i j : Fin count, (lineAt b' offset i).id = 1 → (lineAt b' offset j).id = 1 →
      i = j := fun i j hi hj => by
    rw [h.lineAt_eq] at hi hj
    exact σ.injective (hone _ _ hi hj)
  refine ⟨⟨fun ⟨s, hs⟩ => ?_, fun ⟨s', hs'⟩ => ?_⟩, fun s s' hs hs' => ?_⟩
  · obtain ⟨s', hs', -⟩ := exists_parse_permuted h hcount hbehind hone hs
    exact ⟨s', hs'⟩
  · obtain ⟨s, hs, -⟩ := exists_parse_permuted h.symm (by rw [h.count_eq, hcount]) hbehind' hone' hs'
    exact ⟨s, hs⟩
  · obtain ⟨s'', hs'', hreordered⟩ := exists_parse_permuted h hcount hbehind hone hs
    cases hs''.symm.trans hs'
    exact hreordered

end Sections

/-! ## A section -/

namespace Sample

/-- A section with a narrow text and a decimal number. The codepage is declared in the last line. -/
def codepageLast : ByteArray :=
  ⟨#[60, 0, 0, 0, 3, 0, 0, 0,
    2, 0, 0, 0, 32, 0, 0, 0, 9, 0, 0, 0, 44, 0, 0, 0, 1, 0, 0, 0, 52, 0, 0, 0,
    30, 0, 0, 0, 2, 0, 0, 0, 0xC3, 0xBC, 0, 0, 14, 0, 0, 0, 1, 2, 3, 4, 2, 0, 0, 0, 0xE9, 0xFD, 0, 0]⟩

/-- The section with its first and last lines exchanged. -/
def codepageFirst : ByteArray :=
  ⟨#[60, 0, 0, 0, 3, 0, 0, 0,
    1, 0, 0, 0, 52, 0, 0, 0, 9, 0, 0, 0, 44, 0, 0, 0, 2, 0, 0, 0, 32, 0, 0, 0,
    30, 0, 0, 0, 2, 0, 0, 0, 0xC3, 0xBC, 0, 0, 14, 0, 0, 0, 1, 2, 3, 4, 2, 0, 0, 0, 0xE9, 0xFD, 0, 0]⟩

theorem permuted : Permuted codepageLast codepageFirst 0 (Equiv.swap (0 : Fin 3) 2) where
  size_eq := rfl
  line_eq := by decide +kernel
  rest_eq i hi := by
    by_cases hlt : i < 60
    · exact (show ∀ i < 60, i < 8 ∨ 32 ≤ i →
        Bytes.byteAt codepageLast i = Bytes.byteAt codepageFirst i by decide +kernel) i hlt hi
    · rw [Bytes.byteAt_of_le (Nat.not_lt.1 hlt), Bytes.byteAt_of_le (Nat.not_lt.1 hlt)]

theorem exists_parse (formatId : ClassId) (fallback : Codepage) :
    ∃ s, parse codepageLast formatId 0 fallback = .ok s := by
  have hframed : Framed codepageLast 0 codepageLast 3 :=
    ⟨by decide, by decide +kernel, by decide, by decide⟩
  have htag : Shape.ofTag (Bytes.word16 codepageLast 32) = .scalar (some .narrow) := by decide
  have htag' : Shape.ofTag (Bytes.word16 codepageLast 52) = .scalar (some .int16) := by decide
  have htext : Intact codepageLast 32 44 := .scalar (by decide) htag (show 42 ≤ 60 by decide)
  have hcodepage : Intact codepageLast 52 60 := .scalar (by decide) htag' (show 58 ≤ 60 by decide)
  have hslots : slots codepageLast 3 = [⟨2, 32⟩, ⟨9, 44⟩, ⟨1, 52⟩] := by decide +kernel
  refine (exists_parse_iff hframed (by decide +kernel)).2 ?_
  rw [hslots]
  rintro slot hslot - htag
  simp only [List.mem_cons, List.not_mem_nil, or_false] at hslot
  rcases hslot with rfl | rfl | rfl
  · exact ⟨_, htext⟩
  · exact absurd (by decide +kernel) htag
  · exact ⟨_, hcodepage⟩

end Sample

theorem parse_permuted_sample :
    ∃ s s', parse Sample.codepageLast ⟨Vector.replicate 16 0⟩ 0 .ascii = .ok s ∧
      parse Sample.codepageFirst ⟨Vector.replicate 16 0⟩ 0 .ascii = .ok s' ∧
      Reordered Sample.codepageLast 0 (Equiv.swap (0 : Fin 3) 2) s s' := by
  obtain ⟨hiff, hreordered⟩ := parse_permuted Sample.permuted (by decide +kernel)
    (by decide +kernel) (by decide +kernel) ⟨Vector.replicate 16 0⟩ .ascii
  obtain ⟨s, hs⟩ := Sample.exists_parse ⟨Vector.replicate 16 0⟩ .ascii
  obtain ⟨s', hs'⟩ := hiff.1 ⟨s, hs⟩
  exact ⟨s, s', hs, hs', hreordered s s' hs hs'⟩

end CompoundFile.PropertySet.Section
