import CompoundFile.Proofs.PropertySet.Intact

/-!
# Properties that are not decoded

The types of some properties are not decoded. Such a property keeps its tag and its bytes, up to the
next listed offset or the end of the section (`Kept`). It is never a reason to reject the section: a
framed section is rejected only for the sake of a property of a decoded type that is not intact.

The dictionary takes part in this only by its offset, where the bytes of another property may end.

Main result: `undecoded_kept`.
-/

namespace CompoundFile.PropertySet.Section

/-- The value that a line lists is kept as its tag and the bytes behind the tag, up to the least of the
listed offsets behind its own or else the end of the section. There are none if it ends in the tag. -/
def Kept (body : ByteArray) (lines : List Slot) (slot : Slot) (v : Value) : Prop :=
  ∃ past, IsLimit body.size (lines.map (·.offset)) slot.offset past ∧
    v = .unsupported (Bytes.word16 body slot.offset) (body.extract (slot.offset + 4) past)

section Lines

variable {body : ByteArray} {lines : List Slot}

/-- A limit is inside the section, if all listed offsets are. -/
theorem limit_le (hlines : ∀ slot ∈ lines, slot.offset + 4 ≤ body.size) (offset : Nat) :
    limit body.size lines offset ≤ body.size := by
  rcases isLimit_limit body.size lines offset with hleast | ⟨-, hsize⟩
  · obtain ⟨slot, hslot, hoffset⟩ := List.mem_map.1 hleast.1.1
    have := hlines slot hslot
    omega
  · exact hsize.le

/-- A listed property of a type that is not decoded is kept, and any way of narrow text gives it. -/
theorem property_kept (hlines : ∀ slot ∈ lines, slot.offset + 4 ≤ body.size) {slot : Slot}
    (hslot : slot ∈ lines) (htag : Undecoded (Bytes.word16 body slot.offset)) :
    ∃ v, Kept body lines slot v ∧
      ∀ text, property body text slot.offset (limit body.size lines slot.offset) = .ok v :=
  ⟨_, ⟨_, isLimit_limit body.size lines slot.offset, rfl⟩, fun _ =>
    property_of_undecoded htag (hlines slot hslot) (limit_le hlines slot.offset)⟩

end Lines

section Sections

variable {b body : ByteArray} {offset count : Nat} {formatId : ClassId} {fallback : Codepage}

/-- A framed section is decoded when all its properties of decoded types are intact. -/
theorem exists_parse_iff (hframed : Framed b offset body count)
    (hlines : ∀ slot ∈ slots body count, slot.offset + 4 ≤ body.size) :
    (∃ s, parse b formatId offset fallback = .ok s) ↔
      ∀ slot ∈ slots body count, slot.id ≠ 0 → ¬Undecoded (Bytes.word16 body slot.offset) →
        ∃ next, Intact body slot.offset next := by
  have hproperty : ∀ text, ∀ slot ∈ slots body count,
      (∃ v, property body text slot.offset (limit body.size (slots body count) slot.offset) = .ok v) ↔
        (¬Undecoded (Bytes.word16 body slot.offset) → ∃ next, Intact body slot.offset next) :=
    fun _ slot hslot => exists_property_iff (hlines slot hslot) (limit_le hlines slot.offset)
  constructor
  · rintro ⟨s, hs⟩ slot hslot hid
    obtain ⟨-, -, hproperties⟩ := hframed.parse_eq_ok_iff.1 hs
    obtain ⟨x, hx⟩ := (mapM_filter_eq_ok_iff.1 hproperties).1 slot hslot (by simpa using hid)
    exact (hproperty _ slot hslot).1 ⟨x.value, (propertyOf_eq_ok_iff.1 hx).2⟩
  · intro h
    -- The property that declares the codepage is listed, so it is decoded like any other.
    have hcodepage : ∃ c, declaredCodepage body (slots body count) fallback = .ok c := by
      unfold declaredCodepage
      split
      · exact ⟨none, rfl⟩
      next slot hfind =>
        have hslot := List.mem_of_find?_eq_some hfind
        have hid : slot.id = 1 := by simpa using List.find?_some hfind
        obtain ⟨v, hv⟩ := (hproperty (.codepage fallback) slot hslot).2 (h slot hslot (by simp [hid]))
        exact ⟨codepageOf v, map_eq_ok_iff.2 ⟨v, hv, rfl⟩⟩
    obtain ⟨c, hc⟩ := hcodepage
    have hproperties : ∀ slot ∈ (slots body count).filter (·.id != 0),
        ∃ x, propertyOf body (.ofCodepage c fallback) (slots body count) slot = .ok x := by
      intro slot hfilter
      obtain ⟨hslot, hid⟩ := List.mem_filter.1 hfilter
      obtain ⟨v, hv⟩ := (hproperty (.ofCodepage c fallback) slot hslot).2
        (h slot hslot (by simpa using hid))
      exact ⟨⟨slot.id, v⟩, propertyOf_eq_ok_iff.2 ⟨rfl, hv⟩⟩
    obtain ⟨xs, hxs⟩ := mapM_ok_iff.2 hproperties
    exact ⟨⟨formatId, c, xs⟩, hframed.parse_eq_ok_iff.2 ⟨rfl, hc, hxs⟩⟩

/-- **Properties that are not decoded are kept and reject no section.** Every listed property of such a
type is decoded to its tag and its bytes up to the next listed offset, and the section has it so. A
section is rejected only if it has a property of a decoded type that is not intact. -/
theorem undecoded_kept (hframed : Framed b offset body count)
    (hlines : ∀ slot ∈ slots body count, slot.offset + 4 ≤ body.size) (formatId : ClassId)
    (fallback : Codepage) :
    (∀ slot ∈ slots body count, Undecoded (Bytes.word16 body slot.offset) →
      ∃ v, Kept body (slots body count) slot v ∧ ∀ text,
        property body text slot.offset (limit body.size (slots body count) slot.offset) = .ok v) ∧
    (∀ s, parse b formatId offset fallback = .ok s →
      List.Forall₂ (fun slot x => x.id = slot.id ∧
          (Undecoded (Bytes.word16 body slot.offset) → Kept body (slots body count) slot x.value))
        ((slots body count).filter (·.id != 0)) s.properties) ∧
    ((∃ fault, parse b formatId offset fallback = .error fault) ↔
      ∃ slot ∈ slots body count, slot.id ≠ 0 ∧ ¬Undecoded (Bytes.word16 body slot.offset) ∧
        ¬∃ next, Intact body slot.offset next) := by
  refine ⟨fun slot hslot htag => property_kept hlines hslot htag, fun s hs => ?_, ?_⟩
  · obtain ⟨-, -, hproperties⟩ := hframed.parse_eq_ok_iff.1 hs
    have hmem : ∀ slot ∈ (slots body count).filter (·.id != 0), slot ∈ slots body count :=
      fun slot => List.mem_of_mem_filter
    refine List.Forall₂.imp ?_ ((List.forall₂_and_left _ _).2 ⟨hmem, mapM_eq_ok_iff.1 hproperties⟩)
    rintro slot x ⟨hslot, hx⟩
    obtain ⟨hid, hv⟩ := propertyOf_eq_ok_iff.1 hx
    refine ⟨hid, fun htag => ?_⟩
    obtain ⟨v, hkept, hproperty⟩ := property_kept hlines hslot htag
    cases (hproperty _).symm.trans hv
    exact hkept
  · rw [exists_error_iff, exists_parse_iff hframed hlines]
    simp only [not_forall, exists_prop]

end Sections

/-! ## A section -/

namespace Sample

/-- A section with a decimal number, a dictionary that begins in it, and a vector of integers. -/
def undecoded : ByteArray :=
  ⟨#[52, 0, 0, 0, 3, 0, 0, 0,
    5, 0, 0, 0, 32, 0, 0, 0, 6, 0, 0, 0, 40, 0, 0, 0, 0, 0, 0, 0, 38, 0, 0, 0,
    14, 0, 0, 0, 1, 2, 3, 4,
    3, 16, 0, 0, 1, 0, 0, 0, 9, 0, 0, 0]⟩

theorem framed_undecoded : Framed undecoded 0 undecoded 3 :=
  ⟨by decide, by decide +kernel, by decide, by decide⟩

end Sample

theorem undecoded_kept_sample :
    ∃ s, parse Sample.undecoded ⟨Vector.replicate 16 0⟩ 0 .ascii = .ok s ∧
      s.properties = [⟨5, .unsupported 14 ⟨#[1, 2]⟩⟩,
        ⟨6, .unsupported 0x1003 ⟨#[1, 0, 0, 0, 9, 0, 0, 0]⟩⟩] := by
  obtain ⟨-, hkept, hrejected⟩ := undecoded_kept Sample.framed_undecoded (by decide +kernel)
    ⟨Vector.replicate 16 0⟩ .ascii
  have hall : ∀ slot ∈ slots Sample.undecoded 3, slot.id ≠ 0 →
      Undecoded (Bytes.word16 Sample.undecoded slot.offset) := by decide +kernel
  have hparse : ∃ s, parse Sample.undecoded ⟨Vector.replicate 16 0⟩ 0 .ascii = .ok s := by
    by_contra hno
    obtain ⟨slot, hslot, hid, htag, -⟩ := hrejected.1 (exists_error_iff.2 hno)
    exact htag (hall slot hslot hid)
  obtain ⟨s, hs⟩ := hparse
  refine ⟨s, hs, ?_⟩
  have hfilter : (slots Sample.undecoded 3).filter (·.id != 0) = [⟨5, 32⟩, ⟨6, 40⟩] := by
    decide +kernel
  have hlimits : limit Sample.undecoded.size (slots Sample.undecoded 3) 32 = 38 ∧
      limit Sample.undecoded.size (slots Sample.undecoded 3) 40 = 52 := by decide +kernel
  have hproperties := hkept s hs
  rw [hfilter] at hproperties
  obtain ⟨⟨_, v⟩, rest, ⟨rfl, hv⟩, hrest, hlist⟩ := List.forall₂_cons_left_iff.1 hproperties
  obtain ⟨⟨_, w⟩, last, ⟨rfl, hw⟩, hlast, rfl⟩ := List.forall₂_cons_left_iff.1 hrest
  obtain rfl := List.forall₂_nil_left_iff.1 hlast
  obtain ⟨past, hpast, rfl⟩ := hv (by decide +kernel)
  obtain ⟨past', hpast', rfl⟩ := hw (by decide +kernel)
  rw [hlist, hpast.unique (isLimit_limit _ _ _), hpast'.unique (isLimit_limit _ _ _), hlimits.1,
    hlimits.2]
  rfl

end CompoundFile.PropertySet.Section
