import CompoundFile.Proofs.PropertySet.Vectors

/-!
# Property sets are read back

A section is written as its size, the number of its properties, a table of identifiers and offsets,
and the values. A set is written as a header, a list of format identifiers and offsets, and the
sections. Table and list are made alike: line `i` says where element `i` stands (`placed`), and all
lines have one size, so it is found at a multiple of it (`Holds.piece`).

Property 0 is no value and property 1 says how text is to be read, so neither is written.

Main result: `parse_bytes`.
-/

namespace CompoundFile.PropertySet

open Bytes (Holds ofList toLE)

/-! ## Tables -/

/-- Elements whose bytes stand one behind the other, each with the position of its bytes. -/
def placed {α : Type} (f : α → List UInt8) : Nat → List α → List (α × Nat)
  | _, [] => []
  | pos, a :: as => (a, pos) :: placed f (pos + (f a).length) as

section Placed

variable {α : Type} {f : α → List UInt8} {pos : Nat} {as : List α}

theorem map_fst_placed (f : α → List UInt8) (pos : Nat) (as : List α) :
    (placed f pos as).map Prod.fst = as := by
  induction as generalizing pos with
  | nil => rfl
  | cons a as ih => rw [placed, List.map_cons, ih]

@[simp] theorem length_placed : (placed f pos as).length = as.length := by
  rw [← List.length_map Prod.fst, map_fst_placed]

theorem getElem_placed {i : Nat} (hi : i < as.length) (hi' : i < (placed f pos as).length) :
    (placed f pos as)[i].1 = as[i] := by
  have h := congrArg (fun l : List α => l[i]?) (map_fst_placed f pos as)
  simpa [hi, hi'] using h

theorem holds_of_mem_placed {b : ByteArray} {line : α × Nat} (h : Holds b pos (as.flatMap f))
    (hline : line ∈ placed f pos as) : Holds b line.2 (f line.1) := by
  induction as generalizing pos with
  | nil => cases hline
  | cons a as ih =>
    rw [List.flatMap_cons] at h
    rcases List.mem_cons.1 hline with rfl | hline
    · exact h.left
    · exact ih h.right hline

end Placed

/-! ## Sections -/

/-- A property as it is written. The dictionary and the codepage are not written. -/
structure PropertyForm where
  id : UInt32
  form : Form
  ne_dictionary : id ≠ 0
  ne_codepage : id ≠ 1

/-- A section as it is written. -/
structure SectionForm where
  formatId : ClassId
  properties : List PropertyForm

def PropertyForm.bytes (p : PropertyForm) : List UInt8 := p.form.bytes

def PropertyForm.property (p : PropertyForm) : Property := ⟨p.id, p.form.value⟩

namespace SectionForm

variable (s : SectionForm)

/-- The properties with their offsets: the first stands behind the table. -/
def table : List (PropertyForm × Nat) :=
  placed PropertyForm.bytes (8 + 8 * s.properties.length) s.properties

/-- A line of the table. -/
def slot (line : PropertyForm × Nat) : Section.Slot := ⟨line.1.id, line.2⟩

/-- The bytes of a line of the table. -/
def lineBytes (line : PropertyForm × Nat) : List UInt8 := toLE 4 line.1.id.toNat ++ toLE 4 line.2

/-- The table and the values. -/
def body : List UInt8 := (s.table.map lineBytes).flatten ++ s.properties.flatMap PropertyForm.bytes

/-- Size, number of properties, table and values. -/
def bytes : List UInt8 := toLE 4 (8 + s.body.length) ++ (toLE 4 s.properties.length ++ s.body)

/-- What is written. -/
def value : Section := ⟨s.formatId, none, s.properties.map PropertyForm.property⟩

theorem length_of_mem_lines : ∀ l ∈ s.table.map lineBytes, l.length = 8 := by
  intro l hl
  obtain ⟨line, -, rfl⟩ := List.mem_map.1 hl
  simp [lineBytes]

theorem length_lines : (s.table.map lineBytes).flatten.length = 8 * s.properties.length := by
  rw [Bytes.length_flatten_of_forall s.length_of_mem_lines, List.length_map, table, length_placed]

theorem length_lines_le : 8 * s.properties.length ≤ s.body.length := by
  rw [body, List.length_append, length_lines]
  exact Nat.le_add_right _ _

theorem length_bytes : s.bytes.length = 8 + s.body.length := by
  simp only [bytes, List.length_append, Bytes.length_toLE]
  omega

/-- No codepage is declared. -/
theorem find?_slots : (s.table.map slot).find? (·.id == 1) = none := by
  simp only [List.find?_eq_none, List.forall_mem_map, beq_iff_eq]
  exact fun line _ => line.1.ne_codepage

/-- There is no dictionary to leave out. -/
theorem filter_slots : (s.table.map slot).filter (·.id != 0) = s.table.map slot := by
  simp only [List.filter_eq_self, List.forall_mem_map, bne_iff_ne]
  exact fun line _ => line.1.ne_dictionary

end SectionForm

section Parsing

variable {b : ByteArray} {s : SectionForm} (h : Holds b 0 s.bytes)
include h

/-- Every line of the table leads to the value of its property. -/
theorem holds_of_mem_table {line : PropertyForm × Nat} (hline : line ∈ s.table) :
    Holds b line.2 line.1.bytes := by
  have hvalues : Holds b (8 + (s.table.map SectionForm.lineBytes).flatten.length) _ :=
    h.right.right.right
  rw [s.length_lines] at hvalues
  exact holds_of_mem_placed hvalues hline

variable (hsize : b.size < 2 ^ 32)
include hsize

/-- The table is read back. -/
theorem slots_eq : Section.slots b s.properties.length = s.table.map SectionForm.slot := by
  refine List.ext_getElem (by simp [Section.slots, SectionForm.table]) fun i hi hi' => ?_
  have hlt : i < s.table.length := by simpa using hi'
  have hlines : Holds b 8 (s.table.map SectionForm.lineBytes).flatten := h.right.right.left
  have hline : Holds b (8 + 8 * i) (SectionForm.lineBytes s.table[i]) :=
    hlines.piece s.length_of_mem_lines (by simp [hlt])
  have hoffset : (UInt32.ofNat s.table[i].2).toNat = s.table[i].2 := by
    have := (holds_of_mem_table h (List.getElem_mem hlt)).add_length_le
    exact UInt32.toNat_ofNat_of_lt' (Nat.lt_of_le_of_lt (by omega) hsize)
  have hid : Bytes.word32 b (8 + 8 * i) = s.table[i].1.id := Bytes.word32_of_holds hline.left
  have hplace : Bytes.word32 b (8 + 8 * i + 4) = UInt32.ofNat s.table[i].2 :=
    Bytes.word32_of_holds (hoffset.symm ▸ hline.right)
  rw [show 8 + 8 * i + 4 = 12 + 8 * i by omega] at hplace
  simp [Section.slots, SectionForm.slot, hid, hplace, hoffset]

/-- The bytes of a section are read back. -/
theorem parseBody_eq (offset : Nat) :
    Section.parseBody b s.formatId offset .ascii = .ok s.value := by
  have hcount : Holds b 4 (toLE 4 s.properties.length) := h.right.left
  have hle := h.add_length_le
  have hlines := s.length_lines_le
  rw [s.length_bytes] at hle
  obtain ⟨w, hw, hwn⟩ := exists_word32_of_holds (by omega) hcount
  refine bind_eq_ok_iff.2 ⟨w, hw, guard_eq_ok_iff.2 ⟨by omega, ?_⟩⟩
  rw [hwn, slots_eq h hsize]
  have hdeclared : Section.declaredCodepage b (s.table.map SectionForm.slot) .ascii = .ok none := by
    rw [Section.declaredCodepage, s.find?_slots]
  refine bind_eq_ok_iff.2 ⟨none, hdeclared, ?_⟩
  rw [s.filter_slots]
  refine bind_eq_ok_iff.2 ⟨s.properties.map PropertyForm.property, mapM_eq_ok_iff.2 ?_, rfl⟩
  rw [← map_fst_placed PropertyForm.bytes (8 + 8 * s.properties.length) s.properties, List.map_map]
  show List.Forall₂ _ (s.table.map _) (s.table.map _)
  rw [List.forall₂_map_left_iff, List.forall₂_map_right_iff, List.forall₂_same]
  intro line hline
  have hdecodes := decodes_form hsize line.1.form (holds_of_mem_table h hline)
  exact bind_eq_ok_iff.2 ⟨_, property_of_decodes hdecodes, rfl⟩

end Parsing

theorem parse_section {b : ByteArray} {s : SectionForm} {offset : Nat} (hsize : b.size < 2 ^ 32)
    (h : Holds b offset s.bytes) : Section.parse b s.formatId offset .ascii = .ok s.value := by
  have hle := h.add_length_le
  have hlength := s.length_bytes
  obtain ⟨w, hw, hwn⟩ := exists_word32_of_holds (by omega) h.left
  have hbody := parseBody_eq (Bytes.holds_ofList s.bytes)
    (by rw [Bytes.size_ofList]; omega) offset
  refine bind_eq_ok_iff.2 ⟨w, hw, ?_⟩
  simp only [hwn, ← hlength, slice?_of_holds h]
  exact hbody

/-! ## Sets -/

/-- A property set as it is written. -/
structure SetForm where
  format : UInt16
  systemVersion : UInt32
  clsid : ClassId
  sections : List SectionForm
  length_le : sections.length ≤ maxSections

namespace SetForm

variable (p : SetForm)

/-- The sections with their offsets: the first stands behind the list. -/
def list : List (SectionForm × Nat) :=
  placed SectionForm.bytes (headerSize + sectionEntrySize * p.sections.length) p.sections

/-- An entry of the section list. -/
def entryBytes (entry : SectionForm × Nat) : List UInt8 :=
  entry.1.formatId.bytes.toList ++ toLE 4 entry.2

/-- Mark, format, system version, class identifier, number of sections, section list and sections. -/
def bytes : List UInt8 :=
  toLE 2 (0xFFFE : UInt16).toNat ++ (toLE 2 p.format.toNat ++ (toLE 4 p.systemVersion.toNat ++
    (p.clsid.bytes.toList ++ (toLE 4 p.sections.length ++
      ((p.list.map entryBytes).flatten ++ p.sections.flatMap SectionForm.bytes)))))

/-- What is written. -/
def value : PropertySet :=
  ⟨p.format, p.systemVersion, p.clsid, p.sections.map SectionForm.value⟩

theorem length_of_mem_entries : ∀ e ∈ p.list.map entryBytes, e.length = sectionEntrySize := by
  intro e he
  obtain ⟨entry, -, rfl⟩ := List.mem_map.1 he
  simp [entryBytes, sectionEntrySize]

end SetForm

section Parsing

variable {b : ByteArray} {p : SetForm} (h : Holds b 0 p.bytes)
include h

theorem holds_list : Holds b headerSize
    ((p.list.map SetForm.entryBytes).flatten ++ p.sections.flatMap SectionForm.bytes) := by
  have hclsid := h.right.right.right
  have hlist := hclsid.right.right
  rw [Vector.length_toList] at hlist
  exact hlist

/-- Every entry of the section list leads to its section. -/
theorem holds_of_mem_list {entry : SectionForm × Nat} (hentry : entry ∈ p.list) :
    Holds b entry.2 entry.1.bytes := by
  have hsections := (holds_list h).right
  rw [Bytes.length_flatten_of_forall p.length_of_mem_entries, List.length_map, SetForm.list,
    length_placed] at hsections
  exact holds_of_mem_placed hsections hentry

/-- The sections are read back, each through its entry of the list. -/
theorem mapM_sections_eq (hsize : b.size < 2 ^ 32) :
    (List.range p.sections.length).mapM (fun i => do
      let entry := headerSize + i * sectionEntrySize
      let formatId ← classIdAt b entry
      let offset := (← word32 b (entry + 16)).toNat
      Section.parse b formatId offset .ascii) = .ok (p.sections.map SectionForm.value) := by
  refine mapM_eq_ok_iff.2 (List.forall₂_iff_get.2 ⟨by simp, fun i hi _ => ?_⟩)
  have hi' : i < p.sections.length := by simpa using hi
  have hlt : i < p.list.length := by simpa [SetForm.list] using hi'
  have hentry : Holds b (headerSize + sectionEntrySize * i) (SetForm.entryBytes p.list[i]) :=
    (holds_list h).left.piece p.length_of_mem_entries (by simp [hlt])
  have hsection := holds_of_mem_list h (List.getElem_mem hlt)
  have hle := hsection.add_length_le
  have hclass := classIdAt_of_holds hentry.left
  have hplace := hentry.right
  rw [Vector.length_toList] at hplace
  obtain ⟨w, hw, hoffset⟩ := exists_word32_of_holds (by omega) hplace
  rw [Nat.mul_comm] at hclass hw
  have hsame : p.list[i].1 = p.sections[i] := getElem_placed hi' hlt
  simp only [List.get_eq_getElem, List.getElem_range, List.getElem_map, ← hsame]
  refine bind_eq_ok_iff.2 ⟨_, hclass, bind_eq_ok_iff.2 ⟨w, hw, ?_⟩⟩
  rw [hoffset]
  exact parse_section hsize hsection

/-- A property set is read back from where it stands. -/
theorem parse_of_holds (hsize : b.size < 2 ^ 32) : PropertySet.parse b .ascii = .ok p.value := by
  have hmark : Bytes.word16 b 0 = 0xFFFE := Bytes.word16_of_holds h.left
  have hformat : Bytes.word16 b 2 = p.format := Bytes.word16_of_holds h.right.left
  have hversion : Bytes.word32 b 4 = p.systemVersion := Bytes.word32_of_holds h.right.right.left
  have hclsid : ClassId.read b 8 = p.clsid := Bytes.classId_of_holds h.right.right.right.left
  have hcount : (Bytes.word32 b 24).toNat = p.sections.length := by
    have hn : (UInt32.ofNat p.sections.length).toNat = p.sections.length :=
      UInt32.toNat_ofNat_of_lt' (Nat.lt_of_le_of_lt p.length_le (by decide))
    have hplace := h.right.right.right.right.left
    rw [Vector.length_toList, ← hn] at hplace
    exact (congrArg UInt32.toNat (Bytes.word32_of_holds hplace)).trans hn
  have hle := (holds_list h).add_length_le
  unfold PropertySet.parse
  refine guard_eq_ok_iff.2 ⟨by omega, guard_eq_ok_iff.2 ⟨not_not.2 hmark, ?_⟩⟩
  refine guard_eq_ok_iff.2 ⟨?_, bind_eq_ok_iff.2 ⟨p.sections.map SectionForm.value, ?_, ?_⟩⟩
  · rw [hcount]
    exact Nat.not_lt.2 p.length_le
  · rw [hcount]
    exact mapM_sections_eq h hsize
  · rw [hformat, hversion, hclsid]
    rfl

end Parsing

/-- **Writing a property set and decoding it gives the set.** It has the header that was written, and
the sections and properties in their order with equal values, whatever vectors they nest. -/
theorem parse_bytes (p : SetForm) (hsize : p.bytes.length < 2 ^ 32) :
    PropertySet.parse (ofList p.bytes) .ascii = .ok p.value :=
  parse_of_holds (Bytes.holds_ofList p.bytes) (by rwa [Bytes.size_ofList])

/-! ## A set -/

namespace Sample

def title : AsciiText := ⟨"Title", by simp⟩

def name : WideText := ⟨"日本", by simp⟩

/-- A set whose first section has a vector of values with vectors of all kinds in it. -/
def set : SetForm where
  format := 0
  systemVersion := 0x20A00
  clsid := ⟨Vector.replicate 16 0⟩
  sections := [⟨⟨Vector.replicate 16 1⟩,
    [⟨2, .atom (.narrow title), by decide, by decide⟩,
      ⟨12, .vector [.atom (.narrow title), .vector [.atom (.int32 (-1)), .vector []],
        .narrowVector [title, title], .wideVector [name]], by decide, by decide⟩]⟩,
    ⟨⟨Vector.replicate 16 2⟩, []⟩]
  length_le := by decide

end Sample

theorem parse_bytes_nested :
    PropertySet.parse (ofList Sample.set.bytes) .ascii = .ok Sample.set.value ∧
      Sample.set.value.sections.map (·.properties.map (·.value)) =
        [[.narrow "Title", .vector [.narrow "Title", .vector [.int32 (-1), .vector []],
          .vector [.narrow "Title", .narrow "Title"], .vector [.wide "日本"]]], []] :=
  ⟨parse_bytes Sample.set (by decide +kernel), rfl⟩

end CompoundFile.PropertySet
