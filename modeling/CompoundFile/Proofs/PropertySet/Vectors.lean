import CompoundFile.Proofs.PropertySet.Scalars

/-!
# Written vectors

A tag, a count and the elements, one behind the other. The elements of a vector of texts have no tags,
those of a vector of values have one each and may be vectors again, so what can be written is a tree
(`Form`).

**Induction.** The induction is on this tree. The next offset after a value is where its bytes end, and
this is where the next element was written (`reads_elements_succ_iff`). Every element takes four bytes
at least, so a count is never too large for its section.

Main result: `decodes_form`.
-/

namespace CompoundFile.PropertySet

open Bytes (Holds ofList toLE)

/-! ## Forms -/

/-- A value as it is written. The texts of a vector of texts share its tag; the values of a vector of
values have tags of their own, and may be vectors. -/
inductive Form where
  | atom (a : Atom)
  | narrowVector (ts : List AsciiText)
  | wideVector (ts : List WideText)
  | vector (fs : List Form)

/-- A tag takes four bytes. -/
def tagBytes (tag : UInt16) : List UInt8 := toLE 4 tag.toNat

/-- The tag of values of any type. -/
def variantTag : UInt16 := 12

/-- The bytes of a vector, given the tag of its elements, their number and their bytes. -/
def vectorBytes (tag : UInt16) (count : Nat) (body : List UInt8) : List UInt8 :=
  tagBytes (UInt16.ofNat (vectorBit + tag.toNat)) ++ (toLE 4 count ++ body)

theorem shape_narrowVector :
    Shape.ofTag (UInt16.ofNat (vectorBit + ScalarType.narrow.tag.toNat)) =
      .vector (some (.scalar .narrow)) := by decide

theorem shape_wideVector :
    Shape.ofTag (UInt16.ofNat (vectorBit + ScalarType.wide.tag.toNat)) =
      .vector (some (.scalar .wide)) := by decide

theorem shape_vector :
    Shape.ofTag (UInt16.ofNat (vectorBit + variantTag.toNat)) = .vector (some .tagged) := by decide

namespace Form

mutual

/-- The bytes of a value. -/
def bytes : Form → List UInt8
  | atom a => tagBytes a.type.tag ++ a.bytes
  | narrowVector ts =>
    vectorBytes ScalarType.narrow.tag ts.length (ts.flatMap fun t => (Atom.narrow t).bytes)
  | wideVector ts =>
    vectorBytes ScalarType.wide.tag ts.length (ts.flatMap fun t => (Atom.wide t).bytes)
  | vector fs => vectorBytes variantTag fs.length (bytesOf fs)

/-- The bytes of values, one behind the other. -/
def bytesOf : List Form → List UInt8
  | [] => []
  | f :: fs => f.bytes ++ bytesOf fs

end

mutual

/-- What is written. -/
def value : Form → Value
  | atom a => a.value
  | narrowVector ts => .vector (ts.map fun t => .narrow t.text)
  | wideVector ts => .vector (ts.map fun t => .wide t.text)
  | vector fs => .vector (valuesOf fs)

/-- What is written as the elements of a vector. -/
def valuesOf : List Form → List Value
  | [] => []
  | f :: fs => f.value :: valuesOf fs

end

theorem bytesOf_eq (fs : List Form) : bytesOf fs = fs.flatMap bytes := by
  induction fs with
  | nil => rfl
  | cons f fs ih => rw [bytesOf, ih, List.flatMap_cons]

theorem four_le_length_bytes (f : Form) : 4 ≤ f.bytes.length := by
  cases f <;> simp only [bytes, vectorBytes, tagBytes, List.length_append, Bytes.length_toLE] <;>
    omega

end Form

/-- Elements that take four bytes at least, one behind the other. -/
theorem four_mul_length_le {α : Type} {f : α → List UInt8} (hf : ∀ a, 4 ≤ (f a).length)
    (as : List α) : 4 * as.length ≤ (as.flatMap f).length := by
  induction as with
  | nil => exact Nat.le_refl 0
  | cons a as ih =>
    have := hf a
    rw [List.flatMap_cons, List.length_append, List.length_cons]
    omega

/-! ## Reading elements -/

section Reading

variable {b : ByteArray} {text : NarrowText} {pos next : Nat} {vs : List Value}

/-- The tag is the first half of the four bytes that it takes. -/
theorem word16_of_holds_tagBytes {tag : UInt16} (h : Holds b pos (tagBytes tag)) :
    word16 b pos = .ok tag := by
  have hsplit : tagBytes tag = toLE 2 tag.toNat ++ toLE 2 (tag.toNat / 256 / 256) := rfl
  rw [hsplit] at h
  exact word16_of_holds h.left

theorem decodes_vectorBytes {tag : UInt16} {e : ElementType} {count : Nat} {body : List UInt8}
    (hsize : b.size < 2 ^ 32)
    (hshape : Shape.ofTag (UInt16.ofNat (vectorBit + tag.toNat)) = .vector (some e))
    (hroom : 4 * count ≤ body.length) (h : Holds b pos (vectorBytes tag count body))
    (helements : Reads (elements b text e count (pos + 8)) vs (pos + 8 + body.length)) :
    Decodes (tagged b text pos) (.vector vs) (pos + (vectorBytes tag count body).length) := by
  have hle := h.add_length_le
  have hlength : (vectorBytes tag count body).length = 8 + body.length := by
    simp only [vectorBytes, tagBytes, List.length_append, Bytes.length_toLE]
    omega
  rw [hlength] at hle ⊢
  have hcount : Holds b (pos + 4) (toLE 4 count) := h.right.left
  obtain ⟨w, hw, rfl⟩ := exists_word32_of_holds (by omega) hcount
  rw [tagged_of_tag (word16_of_holds_tagBytes h.left), hshape, ← Nat.add_assoc]
  obtain ⟨-, rfl⟩ := word32_eq_ok_iff.1 hw
  exact (reads_vector_iff.2 ⟨by omega, vs, helements, rfl⟩).some

end Reading

/-! ## Reading what is written -/

section Written

variable {b : ByteArray} (hsize : b.size < 2 ^ 32)
include hsize

theorem decodes_atom {pos : Nat} (a : Atom) (h : Holds b pos a.bytes) :
    Decodes (element b (.codepage .ascii) (.scalar a.type) pos) a.value
      (pos + a.bytes.length) := by
  rw [a.length_bytes]
  rw [Atom.bytes, Bytes.fill] at h
  exact (reads_scalar hsize a h.left).some

/-- Scalars of one type, one behind the other. -/
theorem reads_atoms {α : Type} {f : α → Atom} {type : ScalarType} (htype : ∀ a, (f a).type = type)
    (as : List α) {pos : Nat} (h : Holds b pos (as.flatMap fun a => (f a).bytes)) :
    Reads (elements b (.codepage .ascii) (.scalar type) as.length pos)
      (as.map fun a => (f a).value) (pos + (as.flatMap fun a => (f a).bytes).length) := by
  induction as generalizing pos with
  | nil => exact reads_elements_zero_iff.2 ⟨rfl, rfl⟩
  | cons a as ih =>
    rw [List.flatMap_cons] at h ⊢
    rw [List.length_append, ← Nat.add_assoc]
    exact reads_elements_succ_iff.2
      ⟨_, _, _, htype a ▸ decodes_atom hsize (f a) h.left, ih h.right, rfl⟩

end Written

mutual

/-- **A written value is read back**, and the next offset is where it ends. -/
theorem decodes_form {b : ByteArray} (hsize : b.size < 2 ^ 32) :
    ∀ (f : Form) {pos : Nat}, Holds b pos f.bytes →
      Decodes (tagged b (.codepage .ascii) pos) f.value (pos + f.bytes.length)
  | .atom a, pos, h => by
    rw [Form.bytes] at h ⊢
    have ha := decodes_atom hsize a h.right
    rw [tagged_of_tag (word16_of_holds_tagBytes h.left), a.type.shape_tag, List.length_append,
      ← Nat.add_assoc]
    exact ha
  | .narrowVector ts, pos, h => by
    rw [Form.bytes] at h ⊢
    have hlong : ∀ t, 4 ≤ (Atom.narrow t).bytes.length := fun t =>
      Nat.le_trans (by simp [Atom.content]) (Atom.narrow t).length_content_le
    exact decodes_vectorBytes hsize shape_narrowVector (four_mul_length_le hlong ts) h
      (reads_atoms (f := Atom.narrow) hsize (fun _ => rfl) ts h.right.right)
  | .wideVector ts, pos, h => by
    rw [Form.bytes] at h ⊢
    have hlong : ∀ t, 4 ≤ (Atom.wide t).bytes.length := fun t =>
      Nat.le_trans (by simp [Atom.content]) (Atom.wide t).length_content_le
    exact decodes_vectorBytes hsize shape_wideVector (four_mul_length_le hlong ts) h
      (reads_atoms (f := Atom.wide) hsize (fun _ => rfl) ts h.right.right)
  | .vector fs, pos, h => by
    rw [Form.bytes] at h ⊢
    exact decodes_vectorBytes hsize shape_vector
      (Form.bytesOf_eq fs ▸ four_mul_length_le Form.four_le_length_bytes fs) h
      (reads_forms hsize fs h.right.right)

theorem reads_forms {b : ByteArray} (hsize : b.size < 2 ^ 32) :
    ∀ (fs : List Form) {pos : Nat}, Holds b pos (Form.bytesOf fs) →
      Reads (elements b (.codepage .ascii) .tagged fs.length pos) (Form.valuesOf fs)
        (pos + (Form.bytesOf fs).length)
  | [], pos, h => reads_elements_zero_iff.2 ⟨rfl, rfl⟩
  | f :: fs, pos, h => by
    rw [Form.bytesOf] at h ⊢
    rw [List.length_append, ← Nat.add_assoc]
    exact reads_elements_succ_iff.2 ⟨_, _, _,
      decodes_element_tagged_iff.2 (decodes_form hsize f h.left), reads_forms hsize fs h.right, rfl⟩

end

end CompoundFile.PropertySet
