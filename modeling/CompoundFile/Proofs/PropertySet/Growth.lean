import CompoundFile.Error
import CompoundFile.Proofs.PropertySet.Vectors

/-!
# How much decoding gives

The counts in a section are chosen by whoever wrote it, and vectors of values nest as deep as they
like. Still decoding ends, and what it gives is bounded by the size of the section.

**Termination.** While a vector of values is decoded, so is the value at the beginning of each of its
elements (`Calls`). Every such value begins 8 bytes behind the tag of the vector or later, and the tag
and the count are inside the section.

**Size.** A value takes 4 bytes for each node of its tree, and 8 bytes for each level but the last
(`Compact`). Values end 3 bytes past the section at the latest, so the tree is as small as the
section. A vector has an element for each one that it declares, in a row (`Row`).

**Faults** name an offset in the value, never one before it (`FailsFrom`).

Main result: `decoding_bounded`.
-/

namespace CompoundFile.PropertySet

/-! ## Trees of values -/

mutual

/-- The number of values in a value, itself included. -/
def Value.nodes : Value → Nat
  | .vector vs => nodesOf vs + 1
  | _ => 1

/-- The number of values in a list of values. -/
def nodesOf : List Value → Nat
  | [] => 0
  | v :: vs => v.nodes + nodesOf vs

end

mutual

/-- The number of levels of a value. -/
def Value.depth : Value → Nat
  | .vector vs => depthOf vs + 1
  | _ => 1

/-- The number of levels of the deepest value in a list. -/
def depthOf : List Value → Nat
  | [] => 0
  | v :: vs => max v.depth (depthOf vs)

end

theorem nodes_scalar (b : ByteArray) (text : NarrowText) (pos : Nat) (type : ScalarType) :
    (type.value b text pos).nodes = 1 := by
  cases type <;> rfl

theorem depth_scalar (b : ByteArray) (text : NarrowText) (pos : Nat) (type : ScalarType) :
    (type.value b text pos).depth = 1 := by
  cases type <;> rfl

theorem padded_bounds (length : Nat) :
    length ≤ padded length ∧ padded length ≤ length + 3 ∧ padded length % 4 = 0 := by
  unfold padded
  omega

/-! ## Rows of elements -/

/-- Elements that were decoded one behind the other, each with the offset where it begins. -/
inductive Row (b : ByteArray) (text : NarrowText) (e : ElementType) :
    (pos : Nat) → List (Nat × Value) → (next : Nat) → Prop where
  | nil (pos : Nat) : Row b text e pos [] pos
  | cons {pos mid next : Nat} {v : Value} {xs : List (Nat × Value)}
      (hfirst : Decodes (element b text e pos) v mid) (hrest : Row b text e mid xs next) :
      Row b text e pos ((pos, v) :: xs) next

section Rows

variable {b : ByteArray} {text : NarrowText} {e : ElementType} {pos next : Nat}

/-- The elements that were read are a row with as many elements as were asked for. -/
theorem exists_row_of_reads {count : Nat} {vs : List Value}
    (h : Reads (elements b text e count pos) vs next) :
    ∃ xs, Row b text e pos xs next ∧ xs.length = count ∧ xs.map Prod.snd = vs := by
  induction count generalizing pos vs with
  | zero =>
    obtain ⟨rfl, rfl⟩ := reads_elements_zero_iff.1 h
    exact ⟨[], .nil next, rfl, rfl⟩
  | succ count ih =>
    obtain ⟨v, mid, rest, hfirst, hrest, rfl⟩ := reads_elements_succ_iff.1 h
    obtain ⟨xs, hxs, rfl, rfl⟩ := ih hrest
    exact ⟨(pos, v) :: xs, .cons hfirst hxs, rfl, rfl⟩

end Rows

/-! ## Values take their room -/

/-- A value that ends at an offset has taken 4 bytes for each of its nodes and 8 bytes for each of its
levels but the last. It ends a multiple of four bytes behind its beginning, and at most 3 bytes past the
section. -/
structure Compact (b : ByteArray) (pos : Nat) (v : Value) (next : Nat) : Prop where
  nodes_le : pos + 4 * v.nodes ≤ next
  depth_le : pos + 8 * v.depth ≤ next + 4
  aligned : next % 4 = pos % 4
  inside : next ≤ b.size + 3

section Bounds

variable {b : ByteArray} {text : NarrowText} {e : ElementType} {offset pos next : Nat} {v : Value}
  {xs : List (Nat × Value)}

/-- A scalar has no content, or it ends inside the section. -/
theorem ScalarType.Fits.inside {type : ScalarType} (h : type.Fits b pos) :
    type.length b pos = 0 ∨ pos + type.length b pos ≤ b.size := by
  cases type with
  | empty | null => exact Or.inl rfl
  | clipboard => exact Or.inr h.1
  | _ => exact Or.inr h

/-- A scalar takes at least 4 bytes with what may stand before it. -/
theorem compact_scalar (skip : Nat) {type : ScalarType} (hskip : skip % 4 = 0)
    (hfour : 4 ≤ skip + type.length b (pos + skip)) (hpos : pos + skip ≤ b.size + 3)
    (h : Reads (scalar b text type (pos + skip)) v next) : Compact b pos v next := by
  obtain ⟨hfits, rfl, rfl⟩ := reads_scalar_iff.1 h
  obtain ⟨hle, hle', halign⟩ := padded_bounds (type.length b (pos + skip))
  have hinside := hfits.inside
  refine ⟨?_, ?_, by omega, by omega⟩
  · rw [nodes_scalar]
    omega
  · rw [depth_scalar]
    omega

/-- The elements of a row are as compact as a single value, if each of them is. -/
theorem Row.compact {first : Nat} (hrow : Row b text e pos xs next) (hfirst : first ≤ pos)
    (h : ∀ pos v mid, first ≤ pos → Decodes (element b text e pos) v mid → Compact b pos v mid)
    (hpos : pos ≤ b.size + 3) :
    pos + 4 * nodesOf (xs.map Prod.snd) ≤ next ∧ pos + 8 * depthOf (xs.map Prod.snd) ≤ next + 4 ∧
      next % 4 = pos % 4 ∧ next ≤ b.size + 3 := by
  induction hrow with
  | nil pos => simp [nodesOf, depthOf, hpos]
  | @cons pos mid next v xs hhead hrest ih =>
    obtain ⟨hnodes, hdepth, haligned, hinside⟩ := h pos v mid hfirst hhead
    obtain ⟨hnodes', hdepth', haligned', hinside'⟩ := ih (by omega) hinside
    simp only [List.map_cons, nodesOf, depthOf]
    refine ⟨by omega, by omega, by omega, hinside'⟩

/-- The elements of a vector are values with tags, or texts with their lengths before them. -/
theorem element_of_tag {tag : UInt16} (h : Shape.ofTag tag = .vector (some e)) :
    e = .tagged ∨ ∃ type, e = .scalar type ∧ ∀ b pos, 4 ≤ type.length b pos := by
  unfold Shape.ofTag at h
  split at h
  · rw [Shape.vector.injEq, ElementType.ofTag?] at h
    split at h
    · exact Or.inl (Option.some.inj h).symm
    · exact Or.inr ⟨.narrow, (Option.some.inj h).symm, fun _ _ => Nat.le_add_right 4 _⟩
    · exact Or.inr ⟨.wide, (Option.some.inj h).symm, fun _ _ => Nat.le_add_right 4 _⟩
    · cases h
  · cases h

theorem compact_element {tag : UInt16} (htag : Shape.ofTag tag = .vector (some e))
    (htagged : Decodes (tagged b text pos) v next → Compact b pos v next)
    (h : Decodes (element b text e pos) v next) : Compact b pos v next := by
  rcases element_of_tag htag with rfl | ⟨type, rfl, hfour⟩
  · exact htagged (decodes_element_tagged_iff.1 h)
  · have h := decodes_element_scalar_iff.1 h
    have hlength := hfour b pos
    have hinside := (reads_scalar_iff.1 h).1.inside
    exact compact_scalar 0 rfl (by rwa [Nat.add_zero, Nat.zero_add]) (by omega) h

/-- **A decoded value has taken its room.** -/
theorem compact_of_decodes (h : Decodes (tagged b text offset) v next) :
    Compact b offset v next := by
  induction offset using offset_induction b.size generalizing v next with
  | h offset ih =>
    obtain ⟨hsize, ⟨type, -, h⟩ | ⟨e, htag, h⟩⟩ := decodes_tagged_iff.1 h
    · exact compact_scalar 4 rfl (Nat.le_add_right 4 _) (by omega) h
    · obtain ⟨hroom, vs, hreads, rfl⟩ := reads_vector_iff.1 h
      obtain ⟨xs, hrow, -, rfl⟩ := exists_row_of_reads hreads
      -- The elements stand behind the tag and the count. These take 8 bytes, the room of a level.
      have helement : ∀ pos v mid, offset + 8 ≤ pos → Decodes (element b text e pos) v mid →
          Compact b pos v mid := fun pos v mid hpos =>
        compact_element htag (ih hsize pos (by omega))
      obtain ⟨hnodes, hdepth, haligned, hinside⟩ := hrow.compact le_rfl helement (by omega)
      refine ⟨?_, ?_, by omega, hinside⟩
      · rw [Value.nodes]
        omega
      · rw [Value.depth]
        omega

theorem one_le_nodes (v : Value) : 1 ≤ v.nodes := by
  cases v with
  | vector vs => exact Nat.le_add_left 1 _
  | _ => exact le_rfl

/-- The elements of a vector begin at least 4 bytes apart. -/
theorem Row.pairwise {tag : UInt16} (htag : Shape.ofTag tag = .vector (some e))
    (hrow : Row b text e pos xs next) :
    (∀ x ∈ xs, pos ≤ x.1) ∧ (xs.map Prod.fst).Pairwise fun p q => p + 4 ≤ q := by
  induction hrow with
  | nil pos => simp
  | @cons pos mid next v xs hfirst hrest ih =>
    have hnodes := (compact_element htag compact_of_decodes hfirst).nodes_le
    have hmid : pos + 4 ≤ mid := by
      have := one_le_nodes v
      omega
    obtain ⟨hbehind, hpairwise⟩ := ih
    rw [List.forall_mem_cons, List.map_cons, List.pairwise_cons, List.forall_mem_map]
    refine ⟨⟨le_rfl, fun x hx => ?_⟩, fun x hx => hmid.trans (hbehind x hx), hpairwise⟩
    exact (Nat.le_of_add_right_le hmid).trans (hbehind x hx)

/-- A vector has the elements that it declares. -/
theorem exists_row_of_decodes (h : Decodes (tagged b text offset) v next)
    (htag : Shape.ofTag (Bytes.word16 b offset) = .vector (some e)) :
    ∃ xs, Row b text e (offset + 8) xs next ∧ v = .vector (xs.map Prod.snd) ∧
      xs.length = (Bytes.word32 b (offset + 4)).toNat ∧
      (xs.map Prod.fst).Pairwise fun p q => p + 4 ≤ q := by
  obtain ⟨-, ⟨type, htag', -⟩ | ⟨e', htag', h⟩⟩ := decodes_tagged_iff.1 h
  · cases htag.symm.trans htag'
  · cases htag.symm.trans htag'
    obtain ⟨-, vs, hreads, rfl⟩ := reads_vector_iff.1 h
    obtain ⟨xs, hrow, hlength, rfl⟩ := exists_row_of_reads hreads
    exact ⟨xs, hrow, rfl, hlength, (hrow.pairwise htag).2⟩

end Bounds

/-! ## Calls -/

/-- While the value at `outer` is decoded, so is the value at `inner`. It is an element of a vector of
values, and the elements before it were decoded. -/
structure Calls (b : ByteArray) (text : NarrowText) (inner outer : Nat) : Prop where
  tag_eq : Shape.ofTag (Bytes.word16 b outer) = .vector (some .tagged)
  room : outer + 8 + 4 * (Bytes.word32 b (outer + 4)).toNat ≤ b.size
  row : ∃ xs, Row b text .tagged (outer + 8) xs inner ∧
    xs.length < (Bytes.word32 b (outer + 4)).toNat

section Termination

variable {b : ByteArray} {text : NarrowText} {offset inner outer : Nat}

theorem Row.le {e : ElementType} {pos next : Nat} {xs : List (Nat × Value)}
    (h : Row b text e pos xs next) : pos ≤ next := by
  induction h with
  | nil => exact le_rfl
  | cons hfirst _ ih => exact hfirst.le.trans ih

theorem Calls.behind (h : Calls b text inner outer) : outer + 8 ≤ inner ∧ outer + 8 ≤ b.size := by
  obtain ⟨xs, hrow, -⟩ := h.row
  exact ⟨hrow.le, (Nat.le_add_right _ _).trans h.room⟩

/-- What is left of the section gets less with every call. -/
theorem wellFounded_calls (b : ByteArray) (text : NarrowText) : WellFounded (Calls b text) := by
  refine Subrelation.wf (fun {inner outer} h => ?_) (measure fun offset => b.size - offset).wf
  have hbehind := h.behind
  show b.size - inner < b.size - outer
  omega

/-- Calls in calls are as deep as the section allows. -/
theorem length_le_of_isChain {calls : List Nat}
    (h : (offset :: calls).IsChain fun outer inner => Calls b text inner outer) :
    8 * calls.length ≤ b.size - offset := by
  induction calls generalizing offset with
  | nil => exact Nat.zero_le _
  | cons inner calls ih =>
    rw [List.isChain_cons_cons] at h
    have hbehind := h.1.behind
    have hcalls := ih h.2
    rw [List.length_cons]
    omega

end Termination

/-! ## Faults -/

/-- The fault is one of values. It is at an offset or behind it. -/
def Fault.InValue (offset : Nat) : Fault → Prop
  | .outside position _ | .clipboardSize position _ | .elementCount position _
  | .undecodableElement position => offset ≤ position
  | _ => False

/-- All faults of a computation are faults of values, at an offset or behind it. -/
def FailsFrom {α : Type} (offset : Nat) (x : Except Fault α) : Prop :=
  ∀ fault, x = .error fault → fault.InValue offset

namespace FailsFrom

variable {α β : Type} {offset : Nat} {x : Except Fault α}

theorem ok (offset : Nat) (a : α) : FailsFrom offset (.ok a) := fun _ h => by cases h

theorem error {fault : Fault} (h : fault.InValue offset) :
    FailsFrom offset (.error fault : Except Fault α) := fun _ h' => by
  cases h'
  exact h

theorem mono {later : Nat} (h : FailsFrom later x) (hle : offset ≤ later) : FailsFrom offset x := by
  intro fault hfault
  have hin := h fault hfault
  cases fault with
  | noHeader | byteOrder | sectionCount | sectionOverrun | propertyCount => exact hin
  | outside | clipboardSize | elementCount | undecodableElement => exact hle.trans hin

theorem bind {f : α → Except Fault β} (h : FailsFrom offset x)
    (hf : ∀ a, x = .ok a → FailsFrom offset (f a)) : FailsFrom offset (x >>= f) := by
  intro fault hfault
  rcases bind_eq_error_iff.1 hfault with hx | ⟨a, ha, hfault⟩
  · exact h fault hx
  · exact hf a ha fault hfault

theorem map {f : α → β} (h : FailsFrom offset x) : FailsFrom offset (x.map f) :=
  fun fault hfault => h fault (map_eq_error_iff.1 hfault)

/-- A computation that only turns its result into something else. -/
theorem thenReturn {f : α → β} (h : FailsFrom offset x) :
    FailsFrom offset (x >>= fun a => (pure (f a) : Except Fault β)) :=
  h.bind fun a _ => ok offset (f a)

theorem slice (b : ByteArray) (pos length : Nat) :
    FailsFrom pos (PropertySet.slice b pos length) := by
  unfold PropertySet.slice
  split
  · exact ok pos _
  · exact error (Nat.le_refl pos)

theorem word16 (b : ByteArray) (pos : Nat) : FailsFrom pos (PropertySet.word16 b pos) :=
  (slice b pos 2).map

theorem word32 (b : ByteArray) (pos : Nat) : FailsFrom pos (PropertySet.word32 b pos) :=
  (slice b pos 4).map

theorem word64 (b : ByteArray) (pos : Nat) : FailsFrom pos (PropertySet.word64 b pos) :=
  (slice b pos 8).map

theorem classIdAt (b : ByteArray) (pos : Nat) : FailsFrom pos (PropertySet.classIdAt b pos) :=
  (slice b pos 16).map

/-- A count and the bytes that it counts. -/
theorem counted (b : ByteArray) (pos : Nat) (length : UInt32 → Nat) (f : UInt32 → ByteArray → α) :
    FailsFrom pos (do
      let w ← PropertySet.word32 b pos
      let s ← PropertySet.slice b (pos + 4) (length w)
      return f w s) :=
  (word32 b pos).bind fun _ _ => ((slice b (pos + 4) _).mono (Nat.le_add_right pos 4)).thenReturn

theorem scalar (b : ByteArray) (text : NarrowText) (type : ScalarType) (pos : Nat) :
    FailsFrom pos (PropertySet.scalar b text type pos) := by
  cases type with
  | empty | null => exact ok pos _
  | int8 | uint8 => exact (slice b pos 1).thenReturn
  | int16 | uint16 | bool => exact (word16 b pos).thenReturn
  | int32 | uint32 | real32 => exact (word32 b pos).thenReturn
  | int64 | uint64 | real64 | currency | date | filetime => exact (word64 b pos).thenReturn
  | classId => exact (classIdAt b pos).thenReturn
  | narrow | blob => exact counted b pos (fun w => w.toNat) _
  | wide => exact counted b pos (fun w => 2 * w.toNat) _
  | clipboard =>
    refine (word32 b pos).bind fun w _ => ?_
    dsimp only
    split
    · exact error (Nat.le_refl pos)
    · exact ((word32 b (pos + 4)).mono (Nat.le_add_right pos 4)).bind fun _ _ =>
        ((slice b (pos + 8) _).mono (Nat.le_add_right pos 8)).thenReturn

section Vectors

variable {b : ByteArray} {text : NarrowText}

theorem elements {first : Nat} (h : ∀ pos, first ≤ pos → FailsFrom pos (tagged b text pos))
    (e : ElementType) (count : Nat) {pos : Nat} (hpos : first ≤ pos) :
    FailsFrom pos (PropertySet.elements b text e count pos) := by
  induction count generalizing pos with
  | zero =>
    rw [PropertySet.elements]
    exact ok pos _
  | succ count ih =>
    have helement : FailsFrom pos (element b text e pos) := by
      cases e with
      | scalar type => exact (scalar b text type pos).map
      | tagged => exact (h pos hpos).map
    rw [elements_succ]
    refine helement.bind fun r _ => ?_
    cases r with
    | none => exact error (Nat.le_refl pos)
    | some r => exact ((ih (hpos.trans r.le_next)).mono r.le_next).thenReturn

theorem tagged (b : ByteArray) (text : NarrowText) (offset : Nat) :
    FailsFrom offset (PropertySet.tagged b text offset) := by
  induction offset using offset_induction b.size with
  | h offset ih =>
    have hfour : offset ≤ offset + 4 := Nat.le_add_right offset 4
    rw [tagged_eq]
    refine (word16 b offset).bind fun tag htag => ?_
    have hsize := (word16_eq_ok_iff.1 htag).1
    cases Shape.ofTag tag with
    | scalar type =>
      cases type with
      | none => exact ok offset none
      | some type => exact ((scalar b text type (offset + 4)).map).mono hfour
    | vector e =>
      cases e with
      | none => exact ok offset none
      | some e =>
        refine FailsFrom.map ?_
        rw [vector_eq]
        refine ((word32 b (offset + 4)).mono hfour).bind fun count _ => ?_
        split
        · exact error hfour
        · refine ((elements (fun pos hpos => ?_) e _ le_rfl).mono (Nat.le_add_right offset 8)).map
          exact ih hsize pos (by omega)

end Vectors

end FailsFrom

/-! ## What decoding gives -/

/-- **Decoding ends, and what it gives is bounded by its section.** Decodings call each other no deeper
than the section allows. A decoded value ends a multiple of 4 bytes behind its beginning, and its tree is
bounded by the section. A vector has as many elements as it declares, at least 4 bytes apart. If decoding
fails, the file is damaged at the value or behind its beginning. -/
theorem decoding_bounded (b : ByteArray) (text : NarrowText) (offset : Nat) :
    (WellFounded (Calls b text) ∧
      ∀ calls, (offset :: calls).IsChain (fun outer inner => Calls b text inner outer) →
        calls.length ≤ b.size / 8) ∧
    (∀ v next, Decodes (tagged b text offset) v next →
      offset + 4 ≤ next ∧ next % 4 = offset % 4 ∧
      v.nodes ≤ b.size / 4 + 1 ∧ v.depth ≤ b.size / 8 + 1 ∧
      ∀ e, Shape.ofTag (Bytes.word16 b offset) = .vector (some e) →
        ∃ xs, Row b text e (offset + 8) xs next ∧ v = .vector (xs.map Prod.snd) ∧
          xs.length = (Bytes.word32 b (offset + 4)).toNat ∧
          (xs.map Prod.fst).Pairwise fun p q => p + 4 ≤ q) ∧
    ∀ fault, tagged b text offset = .error fault →
      fault.InValue offset ∧ (Error.format (.propertySet fault)).isFormat := by
  refine ⟨⟨wellFounded_calls b text, fun calls h => ?_⟩, fun v next h => ?_, fun fault h => ?_⟩
  · have hlength := length_le_of_isChain h
    omega
  · obtain ⟨hnodes, hdepth, haligned, hinside⟩ := compact_of_decodes h
    exact ⟨h.le, haligned, by omega, by omega, fun e => exists_row_of_decodes h⟩
  · exact ⟨FailsFrom.tagged b text offset fault h, rfl⟩

namespace Sample

/-- A number, and a vector of a number and of no values. -/
def nested : Form := .vector [.atom (.int32 1), .vector [.atom (.int32 2), .vector []]]

end Sample

/-- The nested vector takes 40 bytes. It has five nodes on three levels, and two elements behind its
tag and its count. -/
theorem decoding_bounded_nested :
    ∃ b : ByteArray, b.size = 40 ∧
      Decodes (tagged b (.codepage .ascii) 0) Sample.nested.value 40 ∧
      Sample.nested.value.nodes = 5 ∧ 5 ≤ b.size / 4 + 1 ∧
      Sample.nested.value.depth = 3 ∧ 3 ≤ b.size / 8 + 1 ∧
      ∃ xs, Row b (.codepage .ascii) .tagged 8 xs 40 ∧
        Sample.nested.value = .vector (xs.map Prod.snd) ∧ xs.length = 2 ∧
        (xs.map Prod.fst).Pairwise fun p q => p + 4 ≤ q := by
  have hlength : Sample.nested.bytes.length = 40 := by decide +kernel
  have hsize : (Bytes.ofList Sample.nested.bytes).size = 40 := by rw [Bytes.size_ofList, hlength]
  have hdecodes : Decodes (tagged (Bytes.ofList Sample.nested.bytes) (.codepage .ascii) 0)
      Sample.nested.value 40 := by
    rw [← hlength, ← Nat.zero_add Sample.nested.bytes.length]
    exact decodes_form (by omega) Sample.nested (Bytes.holds_ofList _)
  obtain ⟨-, hbounds, -⟩ :=
    decoding_bounded (Bytes.ofList Sample.nested.bytes) (.codepage .ascii) 0
  obtain ⟨-, -, hnodes, hdepth, hvector⟩ := hbounds _ _ hdecodes
  obtain ⟨xs, hrow, hvalue, hcount, hapart⟩ := hvector .tagged (by decide +kernel)
  have htwo : (Bytes.word32 (Bytes.ofList Sample.nested.bytes) 4).toNat = 2 := by decide +kernel
  exact ⟨_, hsize, hdecodes, rfl, hnodes, rfl, hdepth, xs, hrow, hvalue, hcount.trans htwo, hapart⟩

end CompoundFile.PropertySet
