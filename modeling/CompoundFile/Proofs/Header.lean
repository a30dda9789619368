import CompoundFile.Proofs.Bytes
import CompoundFile.Proofs.Layout

/-!
# Headers that are accepted

Of all blocks of 512 bytes, decoding accepts those that begin with the signature and whose fields say
what this library supports (`Header.Announced`). The checks look at six fields; the others are taken
as they are.

**Both ways.** A supported header that is written is decoded to itself, and every block that is
decoded is a written one: what stands in it is the fields of the header and six bytes that have no
meaning. To see this, the block is cut into pieces, each of which is what writing a field gives
(`Header.fields_ofBlock`).

**Opening.** A source is opened only if its first 512 bytes are a header, so its first bytes are the
signature and can be read. This is all that checking the signature needs
(`Header.yields_checkSignature`).

Main result: `Header.accepted_iff_written`.
-/

namespace CompoundFile

open Bytes Fetch

namespace Bytes

variable {b : ByteArray}

/-! ## Blocks in pieces -/

theorem window_add (b : ByteArray) (offset m n : Nat) :
    window b offset (m + n) = window b offset m ++ window b (offset + m) n := by
  rw [window, List.range_add, List.map_append, List.map_map]
  exact congrArg _ (List.map_congr_left fun i _ => by rw [Nat.add_assoc]; rfl)

theorem window_size (b : ByteArray) : window b 0 b.size = b.data.toList := by
  refine List.ext_getElem (length_window b 0 b.size) fun i hi hi' => ?_
  have hlt : i < b.size := hi'
  simp only [window, List.getElem_map, List.getElem_range, Nat.zero_add]
  exact byteAt_of_lt hlt

theorem ofList_window_size (b : ByteArray) : ofList (window b 0 b.size) = b := by
  rw [window_size]
  rfl

/-- Pieces of given lengths, one behind the other. -/
def pieces (b : ByteArray) : Nat → List Nat → List (List UInt8)
  | _, [] => []
  | offset, length :: lengths => window b offset length :: pieces b (offset + length) lengths

theorem flatten_pieces (b : ByteArray) (offset : Nat) (lengths : List Nat) :
    (pieces b offset lengths).flatten = window b offset lengths.sum := by
  induction lengths generalizing offset with
  | nil => simp [pieces, window]
  | cons length lengths ih => rw [pieces, List.flatten_cons, ih, List.sum_cons, window_add]

theorem toLE_ofLE_window (b : ByteArray) (offset w : Nat) :
    toLE w (ofLE (window b offset w)) = window b offset w := by
  have h := toLE_ofLE (window b offset w)
  rwa [length_window] at h

theorem toLE_word16 (b : ByteArray) (offset : Nat) :
    toLE 2 (word16 b offset).toNat = window b offset 2 := by
  have hlt := ofLE_lt (window b offset 2)
  rw [length_window] at hlt
  rw [word16, UInt16.toNat_ofNat_of_lt' hlt, toLE_ofLE_window]

theorem toLE_word32 (b : ByteArray) (offset : Nat) :
    toLE 4 (word32 b offset).toNat = window b offset 4 := by
  have hlt := ofLE_lt (window b offset 4)
  rw [length_window] at hlt
  rw [word32, UInt32.toNat_ofNat_of_lt' hlt, toLE_ofLE_window]

theorem toList_classId (b : ByteArray) (offset : Nat) :
    (ClassId.read b offset).bytes.toList = window b offset 16 := by
  refine List.ext_getElem (by simp) fun i hi hi' => ?_
  simp [ClassId.read, window]

/-- A run of words is the window over them. -/
theorem ofWords_word32 (b : ByteArray) (offset n : Nat) :
    ofWords ((List.range n).map fun i => word32 b (offset + 4 * i)) = window b offset (4 * n) := by
  induction n with
  | zero => rfl
  | succ n ih =>
    rw [List.range_succ, List.map_append, ofWords, List.map_append, List.flatten_append, ← ofWords,
      ih, Nat.mul_succ, window_add]
    simp [toLE_word32]

end Bytes

namespace Header

variable {b : ByteArray} {h : Header}

/-! ## Acceptance -/

/-- What the fields of a header say that this library supports. -/
structure Announced (b : ByteArray) : Prop where
  signature_eq : window b 0 8 = [0xD0, 0xCF, 0x11, 0xE0, 0xA1, 0xB1, 0x1A, 0xE1]
  byteOrder_eq : word16 b 0x1C = 0xFFFE
  shortSectorShift_eq : word16 b 0x20 = 6
  version_eq : word16 b 0x1A = 3 ∧ word16 b 0x1E = 9 ∨ word16 b 0x1A = 4 ∧ word16 b 0x1E = 12
  directorySectors_eq : word16 b 0x1A = 3 → word32 b 0x28 = 0
  miniStreamCutoff_ne : word32 b 0x38 ≠ 0

/-- The header of a version with the fields of a block. -/
def ofBlock (b : ByteArray) (version : Version) : Header where
  clsid := ClassId.read b 0x08
  minorVersion := word16 b 0x18
  version := version
  directorySectors := word32 b 0x28
  fatSectors := word32 b 0x2C
  firstDirectorySector := word32 b 0x30
  transactionSignature := word32 b 0x34
  miniStreamCutoff := word32 b 0x38
  firstMiniFatSector := word32 b 0x3C
  miniFatSectors := word32 b 0x40
  firstDifatSector := word32 b 0x44
  difatSectors := word32 b 0x48
  inlineDifat := Vector.ofFn fun i => word32 b (0x4C + 4 * i)

theorem version?_eq_ok_iff {major shift : UInt16} {v : Version} :
    version? major shift = .ok v ↔ v.major = major ∧ UInt16.ofNat v.sectorShift = shift := by
  constructor
  · intro h
    unfold version? at h
    split_ifs at h with hthree hfour hmajor <;> cases h
    · exact ⟨hthree.1.symm, hthree.2.symm⟩
    · exact ⟨hfour.1.symm, hfour.2.symm⟩
  · rintro ⟨rfl, rfl⟩
    exact version?_eq v

/-- What decoding checks, in its order, and what it gives. -/
theorem parse_eq_ok_iff :
    parse b = .ok h ↔ window b 0 8 = signature ∧ word16 b 0x1C = byteOrderMark ∧
      (word16 b 0x20).toNat = shortSectorShift ∧
      (h.version.major = word16 b 0x1A ∧ UInt16.ofNat h.version.sectorShift = word16 b 0x1E) ∧
      (h.version = .three → word32 b 0x28 = 0) ∧ word32 b 0x38 ≠ 0 ∧ h = ofBlock b h.version := by
  unfold parse
  simp only [guard_eq_ok_iff, bind_eq_ok_iff, version?_eq_ok_iff]
  constructor
  · rintro ⟨hsignature, hmark, -, hshort, v, hversion, hdirectory, hcutoff, hfields⟩
    cases hfields
    refine ⟨not_not.1 hsignature, not_not.1 hmark, not_not.1 hshort, hversion, ?_, hcutoff, rfl⟩
    intro hthree
    by_contra hne
    exact hdirectory ⟨hthree, hne⟩
  · rintro ⟨hsignature, hmark, hshort, hversion, hdirectory, hcutoff, hfields⟩
    refine ⟨not_not.2 hsignature, not_not.2 hmark, ?_, not_not.2 hshort, h.version, hversion, ?_,
      hcutoff, congrArg Except.ok hfields.symm⟩
    · rw [← hversion.2]
      cases h.version <;> decide
    · intro hboth
      exact hboth.2 (hdirectory hboth.1)

theorem shortSectorShift_eq_iff {shift : UInt16} : shift.toNat = shortSectorShift ↔ shift = 6 := by
  rw [← UInt16.toNat_inj]
  rfl

/-- **A block is accepted for what its fields say.** -/
theorem exists_parse_iff_announced : (∃ h, parse b = .ok h) ↔ Announced b := by
  constructor
  · rintro ⟨h, hparse⟩
    obtain ⟨hsignature, hmark, hshort, ⟨hmajor, hshift⟩, hdirectory, hcutoff, -⟩ :=
      parse_eq_ok_iff.1 hparse
    refine ⟨hsignature, hmark, shortSectorShift_eq_iff.1 hshort, ?_, ?_, hcutoff⟩
    · cases hv : h.version with
      | three =>
        rw [hv] at hmajor hshift
        exact Or.inl ⟨hmajor.symm, hshift.symm⟩
      | four =>
        rw [hv] at hmajor hshift
        exact Or.inr ⟨hmajor.symm, hshift.symm⟩
    · intro hthree
      apply hdirectory
      cases hv : h.version with
      | three => rfl
      | four =>
        rw [hv, hthree] at hmajor
        cases hmajor
  · intro ha
    have hsame : ∀ v : Version, v.major = word16 b 0x1A →
        UInt16.ofNat v.sectorShift = word16 b 0x1E → (v = .three → word32 b 0x28 = 0) →
        parse b = .ok (ofBlock b v) := by
      intro v hmajor hshift hdirectory
      exact parse_eq_ok_iff.2 ⟨ha.signature_eq, ha.byteOrder_eq,
        shortSectorShift_eq_iff.2 ha.shortSectorShift_eq, ⟨hmajor, hshift⟩, hdirectory,
        ha.miniStreamCutoff_ne, rfl⟩
    rcases ha.version_eq with ⟨hmajor, hshift⟩ | ⟨hmajor, hshift⟩
    · exact ⟨_, hsame .three hmajor.symm hshift.symm fun _ => ha.directorySectors_eq hmajor⟩
    · exact ⟨_, hsame .four hmajor.symm hshift.symm fun hv => by cases hv⟩

/-! ## Writing what was read -/

/-- The lengths of the fields of a header. -/
def fieldLengths : List Nat := [8, 16, 2, 2, 2, 2, 2, 6, 4, 4, 4, 4, 4, 4, 4, 4, 4, 436]

theorem ofWords_inlineDifat (b : ByteArray) (v : Version) :
    ofWords (ofBlock b v).inlineDifat.toList = window b 0x4C 436 := by
  rw [← ofWords_word32 b 0x4C 109]
  refine congrArg ofWords (List.ext_getElem (by simp) fun i hi hi' => ?_)
  simp [ofBlock]

/-- The fields of a header that is read from a block are the pieces of the block. -/
theorem fields_ofBlock (hparse : parse b = .ok h) :
    h.fields (window b 0x22 6) = pieces b 0 fieldLengths := by
  obtain ⟨hsignature, hmark, hshort, ⟨hmajor, hshift⟩, -, -, hfields⟩ := parse_eq_ok_iff.1 hparse
  have hshort' : UInt16.ofNat shortSectorShift = word16 b 0x20 := by
    rw [← hshort, UInt16.ofNat_toNat]
  rw [fields, hmajor, hshift, hshort', ← hmark, ← hsignature, hfields, ofWords_inlineDifat]
  simp [ofBlock, pieces, fieldLengths, toLE_word16, toLE_word32, toList_classId]

/-- **A block is decoded to a header exactly when it is the header, written with some bytes in the
place that has no meaning.** -/
theorem parse_eq_ok_iff_written (hsize : b.size = size) :
    parse b = .ok h ↔ h.Supported ∧ ∃ reserved : List UInt8, reserved.length = 6 ∧
      b = ofList (h.fields reserved).flatten := by
  constructor
  · intro hparse
    obtain ⟨-, -, -, -, hdirectory, hcutoff, hfields⟩ := parse_eq_ok_iff.1 hparse
    refine ⟨⟨fun hthree => ?_, ?_⟩, window b 0x22 6, length_window _ _ _, ?_⟩
    · rw [hfields]
      exact hdirectory hthree
    · rw [hfields]
      exact hcutoff
    · have hall : fieldLengths.sum = b.size := by
        rw [hsize]
        rfl
      rw [fields_ofBlock hparse, flatten_pieces, hall, ofList_window_size]
  · rintro ⟨hsupported, reserved, hreserved, rfl⟩
    exact parse_fields hreserved hsupported

/-! ## The signature of a source -/

section Signature

variable {m : Medium}

theorem yields_seek (position : Nat) :
    Yields m (modify fun s : Source => s.seek position) (.ok ()) :=
  fun s hs => ⟨s.seek position, hs, rfl⟩

/-- A part of what can be read can be read. -/
theorem fetch_of_le {wanted wanted' : Nat} {data : ByteArray} (hle : wanted' ≤ wanted)
    (hfetch : m.fetch 0 wanted = .ok data) (hdata : data.size = wanted) :
    m.fetch 0 wanted' = .ok (m.bytes.extract 0 wanted') := by
  have hreadable := Medium.fetch_full_iff.1 ⟨data, hfetch, hdata⟩
  obtain ⟨part, hpart, -⟩ :=
    Medium.fetch_full_iff.2 fun j hj => hreadable j (Nat.lt_of_lt_of_le hj hle)
  rw [hpart, Medium.eq_extract_of_fetch hpart, Nat.zero_add]

theorem hasSignature_extract (hle : 8 ≤ b.size) (hwindow : window b 0 8 = signature) :
    hasSignature (b.extract 0 8) = true := by
  have hsize : ((b.extract 0 8).extract 0 8).size = 8 := by
    rw [ByteArray.size_extract, ByteArray.size_extract]
    omega
  have hbytes := window_size ((b.extract 0 8).extract 0 8)
  rw [hsize, window_extract (by omega) (by rw [ByteArray.size_extract]; omega),
    window_extract (by omega) hle, hwindow] at hbytes
  rw [hasSignature, ← hbytes]
  exact beq_self_eq_true _

/-- What a loaded header was read from. -/
theorem exists_block_of_yields_loadHeader {n : Nat}
    (hload : Yields m (Contents.loadHeader n) (.ok h)) :
    ∃ block, m.fetch 0 size = .ok block ∧ block.size = size ∧ parse block = .ok h := by
  unfold Contents.loadHeader at hload
  obtain ⟨-, hload⟩ := hload.of_guard
  obtain ⟨block, hblock, hparse⟩ := hload.of_bind (steady_readExactAt _ _) fun _ => steady_ofExcept _ _
  obtain ⟨data, hdata, hblock⟩ := hblock.of_bind (steady_readAt _ _) fun _ => .guard _ (steady_pure _)
  obtain ⟨hfull, hblock⟩ := hblock.of_guard
  obtain rfl := hblock.of_pure
  have hfetch : m.fetch 0 size = .ok data := by
    rw [← mapError_eq_ok_iff (f := Error.io)]
    exact (hdata.eq (yields_readAt _ _)).symm
  refine ⟨data, hfetch, ?_, hparse.of_ofExcept⟩
  have hextract := congrArg ByteArray.size (Medium.eq_extract_of_fetch hfetch)
  rw [ByteArray.size_extract] at hextract
  omega

/-- A medium whose first bytes are read as a header has the signature. -/
theorem yields_checkSignature {n : Nat} (hload : Yields m (Contents.loadHeader n) (.ok h)) :
    Yields m checkSignature (.ok true) := by
  obtain ⟨block, hfetch, hblock, hparse⟩ := exists_block_of_yields_loadHeader hload
  obtain ⟨hsignature, -⟩ := parse_eq_ok_iff.1 hparse
  have hextract := Medium.eq_extract_of_fetch hfetch
  have hle : size ≤ m.bytes.size := by
    rw [hextract, ByteArray.size_extract] at hblock
    omega
  rw [hextract, window_extract (by decide) (by rwa [Nat.zero_add])] at hsignature
  have hread := yields_readAt (m := m) 0 8
  rw [fetch_of_le (by decide) hfetch hblock] at hread
  refine hread.bind ((yields_seek 0).bind ?_)
  rw [hasSignature_extract (Nat.le_trans (by decide) hle) hsignature]
  exact yields_pure true

end Signature

/-- A session that opens a source has loaded it. -/
theorem exists_yields_of_openSource {s : Session} {source : Source}
    (hopen : (s.openSource source).1 = .ok ()) :
    ∃ c, Yields source.medium (Contents.load s.options) (.ok c) := by
  unfold Session.openSource at hopen
  split at hopen
  next => cases hopen
  next =>
    unfold Session.load at hopen
    split at hopen
    next c _ hrun => exact ⟨c, (steady_load s.options).yields_of_run hrun⟩
    next => cases hopen

/-- **Decoding accepts exactly the supported headers, and only they are opened.** A block of 512
bytes is decoded exactly when its fields say what is supported, and is a damaged file otherwise. The
header it is decoded to is the one that was written there, and every supported header can be written.
If a source is opened, then checking the signature succeeds from every position of every source of the
same medium. -/
theorem accepted_iff_written :
    (∀ b : ByteArray, b.size = size →
      ((∃ h, parse b = .ok h) ↔ Announced b) ∧
      (¬Announced b →
        ∃ fault, parse b = .error fault ∧ (Error.format (.header fault)).isFormat) ∧
      ∀ h, parse b = .ok h ↔ h.Supported ∧ ∃ reserved : List UInt8, reserved.length = 6 ∧
        b = ofList (h.fields reserved).flatten) ∧
    (∀ (h : Header) (reserved : List UInt8), h.Supported → reserved.length = 6 →
      (ofList (h.fields reserved).flatten).size = size ∧
        parse (ofList (h.fields reserved).flatten) = .ok h) ∧
    ∀ (s : Session) (source : Source), (s.openSource source).1 = .ok () →
      Yields source.medium checkSignature (.ok true) := by
  refine ⟨fun b hsize => ⟨exists_parse_iff_announced, ?_, fun h => parse_eq_ok_iff_written hsize⟩,
    ?_, ?_⟩
  · intro hnot
    rw [← exists_parse_iff_announced, ← exists_error_iff] at hnot
    obtain ⟨fault, hfault⟩ := hnot
    exact ⟨fault, hfault, rfl⟩
  · intro h reserved hsupported hreserved
    refine ⟨?_, parse_fields hreserved hsupported⟩
    rw [size_ofList, length_fields hreserved]
  · intro s source hopen
    obtain ⟨c, hload⟩ := exists_yields_of_openSource hopen
    exact yields_checkSignature (Contents.loadedFrom_of_yields hload).header

/-- The header of the sample, with zeros in the place that has no meaning, and its source. -/
theorem accepted_iff_written_sample :
    Announced (ofList Sample.headerBlock) ∧ parse (ofList Sample.headerBlock) = .ok Sample.header ∧
      Yields Sample.source.medium checkSignature (.ok true) := by
  obtain ⟨hblock, hwritten, hopened⟩ := accepted_iff_written
  have hsupported : Sample.header.Supported := ⟨fun _ => rfl, by decide⟩
  obtain ⟨hsize, hparse⟩ := hwritten Sample.header (List.replicate 6 0) hsupported rfl
  obtain ⟨hannounced, -, -⟩ := hblock (ofList Sample.headerBlock) hsize
  obtain ⟨after, -, hopen⟩ := Sample.openSource_eq
  refine ⟨hannounced.1 ⟨_, hparse⟩, hparse, hopened (Session.new ⟨false, .ascii⟩) Sample.source ?_⟩
  rw [hopen]

end Header

end CompoundFile
