import CompoundFile.Proofs.Fetch
import CompoundFile.Proofs.Results
import CompoundFile.Stream

/-!
# The place of a byte of a stream

The units of a stream say where each of its bytes is in the file (`StreamReader.origin`). A reader
uses this map at the places where a portion begins only: at its position, and at the beginning of
every further unit. From there on a unit lies in one piece (`origin_add`), because no short sector
crosses the border of a sector.

**Admission.** In short sectors a portion may begin only at a byte that belongs to the mini stream
(`Admits`). The bytes behind it are not asked.

Main results: `locate_eq_ok_iff` and `serves_portion_iff`, which says when one portion can be read.
-/

namespace CompoundFile

/-! ## Units -/

namespace MiniStream

/-- The address of a byte of a short sector, as a natural number. -/
def offsetOf (h : Header) (short : UInt32) (within : Nat) : Nat :=
  short.toNat * h.shortSectorSize + within

/-- Where in the file a byte of a short sector is, as far as there is a sector for it. -/
def origin (m : MiniStream) (h : Header) (short : UInt32) (within : Nat) : Option Nat :=
  (m.sectors[offsetOf h short within / h.sectorSize]?).map fun sector =>
    h.sectorOffset sector + offsetOf h short within % h.sectorSize

theorem placeAt_eq (m : MiniStream) (h : Header) (address : UInt64) :
    m.placeAt h address =
      if address.toNat < m.size.toNat then
        (m.sectors[address.toNat / h.sectorSize]?).map fun sector =>
          h.sectorOffset sector + address.toNat % h.sectorSize
      else none := by
  unfold placeAt
  simp only [UInt64.le_iff_toNat_le]
  by_cases hlt : address.toNat < m.size.toNat
  · rw [if_pos hlt, if_neg (Nat.not_le.2 hlt)]
  · rw [if_neg hlt, if_pos (Nat.not_lt.1 hlt)]

theorem fileOffset_eq (m : MiniStream) (h : Header) (short : UInt32) {within : Nat}
    (hw : within < h.shortSectorSize) :
    m.fileOffset h short (.ofNat within) =
      .ok (if offsetOf h short within < m.size.toNat then m.origin h short within else none) := by
  obtain ⟨w, haddress, hsum⟩ := exists_address h short hw
  rw [fileOffset, haddress]
  refine congrArg Except.ok ?_
  rw [placeAt_eq, hsum]
  rfl

end MiniStream

namespace Allocation

/-- Where in the file a byte of a unit is, as far as there is a sector for it. -/
def origin (a : Allocation) (storage : Storage) (unit : UInt32) (within : Nat) : Option Nat :=
  match storage with
  | .sectors => some (a.header.sectorOffset unit + within)
  | .shortSectors => a.mini.bind fun mini => mini.origin a.header unit within

/-- Whether a portion may begin at a byte of a unit. In short sectors the byte must belong to the
mini stream. -/
def Admits (a : Allocation) (storage : Storage) (unit : UInt32) (within : Nat) : Prop :=
  match storage with
  | .sectors => True
  | .shortSectors =>
    ∃ mini, a.mini = some mini ∧ MiniStream.offsetOf a.header unit within < mini.size.toNat

theorem place_eq_ok_iff (a : Allocation) {storage : Storage} {unit : UInt32} {within offset : Nat}
    (hw : within < a.unitSize storage) :
    a.place storage unit within hw = .ok offset ↔
      a.Admits storage unit within ∧ a.origin storage unit within = some offset := by
  cases storage with
  | sectors => simp [place, Admits, origin]
  | shortSectors =>
    unfold place Admits origin
    cases a.mini with
    | none => simp
    | some mini =>
      simp only [Option.bind_some, Panic.value_eq (mini.fileOffset_eq a.header unit hw),
        Option.some.injEq, exists_eq_left']
      by_cases hlt : MiniStream.offsetOf a.header unit within < mini.size.toNat
      · simp only [hlt, if_true, true_and]
        cases mini.origin a.header unit within <;> simp
      · simp [hlt]

/-- A unit lies in one piece. -/
theorem origin_add (a : Allocation) {storage : Storage} {unit : UInt32} {within offset j : Nat}
    (hj : within + j < a.unitSize storage) (h : a.origin storage unit within = some offset) :
    a.origin storage unit (within + j) = some (offset + j) := by
  cases storage with
  | sectors =>
    simp only [origin, Option.some.injEq] at h ⊢
    omega
  | shortSectors =>
    change within + j < 64 at hj
    unfold origin at h ⊢
    cases hmini : a.mini with
    | none => rw [hmini] at h; cases h
    | some mini =>
      rw [hmini] at h
      simp only [Option.bind_some, MiniStream.origin, Option.map_eq_some_iff] at h ⊢
      obtain ⟨sector, hsector, rfl⟩ := h
      -- Both versions have a sector size that is a multiple of 64.
      have hsame : MiniStream.offsetOf a.header unit (within + j) / a.header.sectorSize =
            MiniStream.offsetOf a.header unit within / a.header.sectorSize ∧
          MiniStream.offsetOf a.header unit (within + j) % a.header.sectorSize =
            MiniStream.offsetOf a.header unit within % a.header.sectorSize + j := by
        simp only [MiniStream.offsetOf, a.header.shortSectorSize_eq, Header.sectorSize]
        cases a.header.version <;> simp only [Version.sectorSize] <;> omega
      exact ⟨sector, by rw [hsame.1]; exact hsector, by rw [hsame.2, Nat.add_assoc]⟩

end Allocation

/-! ## Streams -/

namespace StreamReader

/-- A reader is made for a stream or the root, from the units of its chain. -/
theorem make_eq_ok_iff {source : Source} {a : Allocation} {e : Directory.Entry}
    {r : StreamReader} :
    make source a e = .ok r ↔ (e.type = .stream ∨ e.type = .root) ∧
      ∃ units, a.chainOf e = .ok units ∧
        r = ⟨source, a, a.storageOf e, units.toArray, e.size.toNat, 0⟩ := by
  unfold make
  by_cases htype : e.type ≠ .stream ∧ e.type ≠ .root
  · rw [if_pos htype]
    refine ⟨fun h => ?_, fun h => absurd h.1 (by tauto)⟩
    cases h
  · rw [if_neg htype]
    constructor
    · intro h
      obtain ⟨units, hunits, h⟩ := bind_eq_ok_iff.1 h
      cases h
      exact ⟨by tauto, units, hunits, rfl⟩
    · rintro ⟨-, units, hunits, rfl⟩
      exact bind_eq_ok_iff.2 ⟨units, hunits, rfl⟩

/-- Where in the file byte `i` of the stream is. -/
def origin (r : StreamReader) (i : Nat) : Option Nat :=
  (r.units[i / r.unitSize]?).bind fun unit =>
    r.allocation.origin r.storage unit (i % r.unitSize)

/-- A portion may begin at byte `i` of the stream. -/
def Admits (r : StreamReader) (i : Nat) : Prop :=
  ∃ unit, r.units[i / r.unitSize]? = some unit ∧
    r.allocation.Admits r.storage unit (i % r.unitSize)

/-- Byte `i` of the stream is in the file and can be read there. -/
def Stored (r : StreamReader) (i : Nat) : Prop :=
  ∃ offset, r.origin i = some offset ∧ r.source.medium.Readable offset

/-- A read that begins at byte `p` of the stream gets byte `i`. -/
def Serves (r : StreamReader) (p i : Nat) : Prop :=
  r.Stored i ∧ (i = p ∨ i % r.unitSize = 0 → r.Admits i)

/-- Byte `i` of the stream. -/
def byte (r : StreamReader) (i : Nat) : UInt8 :=
  ((r.origin i).map (Bytes.byteAt r.source.medium.bytes)).getD 0

/-- The `k` bytes of the stream from byte `p` on. -/
def bytes (r : StreamReader) (p k : Nat) : ByteArray := ((List.range' p k).map r.byte).toByteArray

theorem unitSize_pos (r : StreamReader) : 0 < r.unitSize := r.allocation.unitSize_pos r.storage

@[simp] theorem size_bytes (r : StreamReader) (p k : Nat) : (r.bytes p k).size = k := by
  simp [bytes]

theorem byteAt_bytes (r : StreamReader) (p : Nat) {j k : Nat} (hj : j < k) :
    Bytes.byteAt (r.bytes p k) j = r.byte (p + j) := by
  rw [Bytes.byteAt, dif_pos (by rwa [size_bytes])]
  simp only [bytes, List.getElem_toByteArray, List.getElem_map, List.getElem_range', Nat.one_mul]

theorem bytes_append (r : StreamReader) (p j k : Nat) :
    r.bytes p j ++ r.bytes (p + j) k = r.bytes p (j + k) := by
  simp only [bytes]
  rw [← List.toByteArray_append, ← List.map_append, List.range'_append_1]

/-- In sectors a portion may begin at every byte that has a place. -/
theorem admits_of_origin {r : StreamReader} {i offset : Nat} (hsectors : r.storage = .sectors)
    (h : r.origin i = some offset) : r.Admits i := by
  obtain ⟨unit, hunit, -⟩ := Option.bind_eq_some_iff.1 h
  refine ⟨unit, hunit, ?_⟩
  rw [hsectors]
  trivial

section ShortSectors

variable {r : StreamReader} {mini : MiniStream} (hstorage : r.storage = .shortSectors)
  (hmini : r.allocation.mini = some mini)
include hstorage hmini

/-- In short sectors a portion may begin where the mini stream has a byte. -/
theorem admits_iff_of_shortSectors {i : Nat} :
    r.Admits i ↔
      ∃ unit, r.units[i / 64]? = some unit ∧ unit.toNat * 64 + i % 64 < mini.size.toNat := by
  have hunit : r.unitSize = 64 := by
    rw [unitSize, hstorage]
    rfl
  unfold Admits Allocation.Admits
  simp only [hunit, hstorage, hmini, Option.some.injEq, exists_eq_left', MiniStream.offsetOf,
    Header.shortSectorSize_eq]

theorem origin_of_shortSectors (i : Nat) :
    r.origin i = (r.units[i / 64]?).bind fun unit =>
      mini.origin r.allocation.header unit (i % 64) := by
  have hunit : r.unitSize = 64 := by
    rw [unitSize, hstorage]
    rfl
  unfold origin Allocation.origin
  simp only [hunit, hstorage, hmini, Option.bind_some]

end ShortSectors

theorem locate_eq_ok_iff {r : StreamReader} {offset left : Nat} :
    r.locate = .ok (offset, left) ↔ r.Admits r.position ∧ r.origin r.position = some offset ∧
      left = r.unitSize - r.position % r.unitSize := by
  unfold locate Admits origin
  cases r.units[r.position / r.unitSize]? with
  | none => simp
  | some unit =>
    simp only [Option.some.injEq, exists_eq_left', Option.bind_some]
    rw [← and_assoc, ← r.allocation.place_eq_ok_iff r.within_lt]
    cases r.allocation.place r.storage unit (r.position % r.unitSize) r.within_lt with
    | error fault => simp [Except.map]
    | ok place => simp [Except.map, eq_comm]

/-- Within a unit positions and places move together. -/
theorem div_mod_add (r : StreamReader) {i j : Nat} (hj : i % r.unitSize + j < r.unitSize) :
    (i + j) / r.unitSize = i / r.unitSize ∧ (i + j) % r.unitSize = i % r.unitSize + j := by
  have hi : i + j = i % r.unitSize + j + r.unitSize * (i / r.unitSize) := by
    have := Nat.mod_add_div i r.unitSize
    omega
  constructor
  · rw [hi, Nat.add_mul_div_left _ _ r.unitSize_pos, Nat.div_eq_of_lt hj, Nat.zero_add]
  · rw [hi, Nat.add_mul_mod_self_left, Nat.mod_eq_of_lt hj]

theorem origin_add {r : StreamReader} {i j offset : Nat} (hj : i % r.unitSize + j < r.unitSize)
    (h : r.origin i = some offset) : r.origin (i + j) = some (offset + j) := by
  obtain ⟨hdiv, hmod⟩ := r.div_mod_add hj
  unfold origin at h ⊢
  rw [hdiv, hmod]
  obtain ⟨unit, hunit, horigin⟩ := Option.bind_eq_some_iff.1 h
  rw [hunit]
  exact r.allocation.origin_add hj horigin

/-- **One portion** is served exactly when it may begin and all its bytes can be read. -/
theorem serves_portion_iff {r : StreamReader} {p count : Nat} (hpos : 0 < count)
    (hcount : p % r.unitSize + count ≤ r.unitSize) :
    (∀ i, p ≤ i → i < p + count → r.Serves p i) ↔
      r.Admits p ∧ ∃ offset, r.origin p = some offset ∧
        ∀ j < count, r.source.medium.Readable (offset + j) := by
  constructor
  · intro h
    obtain ⟨⟨offset, horigin, -⟩, hadmits⟩ := h p (Nat.le_refl p) (by omega)
    refine ⟨hadmits (Or.inl rfl), offset, horigin, fun j hj => ?_⟩
    obtain ⟨⟨offset', horigin', hread⟩, -⟩ := h (p + j) (by omega) (by omega)
    rw [origin_add (by omega) horigin] at horigin'
    cases horigin'
    exact hread
  · rintro ⟨hadmits, offset, horigin, hread⟩ i hi hi'
    obtain ⟨j, rfl⟩ := Nat.exists_eq_add_of_le hi
    refine ⟨⟨offset + j, origin_add (by omega) horigin, hread j (by omega)⟩, fun hbegin => ?_⟩
    -- Inside a portion only its first byte is at the beginning of a unit.
    rcases Nat.eq_zero_or_pos j with rfl | hj
    · exact hadmits
    · have := (r.div_mod_add (i := p) (j := j) (by omega)).2
      omega

end StreamReader

end CompoundFile
