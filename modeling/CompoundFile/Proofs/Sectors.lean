import CompoundFile.Proofs.Bytes
import CompoundFile.Proofs.Fetch
import CompoundFile.Proofs.Results

/-!
# What sectors hold

A sector that is read is as long as a sector, also where the file ends before it does: the bytes
that the file lacks are zero. So every byte of a chain that is read is a byte of the file, or zero
past its end (`Sectors.of_readChain`), and every word of it is a word of the file
(`Sectors.getElem?_words32`).
-/

namespace CompoundFile

/-! ## Sectors -/

namespace Header

/-- A word of a sector of a file, zero past the end of the file. -/
def slot (h : Header) (image : ByteArray) (sector : UInt32) (k : Nat) : UInt32 :=
  Bytes.word32 image (h.sectorOffset sector + 4 * k)

theorem four_mul_entriesPerSector (h : Header) : 4 * h.entriesPerSector = h.sectorSize := by
  unfold entriesPerSector sectorSize
  cases h.version <;> rfl

end Header

open Bytes Fetch

/-- The sectors of a file, one behind the other. -/
structure Sectors (h : Header) (image : ByteArray) (chain : List UInt32) (data : ByteArray) :
    Prop where
  size : data.size = chain.length * h.sectorSize
  byteAt : ∀ k sector, chain[k]? = some sector → ∀ j < h.sectorSize,
    Bytes.byteAt data (k * h.sectorSize + j) = Bytes.byteAt image (h.sectorOffset sector + j)

variable {m : Medium} {h : Header} {count : Nat} {sector : UInt32} {chain : List UInt32}
  {data : ByteArray}

theorem Medium.eq_extract_of_yields {offset wanted : Nat}
    (hread : Yields m (readAt offset wanted) (.ok data)) :
    data = m.bytes.extract offset (offset + wanted) := by
  refine eq_extract_of_fetch ?_
  rw [← mapError_eq_ok_iff (f := Error.io)]
  exact (hread.eq (yields_readAt offset wanted)).symm

namespace Sectors

variable {image : ByteArray}

/-- **Reading a sector** gives its bytes, zero past the end of the file. -/
theorem of_readSector (hread : Yields m (h.readSector count sector) (.ok data)) :
    sector.toNat < count ∧ Sectors h m.bytes [sector] data := by
  unfold Header.readSector at hread
  obtain ⟨hcount, hread⟩ := hread.of_guard
  obtain ⟨b, hb, hdata⟩ := hread.of_bind (steady_readAt _ _) fun _ => steady_pure _
  obtain rfl := hdata.of_pure
  obtain rfl := Medium.eq_extract_of_yields hb
  have hsize : (m.bytes.extract (h.sectorOffset sector)
      (h.sectorOffset sector + h.sectorSize)).size ≤ h.sectorSize := by
    rw [ByteArray.size_extract]
    omega
  refine ⟨Nat.lt_of_not_le hcount, ⟨by simp [size_padTo hsize], ?_⟩⟩
  rintro k sector' hk j hj
  obtain ⟨rfl, rfl⟩ : k = 0 ∧ sector' = sector := by
    cases k with
    | zero => exact ⟨rfl, (Option.some.inj hk).symm⟩
    | succ k => cases hk
  rw [Nat.zero_mul, Nat.zero_add]
  exact byteAt_padTo_extract hj

theorem append {chain' : List UInt32} {data' : ByteArray} (hs : Sectors h image chain data)
    (hs' : Sectors h image chain' data') : Sectors h image (chain ++ chain') (data ++ data') := by
  refine ⟨by rw [ByteArray.size_append, hs.size, hs'.size, List.length_append, Nat.add_mul], ?_⟩
  intro k s hk j hj
  by_cases hlt : k < chain.length
  · rw [List.getElem?_append_left hlt] at hk
    have hle : (k + 1) * h.sectorSize ≤ chain.length * h.sectorSize :=
      Nat.mul_le_mul_right _ hlt
    rw [Nat.succ_mul] at hle
    rw [byteAt_append_of_lt (by rw [hs.size]; omega), hs.byteAt k s hk j hj]
  · obtain ⟨k', rfl⟩ := Nat.exists_eq_add_of_le (Nat.le_of_not_lt hlt)
    rw [List.getElem?_append_right (Nat.le_add_right _ _), Nat.add_sub_cancel_left] at hk
    rw [Nat.add_mul, ← hs.size, Nat.add_assoc, byteAt_append_add, hs'.byteAt k' s hk j hj]

/-- The loop over a chain, from the sectors that were read before on. -/
theorem of_loop {before : List UInt32} {got : ByteArray} (hgot : Sectors h m.bytes before got)
    (hread : Yields m (chain.foldlM
      (fun data sector => return data ++ (← h.readSector count sector)) got) (.ok data)) :
    (∀ s ∈ chain, s.toNat < count) ∧ Sectors h m.bytes (before ++ chain) data := by
  have hstep : ∀ got s, Steady (do return got ++ (← h.readSector count s) : Fetch ByteArray) :=
    fun got s => (steady_readSector h count s).bind fun _ => steady_pure _
  induction chain generalizing before got with
  | nil =>
    obtain rfl := Yields.of_pure hread
    exact ⟨List.forall_mem_nil _, by rwa [List.append_nil]⟩
  | cons s chain ih =>
    rw [List.foldlM_cons] at hread
    obtain ⟨_, hnext, hrest⟩ := hread.of_bind (hstep got s) fun _ => steady_foldlM hstep _ _
    obtain ⟨b, hb, hnext⟩ := hnext.of_bind (steady_readSector h count s) fun _ => steady_pure _
    obtain rfl := hnext.of_pure
    obtain ⟨hs, hb⟩ := of_readSector hb
    obtain ⟨hchain, hdata⟩ := ih (hgot.append hb) hrest
    exact ⟨List.forall_mem_cons.2 ⟨hs, hchain⟩, by rwa [List.append_assoc] at hdata⟩

/-- **Reading a chain** gives its sectors. -/
theorem of_readChain (hread : Yields m (h.readChain count chain) (.ok data)) :
    (∀ s ∈ chain, s.toNat < count) ∧ Sectors h m.bytes chain data := by
  have hnone : Sectors h m.bytes [] .empty := ⟨by simp, fun k s hk => by cases hk⟩
  exact of_loop hnone hread

/-! ## Words -/

theorem size_words32 (hs : Sectors h image chain data) :
    (words32 data).size = chain.length * h.entriesPerSector := by
  rw [Bytes.size_words32, hs.size, ← h.four_mul_entriesPerSector]
  have : chain.length * (4 * h.entriesPerSector) = 4 * (chain.length * h.entriesPerSector) := by
    ring
  omega

/-- The words of sectors are words of the file. -/
theorem getElem?_words32 (hs : Sectors h image chain data) {k r : Nat}
    (hk : chain[k]? = some sector) (hr : r < h.entriesPerSector) :
    (words32 data)[k * h.entriesPerSector + r]? = some (h.slot image sector r) := by
  have hlt : k < chain.length := (List.getElem?_eq_some_iff.1 hk).1
  have hsize := hs.size_words32
  have hle : (k + 1) * h.entriesPerSector ≤ chain.length * h.entriesPerSector :=
    Nat.mul_le_mul_right _ hlt
  rw [Nat.succ_mul] at hle
  rw [Bytes.size_words32] at hsize
  rw [Bytes.getElem?_words32 (by omega), Header.slot]
  have hword := h.four_mul_entriesPerSector
  have hoffset : 4 * (k * h.entriesPerSector + r) = k * h.sectorSize + 4 * r := by
    rw [← hword]
    ring
  refine congrArg some (word32_congr fun j hj => ?_)
  rw [hoffset, Nat.add_assoc, hs.byteAt k sector hk (4 * r + j) (by omega), Nat.add_assoc]

end Sectors

end CompoundFile
