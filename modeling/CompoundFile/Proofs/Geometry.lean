import CompoundFile.Proofs.Layout
import CompoundFile.Proofs.Sectors
import CompoundFile.Proofs.Stream.AddressMap
import CompoundFile.Proofs.Words

/-!
# Counting and addressing sectors

A file has as many sectors behind its header as begin inside it. Counting rounds the bytes behind
the header up to whole sectors, addressing goes over the header by adding one to the number of the
sector, and the two meet at the last sector, of which the file may hold a part only
(`Header.lt_sectorCount_iff`).

**Words.** The size of a file is a word of 64 bits, and so are the results. No step on the way needs
more (`Header.checkedCount_eq`, `Header.checkedOffset_eq`).

**Reading.** A sector that exists is read in full length, with zeros where the file ends before the
sector does. The sectors of a chain stand one behind the other in what is read.

Main result: `Header.counted_sectors_addressed`.
-/

namespace CompoundFile

open Bytes Fetch

namespace Header

variable {h : Header}

/-! ## Words -/

/-- Where a sector begins, if no step on the way overflows. -/
def checkedOffset (h : Header) (sector : UInt32) : Option UInt64 := do
  let next ← Words.unsigned64? (sector.toNat + 1)
  Words.unsigned64? (next.toNat <<< h.version.sectorShift)

/-- How many sectors a file of a given size holds, if no step on the way overflows. A file smaller
than its header has no bytes behind the header, and a rest that is no whole sector counts as one. -/
def checkedCount (h : Header) (fileSize : UInt64) : Option UInt64 := do
  let unit ← Words.unsigned32? (1 <<< h.version.sectorShift)
  let behind := fileSize.toNat - unit.toNat
  let whole ← Words.unsigned64? (behind / unit.toNat)
  if behind % unit.toNat = 0 then return whole
  else Words.unsigned64? (whole.toNat + 1)

theorem sectorSize_cases (h : Header) : h.sectorSize = 512 ∨ h.sectorSize = 4096 := by
  unfold sectorSize
  cases h.version with
  | three => exact Or.inl rfl
  | four => exact Or.inr rfl

theorem shiftLeft_sectorShift (h : Header) (n : Nat) :
    n <<< h.version.sectorShift = n * h.sectorSize := by
  rw [sectorSize, Version.sectorSize_eq_shiftLeft, Nat.shiftLeft_eq, Nat.one_shiftLeft]

theorem checkedOffset_eq (h : Header) (sector : UInt32) :
    ∃ offset, h.checkedOffset sector = some offset ∧ offset.toNat = h.sectorOffset sector := by
  have hsector := sector.toNat_lt
  have hsize := h.sectorSize_cases
  obtain ⟨next, hnext, hnextNat⟩ := Words.exists_unsigned64? (n := sector.toNat + 1) (by omega)
  have hfits : next.toNat <<< h.version.sectorShift < 2 ^ 64 := by
    rw [shiftLeft_sectorShift, hnextNat]
    rcases hsize with hsize | hsize <;> rw [hsize] <;> omega
  obtain ⟨offset, hoffset, hoffsetNat⟩ := Words.exists_unsigned64? hfits
  refine ⟨offset, ?_, ?_⟩
  · simp [checkedOffset, hnext, hoffset]
  · rw [hoffsetNat, shiftLeft_sectorShift, hnextNat, sectorOffset]

/-- A rounded-up quotient is the quotient, and one more if there is a rest. -/
theorem ceilDiv_eq {d : Nat} (hd : 0 < d) (n : Nat) :
    ceilDiv n d = if n % d = 0 then n / d else n / d + 1 := by
  have hn := Nat.div_add_mod n d
  have hlt := Nat.mod_lt n hd
  unfold ceilDiv
  split
  next hrest =>
    rw [Nat.div_eq_iff hd]
    rw [hrest, Nat.add_zero, Nat.mul_comm] at hn
    omega
  next hrest =>
    rw [Nat.div_eq_iff hd, Nat.add_mul, Nat.one_mul, Nat.mul_comm]
    omega

theorem checkedCount_eq (h : Header) (fileSize : UInt64) :
    ∃ count, h.checkedCount fileSize = some count ∧
      count.toNat = h.sectorCount fileSize.toNat := by
  have hfile := fileSize.toNat_lt
  have hunitSize := h.sectorSize_cases
  obtain ⟨unit, hunit, hunitNat⟩ := Words.exists_unsigned32? (n := 1 <<< h.version.sectorShift)
    (by rw [shiftLeft_sectorShift]; omega)
  rw [shiftLeft_sectorShift, Nat.one_mul] at hunitNat
  have hquotient : (fileSize.toNat - unit.toNat) / unit.toNat ≤ fileSize.toNat / 2 := by
    rw [hunitNat]
    rcases hunitSize with hsize | hsize <;> rw [hsize] <;> omega
  obtain ⟨whole, hwhole, hwholeNat⟩ := Words.exists_unsigned64?
    (n := (fileSize.toNat - unit.toNat) / unit.toNat) (by omega)
  have hcount : h.sectorCount fileSize.toNat = ceilDiv (fileSize.toNat - unit.toNat) unit.toNat := by
    rw [hunitNat]
    rfl
  rw [hcount, ceilDiv_eq (by omega)]
  by_cases hrest : (fileSize.toNat - unit.toNat) % unit.toNat = 0
  · refine ⟨whole, ?_, ?_⟩
    · simp [checkedCount, hunit, hwhole, hrest]
    · rw [if_pos hrest, hwholeNat]
  · obtain ⟨count, hcount, hcountNat⟩ := Words.exists_unsigned64? (n := whole.toNat + 1) (by omega)
    refine ⟨count, ?_, ?_⟩
    · simp [checkedCount, hunit, hwhole, hrest, hcount]
    · rw [if_neg hrest, hcountNat, hwholeNat]

/-! ## Numbers and places -/

/-- **A sector exists exactly when it begins inside the file.** -/
theorem lt_sectorCount_iff (h : Header) (sector : UInt32) (size : Nat) :
    sector.toNat < h.sectorCount size ↔ h.sectorOffset sector < size :=
  calc sector.toNat < h.sectorCount size
    _ ↔ sector.toNat * h.sectorSize < size - h.sectorSize := lt_ceilDiv_iff h.sectorSize_pos
    _ ↔ sector.toNat * h.sectorSize + h.sectorSize < size := Nat.lt_sub_iff_add_lt
    _ ↔ h.sectorOffset sector < size := by rw [sectorOffset, Nat.succ_mul]

/-! ## Reading -/

theorem length_sectorBytes (h : Header) (l : List UInt8) (sector : UInt32) :
    (h.sectorBytes l sector).length = h.sectorSize := by
  simp [sectorBytes, fill]

section Image

variable {image : ByteArray} {count : Nat} {sector : UInt32} {chain : List UInt32}

/-- A sector that exists is read from an image in memory, zeros for the bytes behind its end. -/
theorem exists_readSector (hlt : sector.toNat < count) :
    ∃ data, Yields ⟨image, none⟩ (h.readSector count sector) (.ok data) ∧
      data.size = h.sectorSize ∧
      ∀ j < h.sectorSize, byteAt data j = byteAt image (h.sectorOffset sector + j) := by
  have hread := yields_readSector_ofList image.data.toList h hlt
  obtain ⟨-, hdata⟩ := Sectors.of_readSector hread
  refine ⟨_, hread, ?_, fun j hj => ?_⟩
  · rw [size_ofList, length_sectorBytes]
  · have hbyte := hdata.byteAt 0 sector rfl j hj
    rwa [Nat.zero_mul, Nat.zero_add] at hbyte

/-- The sectors of a chain stand one behind the other in what is read of it. -/
theorem exists_readChain (hlt : ∀ s ∈ chain, s.toNat < count) :
    ∃ data, Yields ⟨image, none⟩ (h.readChain count chain) (.ok data) ∧
      data.size = chain.length * h.sectorSize ∧
      ∀ i s, chain[i]? = some s → Yields ⟨image, none⟩ (h.readSector count s)
        (.ok (data.extract (i * h.sectorSize) (i * h.sectorSize + h.sectorSize))) := by
  have hread := yields_readChain_ofList image.data.toList h hlt
  obtain ⟨-, hdata⟩ := Sectors.of_readChain hread
  refine ⟨_, hread, hdata.size, fun i s hs => ?_⟩
  have hpieces : ∀ p ∈ (chain.map (h.sectorBytes image.data.toList)).take i,
      p.length = h.sectorSize := by
    intro p hp
    obtain ⟨t, -, rfl⟩ := List.mem_map.1 (List.mem_of_mem_take hp)
    exact h.length_sectorBytes _ t
  have hpiece := drop_take_flatten hpieces (by rw [List.getElem?_map, hs]; rfl)
    (h.length_sectorBytes image.data.toList s)
  rw [extract_ofList, List.flatMap_def, Nat.mul_comm i, hpiece]
  exact yields_readSector_ofList image.data.toList h (hlt s (List.mem_of_getElem? hs))

end Image

/-- **Counting and addressing agree, and reading follows them.** Neither overflows. A sector exists
exactly when it begins inside the file, and then it is read in full length, byte by byte what stands
in the file from its beginning on, and zero behind the end of the file. What is read of a chain is
as long as its sectors together, and has each of them at its place. -/
theorem counted_sectors_addressed (h : Header) (size : UInt64) :
    (∃ count, h.checkedCount size = some count ∧ count.toNat = h.sectorCount size.toNat) ∧
    (∀ sector, ∃ offset, h.checkedOffset sector = some offset ∧
      offset.toNat = h.sectorOffset sector) ∧
    (∀ sector, sector.toNat < h.sectorCount size.toNat ↔ h.sectorOffset sector < size.toNat) ∧
    ∀ image : ByteArray, image.size = size.toNat →
      (∀ sector, sector.toNat < h.sectorCount size.toNat →
        ∃ data, Yields ⟨image, none⟩ (h.readSector (h.sectorCount size.toNat) sector) (.ok data) ∧
          data.size = h.sectorSize ∧
          ∀ j < h.sectorSize, byteAt data j =
            if present : h.sectorOffset sector + j < image.size then
              image[h.sectorOffset sector + j] else 0) ∧
      ∀ chain : List UInt32, (∀ s ∈ chain, s.toNat < h.sectorCount size.toNat) →
        ∃ data, Yields ⟨image, none⟩ (h.readChain (h.sectorCount size.toNat) chain) (.ok data) ∧
          data.size = chain.length * h.sectorSize ∧
          ∀ i s, chain[i]? = some s →
            Yields ⟨image, none⟩ (h.readSector (h.sectorCount size.toNat) s)
              (.ok (data.extract (i * h.sectorSize) (i * h.sectorSize + h.sectorSize))) := by
  refine ⟨h.checkedCount_eq size, h.checkedOffset_eq, ?_, ?_⟩
  · intro sector
    exact h.lt_sectorCount_iff sector size.toNat
  · intro image _
    exact ⟨fun sector => exists_readSector, fun chain => exists_readChain⟩

/-- The file of the sample ends 70 bytes behind the beginning of sector 4, its last one. -/
theorem counted_sectors_addressed_partial :
    (∃ data, Yields (.ofList Sample.bytes) (Sample.header.readSector 5 4) (.ok data) ∧
      data.size = 512 ∧ byteAt data 69 = byteAt (ofList Sample.bytes) 2629 ∧ byteAt data 70 = 0) ∧
    ∃ data, Yields (.ofList Sample.bytes) (Sample.header.readChain 5 [4, 2]) (.ok data) ∧
      data.size = 1024 := by
  have hsize : (ofList Sample.bytes).size = (2630 : UInt64).toNat := by
    rw [size_ofList, Sample.length_bytes]
    rfl
  obtain ⟨-, -, -, hread⟩ := counted_sectors_addressed Sample.header 2630
  obtain ⟨hsector, hchain⟩ := hread (ofList Sample.bytes) hsize
  obtain ⟨data, hdata, hlength, hbyte⟩ := hsector 4 (by decide)
  obtain ⟨chain, hread, hchainSize, -⟩ := hchain [4, 2]
    (List.forall_mem_cons.2 ⟨by decide, List.forall_mem_singleton.2 (by decide)⟩)
  refine ⟨⟨data, hdata, hlength, hbyte 69 (by decide), ?_⟩, chain, hread, hchainSize⟩
  rw [hbyte 70 (by decide)]
  exact dif_neg (by rw [hsize]; decide)

end Header

end CompoundFile
