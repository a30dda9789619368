import CompoundFile.Proofs.Stream.ShortSectors

/-!
# The address map of the mini stream

A byte at an offset from a short sector has an address in the mini stream, and the sectors of the
mini stream say where in the file this address is. There is a sector for every address below the
size of the mini stream, so there the map has a place, and beyond it has none.

**Words.** Addresses are computed in words of 64 bits. The offset may be any word, and with a large
one the sum is 2^64 or more. Then the map gives no answer: the program ends
(`MiniStream.fileOffset_eq_error_iff`). Offsets within a short sector, which are all that readers ask
for, are too small for that (`MiniStream.exists_fileOffset`).

Main result: `MiniStream.fileOffset_exact_iff`.
-/

namespace CompoundFile

open Fetch

theorem lt_ceilDiv_iff {d : Nat} (hd : 0 < d) {n k : Nat} : k < ceilDiv n d ↔ k * d < n := by
  rw [← Nat.not_le, ceilDiv_le_iff hd, Nat.not_le]

namespace MiniStream

variable {m : MiniStream} {h : Header} {short : UInt32} {offset : UInt64}

/-! ## Words -/

/-- The program ends exactly when the sum is no word. -/
theorem fileOffset_eq_error_iff :
    m.fileOffset h short offset = .error .addOverflow ↔
      2 ^ 64 ≤ offsetOf h short offset.toNat := by
  rw [offsetOf, ← toNat_start, fileOffset, map_eq_error_iff, address, Words.add_eq_error_iff]
  rfl

/-- Below 2^64 the map answers with what the sectors say. -/
theorem fileOffset_of_lt (hlt : offsetOf h short offset.toNat < 2 ^ 64) :
    m.fileOffset h short offset =
      .ok (if offsetOf h short offset.toNat < m.size.toNat then
        h.streamOffset m.sectors (offsetOf h short offset.toNat) else none) := by
  rw [offsetOf, ← toNat_start] at hlt
  obtain ⟨w, hadd, hsum⟩ := Words.exists_add hlt
  rw [fileOffset, address, hadd]
  refine congrArg Except.ok ?_
  rw [placeAt_eq, hsum, toNat_start]
  rfl

/-! ## Places -/

/-- A place is given to the bytes of the mini stream only, and it is the one that the sector of the
address gives. -/
theorem fileOffset_eq_some_iff {place : Nat} :
    m.fileOffset h short offset = .ok (some place) ↔
      offsetOf h short offset.toNat < m.size.toNat ∧
        h.streamOffset m.sectors (offsetOf h short offset.toNat) = some place := by
  by_cases hword : offsetOf h short offset.toNat < 2 ^ 64
  · rw [fileOffset_of_lt hword, Except.ok.injEq]
    split
    next hlt => simp [hlt]
    next hge => simp [hge]
  · have hbehind : ¬offsetOf h short offset.toNat < m.size.toNat := by
      have := m.size.toNat_lt
      omega
    rw [fileOffset_eq_error_iff.2 (Nat.not_lt.1 hword)]
    simp [hbehind]

/-- With enough sectors a byte has no place exactly when it is behind the mini stream, at an address
that is a word. -/
theorem fileOffset_eq_none_iff (henough : m.size.toNat ≤ m.sectors.size * h.sectorSize) :
    m.fileOffset h short offset = .ok none ↔
      m.size.toNat ≤ offsetOf h short offset.toNat ∧ offsetOf h short offset.toNat < 2 ^ 64 := by
  by_cases hword : offsetOf h short offset.toNat < 2 ^ 64
  · rw [fileOffset_of_lt hword, Except.ok.injEq]
    split
    next hlt =>
      obtain ⟨place, hplace⟩ := h.exists_streamOffset (Nat.lt_of_lt_of_le hlt henough)
      rw [hplace]
      exact iff_of_false (Option.some_ne_none place) fun h => Nat.not_le.2 hlt h.1
    next hge => exact iff_of_true rfl ⟨Nat.not_lt.1 hge, hword⟩
  · rw [fileOffset_eq_error_iff.2 (Nat.not_lt.1 hword)]
    exact iff_of_false (fun h => nomatch h) fun h => hword h.2

/-! ## Loading -/

/-- The sectors of the mini stream are different and enough for its size. -/
structure Resolved (m : MiniStream) (h : Header) : Prop where
  nodup : m.sectors.toList.Nodup
  enough : m.size.toNat ≤ m.sectors.size * h.sectorSize

theorem resolved_of_resolvePrefix {fat : AllocationTable} {start : UInt32} {size : UInt64}
    (hsize : m.size = size) (hresolve : fat.resolvePrefix start
      (ceilDiv size.toNat h.sectorSize) = .ok m.sectors.toList) : m.Resolved h := by
  obtain ⟨hnodup, -⟩ := AllocationTable.hasSector_of_resolvePrefix hresolve
  refine ⟨hnodup, ?_⟩
  rw [hsize, ← Array.length_toList, AllocationTable.length_of_resolvePrefix hresolve]
  exact le_ceilDiv_mul h.sectorSize_pos _

section Loaded

variable {source after : Source} {fat : AllocationTable} {root : Directory.Entry}

/-- **The map is exact where it answers.** The sectors of a mini stream are different, the FAT knows
them, and there are as many of them, and of short sectors, as the size of the root needs; the first
byte of every short sector has a place. Whatever the short sector and the offset are, the map gives
a place exactly for the bytes below the size of the mini stream, and it is the one in the sector at
the byte's address. Behind it a byte has no place, and where the address is no word the program
ends. -/
theorem fileOffset_exact_iff (hload : (load h fat root).run source = (.ok (some m), after)) :
    m.size = root.size ∧ m.sectors.toList.Nodup ∧ (∀ s ∈ m.sectors, s.toNat < fat.capacity) ∧
    m.sectors.size = ceilDiv root.size.toNat h.sectorSize ∧
    m.table.capacity = ceilDiv root.size.toNat 64 ∧
    (∀ short : UInt32, short.toNat < m.table.capacity →
      ∃ place, m.fileOffset h short 0 = .ok (some place)) ∧
    ∀ (short : UInt32) (offset : UInt64) (i : Nat), i = short.toNat * 64 + offset.toNat →
      (i < m.size.toNat ↔ ∃ place, m.fileOffset h short offset = .ok (some place)) ∧
      (∀ place, m.fileOffset h short offset = .ok (some place) →
        ∃ s, m.sectors[i / h.sectorSize]? = some s ∧
          place = (s.toNat + 1) * h.sectorSize + i % h.sectorSize) ∧
      (m.fileOffset h short offset = .ok none ↔ m.size.toNat ≤ i ∧ i < 2 ^ 64) ∧
      (m.fileOffset h short offset = .error .addOverflow ↔ 2 ^ 64 ≤ i) := by
  obtain ⟨hsize, hcapacity, hresolve⟩ :=
    eq_of_yields_load ((steady_miniLoad h fat root).yields_of_run hload)
  obtain ⟨hnodup, henough⟩ := resolved_of_resolvePrefix hsize hresolve
  obtain ⟨-, hsector⟩ := AllocationTable.hasSector_of_resolvePrefix hresolve
  have hlength : m.sectors.size = ceilDiv root.size.toNat h.sectorSize := by
    rw [← Array.length_toList]
    exact AllocationTable.length_of_resolvePrefix hresolve
  have hplace : ∀ (short : UInt32) (offset : UInt64),
      offsetOf h short offset.toNat < m.size.toNat →
        ∃ place, m.fileOffset h short offset = .ok (some place) := by
    intro short offset hlt
    obtain ⟨place, hplace⟩ := h.exists_streamOffset (Nat.lt_of_lt_of_le hlt henough)
    exact ⟨place, fileOffset_eq_some_iff.2 ⟨hlt, hplace⟩⟩
  refine ⟨hsize, hnodup, fun s hs => (hsector s (Array.mem_toList_iff.2 hs)).lt_capacity, hlength,
    hcapacity, ?_, ?_⟩
  · intro short hshort
    rw [hcapacity, ← hsize, lt_ceilDiv_iff h.shortSectorSize_pos] at hshort
    refine hplace short 0 ?_
    rwa [offsetOf, UInt64.toNat_zero, Nat.add_zero]
  · intro short offset i hi
    obtain rfl : i = offsetOf h short offset.toNat := hi
    refine ⟨⟨hplace short offset, ?_⟩, ?_, fileOffset_eq_none_iff henough, fileOffset_eq_error_iff⟩
    · rintro ⟨place, hfound⟩
      exact (fileOffset_eq_some_iff.1 hfound).1
    · intro place hfound
      obtain ⟨s, hs, rfl⟩ := Option.map_eq_some_iff.1 (fileOffset_eq_some_iff.1 hfound).2
      exact ⟨s, hs, rfl⟩

end Loaded

/-- In the sample, byte 5 of short sector 1 is at byte 69 of sector 3, and there is no short sector
2. -/
theorem fileOffset_exact_iff_sample :
    ∃ m source after, (load Sample.header Sample.contents.fat Sample.root).run source =
        (.ok (some m), after) ∧
      m.fileOffset Sample.header 1 5 = .ok (some 2117) ∧
      m.fileOffset Sample.header 2 0 = .ok none := by
  obtain ⟨after, -, hload⟩ := Sample.yields_miniLoad Sample.source rfl
  obtain ⟨-, -, -, -, -, -, hmap⟩ := fileOffset_exact_iff hload
  obtain ⟨hbelow, hexact, -, -⟩ := hmap 1 5 69 rfl
  obtain ⟨-, -, hbehind, -⟩ := hmap 2 0 128 rfl
  obtain ⟨place, hplace⟩ := hbelow.1 (by decide)
  obtain ⟨s, hs, rfl⟩ := hexact place hplace
  obtain rfl : 3 = s := Option.some.inj hs
  exact ⟨_, _, after, hload, hplace, hbehind.2 (by decide)⟩

/-- The byte 2^64 - 64 behind short sector 1 of the sample is far behind the 100 bytes of the mini
stream, but asking for its place ends the program. -/
theorem fileOffset_overflows :
    ∃ m source after, (load Sample.header Sample.contents.fat Sample.root).run source =
        (.ok (some m), after) ∧
      m.size.toNat < (1 : UInt32).toNat * 64 + (18446744073709551552 : UInt64).toNat ∧
      m.fileOffset Sample.header 1 18446744073709551552 = .error .addOverflow := by
  obtain ⟨after, -, hload⟩ := Sample.yields_miniLoad Sample.source rfl
  exact ⟨_, _, after, hload, by decide, fileOffset_eq_error_iff.2 (by decide)⟩

end MiniStream

end CompoundFile
