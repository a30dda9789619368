import CompoundFile.Proofs.Session.History
import CompoundFile.Proofs.Stream.ShortSectors

/-!
# No stream is larger than its file

A reader can be made only for a stream that the file has room for. Its units are different and below
the capacity of the table that they are resolved in, so there are at most as many as the table knows.

**Room.** The FAT knows the sectors of the file, the last of them perhaps incomplete, and the sector
of the header is none of them, so all of them together are smaller than the file. The MiniFAT knows
the short sectors of the mini stream; the mini stream is kept in different sectors of the FAT, and
a sector is a whole number of short sectors, so there is no room lost by rounding up twice
(`ceilDiv_mul_le`). For both kinds of storage the units of a table take up less than the file
(`capacity_mul_lt`).

Main result: `reader_within_file`.
-/

namespace CompoundFile

/-! ## Rounding up -/

/-- Rounding up to a coarser unit gives no less. -/
theorem ceilDiv_mul_le {d e : Nat} (hd : 0 < d) (he : 0 < e) (hdvd : d ∣ e) (n : Nat) :
    ceilDiv n d * d ≤ ceilDiv n e * e := by
  obtain ⟨k, rfl⟩ := hdvd
  have hcoarse : n ≤ ceilDiv n (d * k) * k * d := by
    have := le_ceilDiv_mul he n
    rwa [Nat.mul_assoc, Nat.mul_comm k d]
  calc ceilDiv n d * d ≤ ceilDiv n (d * k) * k * d :=
        Nat.mul_le_mul_right d ((ceilDiv_le_iff hd).2 hcoarse)
    _ = ceilDiv n (d * k) * (d * k) := by rw [Nat.mul_assoc, Nat.mul_comm k d]

/-- The sectors of a file are smaller than the file. -/
theorem Header.sectorCount_mul_lt (h : Header) {n : Nat} (hn : 0 < n) :
    h.sectorCount n * h.sectorSize < n := by
  have hsector := h.sectorSize_pos
  have hle := Nat.div_mul_le_self (n - h.sectorSize + (h.sectorSize - 1)) h.sectorSize
  unfold sectorCount
  by_cases hsmall : n ≤ h.sectorSize
  · rw [Nat.sub_eq_zero_of_le hsmall, Nat.zero_add, Nat.div_eq_of_lt (by omega)]
    omega
  · omega

/-- A sector is a whole number of short sectors. -/
theorem Header.shortSectorSize_dvd (h : Header) : h.shortSectorSize ∣ h.sectorSize := by
  unfold sectorSize
  rw [h.shortSectorSize_eq]
  cases h.version <;> decide

/-! ## Tables -/

/-- The table that links the units of a storage. -/
def Allocation.table? (a : Allocation) : Storage → Option AllocationTable
  | .sectors => some a.fat
  | .shortSectors => a.mini.map (·.table)

namespace Allocation

/-- The units of a stream are resolved in the table of its storage, if there are any. -/
theorem resolved_of_chainOf {a : Allocation} {e : Directory.Entry} {units : List UInt32}
    (h : a.chainOf e = .ok units) :
    units.length = ceilDiv e.size.toNat (a.unitSize (a.storageOf e)) ∧
      (units = [] ∨ ∃ t, a.table? (a.storageOf e) = some t ∧
        t.resolvePrefix e.startSector units.length = .ok units) := by
  cases hstorage : a.storageOf e with
  | sectors =>
    rw [chainOf_eq_ok_iff hstorage] at h
    have hlength := AllocationTable.length_of_resolvePrefix h
    refine ⟨hlength, Or.inr ⟨a.fat, rfl, ?_⟩⟩
    rwa [hlength]
  | shortSectors =>
    cases hmini : a.mini with
    | none =>
      unfold chainOf at h
      simp only [hstorage, hmini] at h
      split at h
      next hzero =>
        cases h
        have hnone : ceilDiv (0 : UInt64).toNat (a.unitSize .shortSectors) ≤ 0 :=
          (ceilDiv_le_iff (a.unitSize_pos _)).2 (Nat.zero_le _)
        rw [hzero]
        exact ⟨(Nat.le_zero.1 hnone).symm, Or.inl rfl⟩
      next => cases h
    | some mini =>
      rw [chainOf_eq_ok_iff_of_shortSectors hstorage hmini] at h
      have hlength := AllocationTable.length_of_resolvePrefix h
      refine ⟨hlength, Or.inr ⟨mini.table, by rw [table?, hmini]; rfl, ?_⟩⟩
      rwa [hlength]

/-- The units of a stream are different and below the capacity of the table. -/
theorem units_of_chainOf {a : Allocation} {e : Directory.Entry} {units : List UInt32}
    (h : a.chainOf e = .ok units) :
    units.Nodup ∧ ∀ unit ∈ units, ∃ t, a.table? (a.storageOf e) = some t ∧
      unit.toNat < t.capacity := by
  obtain ⟨-, rfl | ⟨t, htable, hresolve⟩⟩ := resolved_of_chainOf h
  · exact ⟨List.nodup_nil, List.forall_mem_nil _⟩
  · obtain ⟨hnodup, hsector⟩ := AllocationTable.hasSector_of_resolvePrefix hresolve
    exact ⟨hnodup, fun unit hunit => ⟨t, htable, (hsector unit hunit).lt_capacity⟩⟩

end Allocation

/-! ## Units of readers -/

namespace StreamReader

/-- There is a unit for every position below the size. -/
def Covered (r : StreamReader) : Prop :=
  ∀ p < r.size, ∃ unit, r.units[p / r.unitSize]? = some unit

theorem covered_of_units {r : StreamReader} (h : r.units.size = ceilDiv r.size r.unitSize) :
    r.Covered := by
  intro p hp
  have hle := le_ceilDiv_mul r.unitSize_pos r.size
  have hlt : p / r.unitSize < r.units.size := by
    rw [h]
    exact (Nat.div_lt_iff_lt_mul r.unitSize_pos).2 (Nat.lt_of_lt_of_le hp hle)
  exact ⟨_, Array.getElem?_eq_getElem hlt⟩

theorem covered_of_make {source : Source} {a : Allocation} {e : Directory.Entry} {r : StreamReader}
    (h : make source a e = .ok r) : r.Covered := by
  obtain ⟨-, units, hunits, rfl⟩ := make_eq_ok_iff.1 h
  refine covered_of_units ?_
  exact (Allocation.resolved_of_chainOf hunits).1

theorem Covered.of_movedTo {r r' : StreamReader} (h : r.Covered) (hmoved : r.MovedTo r') :
    r'.Covered := by
  obtain ⟨s, p, -, rfl⟩ := hmoved
  exact h

end StreamReader

/-! ## Room -/

namespace Contents.LoadedFrom

variable {m : Medium} {options : OpenOptions} {c : Contents} (h : c.LoadedFrom m options)
include h

theorem size_pos : 0 < c.size :=
  Nat.lt_of_lt_of_le (by decide) (le_size_of_yields_loadHeader h.header)

theorem fat_capacity_mul_lt : c.fat.capacity * c.header.sectorSize < c.size := by
  rw [Fat.capacity_of_yields_load h.fat]
  exact c.header.sectorCount_mul_lt h.size_pos

/-- **The units that a table knows take up less than the file.** -/
theorem capacity_mul_lt {storage : Storage} {t : AllocationTable}
    (htable : c.allocation.table? storage = some t) :
    t.capacity * c.allocation.unitSize storage < c.size := by
  cases storage with
  | sectors =>
    obtain rfl := Option.some.inj htable
    exact h.fat_capacity_mul_lt
  | shortSectors =>
    obtain ⟨mini, hmini, rfl⟩ := Option.map_eq_some_iff.1 htable
    obtain ⟨root, -, -, hcapacity, hresolve⟩ := h.mini_eq hmini
    have hlength := AllocationTable.length_of_resolvePrefix hresolve
    obtain ⟨hnodup, hsector⟩ := AllocationTable.hasSector_of_resolvePrefix hresolve
    have hsectors : mini.sectors.toList.length ≤ c.fat.capacity :=
      length_le_of_nodup hnodup fun s hs => (hsector s hs).lt_capacity
    calc mini.table.capacity * c.header.shortSectorSize
        = ceilDiv root.size.toNat c.header.shortSectorSize * c.header.shortSectorSize := by
          rw [hcapacity]
      _ ≤ ceilDiv root.size.toNat c.header.sectorSize * c.header.sectorSize :=
          ceilDiv_mul_le c.header.shortSectorSize_pos c.header.sectorSize_pos
            c.header.shortSectorSize_dvd _
      _ = mini.sectors.toList.length * c.header.sectorSize := by rw [hlength]
      _ ≤ c.fat.capacity * c.header.sectorSize := Nat.mul_le_mul_right _ hsectors
      _ < c.size := h.fat_capacity_mul_lt

/-- A stream that is resolved is smaller than the file. -/
theorem size_lt_of_chainOf {e : Directory.Entry} {units : List UInt32}
    (hunits : c.allocation.chainOf e = .ok units) : e.size.toNat < c.size := by
  obtain ⟨hlength, hresolved⟩ := Allocation.resolved_of_chainOf hunits
  have hsize : e.size.toNat ≤ units.length * c.allocation.unitSize (c.allocation.storageOf e) := by
    rw [hlength]
    exact le_ceilDiv_mul (c.allocation.unitSize_pos _) _
  rcases hresolved with rfl | ⟨t, htable, hresolve⟩
  · rw [List.length_nil, Nat.zero_mul] at hsize
    exact Nat.lt_of_le_of_lt hsize h.size_pos
  · obtain ⟨hnodup, hsector⟩ := AllocationTable.hasSector_of_resolvePrefix hresolve
    have hcapacity : units.length ≤ t.capacity :=
      length_le_of_nodup hnodup fun s hs => (hsector s hs).lt_capacity
    calc e.size.toNat ≤ units.length * c.allocation.unitSize (c.allocation.storageOf e) := hsize
      _ ≤ t.capacity * c.allocation.unitSize (c.allocation.storageOf e) :=
          Nat.mul_le_mul_right _ hcapacity
      _ < c.size := h.capacity_mul_lt htable

end Contents.LoadedFrom

/-! ## Readers of an open file -/

/-- **No stream that opens claims more than the file has.** Whatever a client did before, a reader of
an open file has the size that its entry declares, and this is less than the size of the file. It has
exactly the units that this size needs; they are different and below the capacity of the table that
they come from. So wherever the reader is moved, what is left of the stream is less than the file,
and so is what reading to the end gives. -/
theorem Client.reader_within_file {options : OpenOptions} {steps : List Step} {c : Client}
    {f : OpenFile} {l : Session.Locator} {r : StreamReader}
    (hrun : ((Client.new options).runAll steps).2 = c) (hopen : c.session.file? = some f)
    (hreader : c.session.reader l = .ok r) :
    (∃ i, c.session.item l = .ok i ∧ r.size = i.entry.size.toNat) ∧
      f.contents.size = f.source.size ∧ r.size < f.source.size ∧
      r.units.size = ceilDiv r.size r.unitSize ∧ r.units.toList.Nodup ∧
      (∀ unit ∈ r.units, ∃ t, f.contents.allocation.table? r.storage = some t ∧
        unit.toNat < t.capacity) ∧
      ∀ r', r.MovedTo r' → r'.size - r'.position < f.source.size ∧
        ∀ data after, r'.readToEnd = (.ok data, after) → data.size < f.source.size := by
  have hsound : c.Sound (fun _ => True) options.strict := by
    rw [← hrun]
    exact sound_runAll steps (sound_new options) fun _ _ _ _ => trivial
  have hloaded := Contents.loadedFrom_of_yields (hsound.loaded f hopen)
  obtain ⟨i, f', hitem, hopen', hmake⟩ := Session.make_of_reader hreader
  obtain rfl : f = f' := Option.some.inj (hopen.symm.trans hopen')
  obtain ⟨-, units, hunits, rfl⟩ := StreamReader.make_eq_ok_iff.1 hmake
  have hsize : i.entry.size.toNat < f.source.size := by
    rw [Source.size, ← hloaded.size_eq]
    exact hloaded.size_lt_of_chainOf hunits
  obtain ⟨hnodup, hbelow⟩ := Allocation.units_of_chainOf hunits
  refine ⟨⟨i, hitem, rfl⟩, hloaded.size_eq, hsize, (Allocation.resolved_of_chainOf hunits).1, hnodup,
    fun unit hunit => hbelow unit (List.mem_toArray.1 hunit), ?_⟩
  rintro r' ⟨s, p, -, rfl⟩
  have hleft : i.entry.size.toNat - p < f.source.size :=
    Nat.lt_of_le_of_lt (Nat.sub_le _ _) hsize
  refine ⟨hleft, fun data after hread => ?_⟩
  rw [StreamReader.size_of_readToEnd hread]
  exact hleft

/-- The stream of 64 bytes in one short sector of the sample, which has 2630 bytes. -/
theorem Client.reader_within_file_sample :
    ∃ c f r, ((Client.new ⟨false, .ascii⟩).runAll [.command (.openSource Sample.source)]).2 = c ∧
      c.session.file? = some f ∧ c.session.reader (.sid 1) = .ok r ∧
      r.storage = .shortSectors ∧ r.size = 64 ∧ f.contents.size = 2630 ∧ r.size < f.source.size ∧
      r.units.size = ceilDiv r.size r.unitSize := by
  obtain ⟨source', -, hopened⟩ := Sample.openSource_eq
  have hrun : ((Client.new ⟨false, .ascii⟩).runAll [.command (.openSource Sample.source)]).2 =
      ⟨⟨⟨false, .ascii⟩, some ⟨Sample.contents, source'⟩⟩, none⟩ := by
    rw [Client.runAll_openSource hopened]
  have hreader : StreamReader.make source' Sample.contents.allocation Sample.short =
      .ok ⟨source', Sample.contents.allocation, .shortSectors, #[1], 64, 0⟩ :=
    StreamReader.make_eq_ok_iff.2 ⟨Or.inl rfl, [1], by decide +kernel, rfl⟩
  obtain ⟨-, -, hsize, hunits, -⟩ := Client.reader_within_file (l := .sid 1) hrun rfl hreader
  exact ⟨_, _, _, hrun, rfl, hreader, rfl, rfl, rfl, hsize, hunits⟩

end CompoundFile
