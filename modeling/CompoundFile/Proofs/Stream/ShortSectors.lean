import CompoundFile.Proofs.Directory.Walk
import CompoundFile.Proofs.Stream.Cursor

/-!
# A stream in short sectors is part of the content of the root

The bytes of a stream in short sectors are bytes of the mini stream, and the mini stream is the
content of the root. There are two ways from such a byte to its place in the file: a reader of the
stream goes through the MiniFAT to a short sector and from its address through the sectors of the
mini stream; a reader of the root goes through its own sectors. They lead to the same place.

**Where a read takes a byte from** (`TakesFrom`). A reader takes a byte of its stream from an offset
when every successful read that covers the byte, wherever it begins and whatever the file holds,
shows what the file has at this offset. A byte with an origin is taken from there
(`takesFrom_of_origin`).

Main result: `short_sectors_refine_root`.
-/

namespace CompoundFile

/-! ## Addresses -/

/-- A byte of a short sector is where the byte of the mini stream at its address is. -/
theorem MiniStream.origin_eq (m : MiniStream) (h : Header) (short : UInt32) (within : Nat) :
    m.origin h short within = h.streamOffset m.sectors (offsetOf h short within) := rfl

theorem Header.exists_streamOffset (h : Header) {sectors : Array UInt32} {i : Nat}
    (hi : i < sectors.size * h.sectorSize) : ∃ offset, h.streamOffset sectors i = some offset := by
  have hlt := (Nat.div_lt_iff_lt_mul h.sectorSize_pos).2 hi
  unfold streamOffset
  rw [Array.getElem?_eq_getElem hlt]
  exact ⟨_, rfl⟩

/-- The chain of a stream in short sectors is the first part of a chain of the MiniFAT. -/
theorem Allocation.chainOf_eq_ok_iff_of_shortSectors {a : Allocation} {e : Directory.Entry}
    {mini : MiniStream} {units : List UInt32} (hstorage : a.storageOf e = .shortSectors)
    (hmini : a.mini = some mini) :
    a.chainOf e = .ok units ↔
      mini.table.resolvePrefix e.startSector (ceilDiv e.size.toNat 64) = .ok units := by
  unfold chainOf
  simp only [hstorage, hmini, unitSize, Header.shortSectorSize_eq]
  split
  next hzero =>
    have hneeded : ceilDiv e.size.toNat 64 = 0 := by
      rw [hzero]
      rfl
    rw [hneeded, AllocationTable.resolvePrefix, if_pos rfl]
    exact ⟨fun h => congrArg _ (Except.ok.inj h), fun h => congrArg _ (Except.ok.inj h)⟩
  next => exact mapError_eq_ok_iff

/-! ## Reads -/

namespace StreamReader

/-- Every successful read that covers byte `i` of the stream takes it from the offset in the file.
This is meant for all sources, so the offset is not only one at which the same byte stands. -/
def TakesFrom (r : StreamReader) (i offset : Nat) : Prop :=
  ∀ source position wanted data after,
    (r.moved source position).read wanted = (.ok data, after) →
      position ≤ i → i < position + data.size →
        offset < source.medium.bytes.size ∧
          Bytes.byteAt data (i - position) = Bytes.byteAt source.medium.bytes offset

/-- **A byte is taken from its origin**, whichever read covers it. -/
theorem takesFrom_of_origin {r : StreamReader} {i offset : Nat} (h : r.origin i = some offset) :
    r.TakesFrom i offset := by
  intro source position wanted data after hread hle hlt
  obtain ⟨rfl, -⟩ := eq_of_read_ok hread
  rw [size_bytes] at hlt
  have horigin : (r.moved source position).origin i = some offset := h
  obtain ⟨⟨offset', horigin', hend, -⟩, -⟩ := read_ok_iff.1 ⟨_, after, hread⟩ i hle hlt
  obtain rfl := Option.some.inj (horigin.symm.trans horigin')
  refine ⟨hend, ?_⟩
  have hk : i - position < (r.moved source position).quota wanted := by
    have : (r.moved source position).position = position := rfl
    omega
  rw [byteAt_bytes _ _ hk]
  show (r.moved source position).byte (position + (i - position)) = _
  rw [Nat.add_sub_cancel' hle, byte, horigin]
  rfl

theorem size_of_readToEnd {r after : StreamReader} {data : ByteArray}
    (h : r.readToEnd = (.ok data, after)) : data.size = r.size - r.position := by
  obtain ⟨rfl, -⟩ := eq_of_read_ok (readToEnd_eq_ok_iff.1 h)
  rw [size_bytes, quota, Nat.min_self]

theorem TakesFrom.byteAt_of_readToEnd {r after : StreamReader} {i offset : Nat} {data : ByteArray}
    (h : r.TakesFrom i offset) (hposition : r.position = 0)
    (hread : r.readToEnd = (.ok data, after)) (hi : i < r.size) :
    Bytes.byteAt data i = Bytes.byteAt r.source.medium.bytes offset := by
  have hsize := size_of_readToEnd hread
  have hself : r.moved r.source 0 = r := by
    rw [← hposition]
    rfl
  rw [← hself] at hread
  obtain ⟨-, hbyte⟩ := h _ 0 _ data after (readToEnd_eq_ok_iff.1 hread) (Nat.zero_le i) (by omega)
  exact hbyte

/-- A portion may begin at the byte, and the byte has the origin. -/
theorem locate_moved {r : StreamReader} {i offset : Nat} (hadmits : r.Admits i)
    (horigin : r.origin i = some offset) :
    ∃ left, (r.moved r.source i).locate = .ok (offset, left) :=
  ⟨_, locate_eq_ok_iff.2 ⟨hadmits, horigin, rfl⟩⟩

/-- **Both ways lead to one place**: from a byte of a stream in short sectors, and from the byte of the
mini stream at its address. -/
theorem exists_common_offset (r r₀ : StreamReader) {mini : MiniStream} {n : Nat} {unit : UInt32}
    (hstorage : r.storage = .shortSectors) (hstorage₀ : r₀.storage = .sectors)
    (hallocation : r₀.allocation = r.allocation) (hmini : r.allocation.mini = some mini)
    (hunits₀ : r₀.units = mini.sectors) (hunit : r.units[n / 64]? = some unit)
    (hlt : unit.toNat * 64 + n % 64 < mini.size.toNat)
    (hsectors : mini.size.toNat ≤ mini.sectors.size * r.allocation.header.sectorSize) :
    ∃ offset, r.allocation.header.streamOffset mini.sectors (unit.toNat * 64 + n % 64) =
        some offset ∧
      (∃ left, (r.moved r.source n).locate = .ok (offset, left)) ∧
      (∃ left, (r₀.moved r₀.source (unit.toNat * 64 + n % 64)).locate = .ok (offset, left)) ∧
      r.TakesFrom n offset ∧ r₀.TakesFrom (unit.toNat * 64 + n % 64) offset := by
  obtain ⟨offset, hoffset⟩ :=
    r.allocation.header.exists_streamOffset (Nat.lt_of_lt_of_le hlt hsectors)
  have horigin : r.origin n = some offset := by
    rw [origin_of_shortSectors hstorage hmini, hunit, Option.bind_some, MiniStream.origin_eq,
      MiniStream.offsetOf, Header.shortSectorSize_eq]
    exact hoffset
  have horigin₀ : r₀.origin (unit.toNat * 64 + n % 64) = some offset := by
    rw [origin_of_sectors hstorage₀, hallocation, hunits₀]
    exact hoffset
  have hadmits : r.Admits n := (admits_iff_of_shortSectors hstorage hmini).2 ⟨unit, hunit, hlt⟩
  have hadmits₀ := admits_of_origin hstorage₀ horigin₀
  exact ⟨offset, hoffset, locate_moved hadmits horigin, locate_moved hadmits₀ horigin₀,
    takesFrom_of_origin horigin, takesFrom_of_origin horigin₀⟩

end StreamReader

/-! ## Readers of an open file -/

namespace Session

variable {options : OpenOptions} {source : Source} {s : Session} {c : Contents}

/-- An item is an entry of the tree. -/
theorem exists_entry_of_item {l : Locator} {i : Item} (hc : s.contents = .ok c)
    (hitem : s.item l = .ok i) : ∃ n, c.tree.entry? n = some i.entry := by
  have hfound : ∃ name sid?, Item.found c.tree name sid? = .ok i := by
    cases l with
    | path path | sid sid =>
      obtain ⟨_, hc', hfound⟩ := bind_eq_ok_iff.1 hitem
      obtain rfl := Except.ok.inj (hc.symm.trans hc')
      exact ⟨_, _, hfound⟩
  obtain ⟨name, sid?, hfound⟩ := hfound
  obtain ⟨n, -, hn⟩ := Item.found_eq_ok_iff.1 hfound
  exact ⟨n, (Directory.Tree.ofSid?_eq_some_iff.1 hn).2⟩

/-- The item of the root type is the entry whose content the mini stream is. -/
theorem mini_eq_of_root {mini : MiniStream} {l : Locator} {i : Item}
    (hopen : (Session.new options).openSource source = (.ok (), s)) (hc : s.contents = .ok c)
    (hmini : c.mini = some mini) (hitem : s.item l = .ok i) (htype : i.entry.type = .root) :
    mini.size = i.entry.size ∧ c.fat.resolvePrefix i.entry.startSector
      (ceilDiv i.entry.size.toNat c.header.sectorSize) = .ok mini.sectors.toList := by
  obtain ⟨n, hn⟩ := exists_entry_of_item hc hitem
  obtain ⟨f, rfl, -, hload⟩ := opened hopen
  cases hc
  have hloaded := Contents.loadedFrom_of_yields hload
  obtain ⟨_, hparse⟩ := Contents.exists_parse_of_yields_loadDirectory hloaded.directory
  obtain ⟨root, hroot, hsize, -, hsectors⟩ := hloaded.mini_eq hmini
  obtain rfl := Directory.eq_root_of_parse hparse hn htype
  obtain rfl := Option.some.inj (hroot.symm.trans hn)
  exact ⟨hsize, hsectors⟩

/-- **Short sectors are part of the content of the root.** The reader of a stream below the cutoff
has the first short sectors of a chain of the MiniFAT, as many as its size needs; a reader of the
root has the sectors of the mini stream. Byte `n` of the stream has an address in the mini stream. If
the root has a byte there, both readers find the two bytes at one place in the file, which the
sectors of the root give, and every successful read takes them from there. So when the stream and the
content of the root are read, the two bytes are the same. -/
theorem short_sectors_refine_root {mini : MiniStream} {l l₀ : Locator} {i i₀ : Item}
    {r : StreamReader} (hopen : (Session.new options).openSource source = (.ok (), s))
    (hc : s.contents = .ok c) (hmini : c.mini = some mini) (hitem : s.item l = .ok i)
    (htype : i.entry.type = .stream)
    (hsize : i.entry.size.toNat < c.header.miniStreamCutoff.toNat) (hreader : s.reader l = .ok r)
    (hitem₀ : s.item l₀ = .ok i₀) (htype₀ : i₀.entry.type = .root) :
    ∃ r₀, s.reader l₀ = .ok r₀ ∧ r₀.units = mini.sectors ∧
      c.fat.resolvePrefix i₀.entry.startSector mini.sectors.size = .ok mini.sectors.toList ∧
      r.units.size = ceilDiv i.entry.size.toNat 64 ∧
      mini.table.resolvePrefix i.entry.startSector r.units.size = .ok r.units.toList ∧
      ∀ n < i.entry.size.toNat, ∃ unit, r.units[n / 64]? = some unit ∧
        let m := unit.toNat * 64 + n % 64
        m < i₀.entry.size.toNat →
          ∃ offset, c.header.streamOffset mini.sectors m = some offset ∧
            (∃ left, (r.moved r.source n).locate = .ok (offset, left)) ∧
            (∃ left, (r₀.moved r₀.source m).locate = .ok (offset, left)) ∧
            r.TakesFrom n offset ∧ r₀.TakesFrom m offset ∧
            ∀ data s' data₀ s₀', s.readStream l = (.ok data, s') →
              s.readStream l₀ = (.ok data₀, s₀') →
                Bytes.byteAt data n = Bytes.byteAt data₀ m := by
  obtain ⟨source', -, hmake⟩ := exists_reader_eq_make hopen hc
  obtain ⟨hmsize, hsectors⟩ := mini_eq_of_root hopen hc hmini hitem₀ htype₀
  have hstorage : c.allocation.storageOf i.entry = .shortSectors :=
    if_pos ⟨by rw [htype]; decide, hsize⟩
  have hstorage₀ : c.allocation.storageOf i₀.entry = .sectors :=
    if_neg fun h => h.1 htype₀
  -- The chain of the stream is in the MiniFAT, that of the root in the FAT.
  obtain ⟨-, units, hunits, rfl⟩ :=
    StreamReader.make_eq_ok_iff.1 ((hmake l i hitem).symm.trans hreader)
  rw [Allocation.chainOf_eq_ok_iff_of_shortSectors hstorage hmini] at hunits
  have hlength := AllocationTable.length_of_resolvePrefix hunits
  have hlength₀ := AllocationTable.length_of_resolvePrefix hsectors
  rw [Array.length_toList] at hlength₀
  have hreader₀ := (hmake l₀ i₀ hitem₀).trans (StreamReader.make_eq_ok_iff.2
    ⟨Or.inr htype₀, _, (Allocation.chainOf_eq_ok_iff hstorage₀).2 hsectors, rfl⟩)
  refine ⟨_, hreader₀, rfl, by rwa [hlength₀], hlength, ?_, ?_⟩
  · show mini.table.resolvePrefix _ units.toArray.size = .ok units
    rwa [List.size_toArray, hlength]
  intro n hn
  have hlt : n / 64 < units.length := by
    have := le_ceilDiv_mul (d := 64) (by decide) i.entry.size.toNat
    omega
  have hunit : units.toArray[n / 64]? = some units[n / 64] := by
    rw [List.getElem?_toArray, List.getElem?_eq_getElem hlt]
  refine ⟨_, hunit, fun hm => ?_⟩
  have henough : mini.size.toNat ≤ mini.sectors.size * c.header.sectorSize := by
    rw [hmsize, hlength₀]
    exact le_ceilDiv_mul c.header.sectorSize_pos _
  obtain ⟨offset, hoffset, hlocate, hlocate₀, htakes, htakes₀⟩ :=
    StreamReader.exists_common_offset ⟨source', c.allocation, _, units.toArray, _, 0⟩
      ⟨source', c.allocation, _, mini.sectors, _, 0⟩ hstorage hstorage₀ rfl hmini rfl hunit
      (hmsize ▸ hm) henough
  refine ⟨offset, hoffset, hlocate, hlocate₀, htakes, htakes₀, ?_⟩
  intro data s' data₀ s₀' hread hread₀
  obtain ⟨after, hend⟩ := readToEnd_of_readStream hreader hread
  obtain ⟨after₀, hend₀⟩ := readToEnd_of_readStream hreader₀ hread₀
  rw [htakes.byteAt_of_readToEnd rfl hend hn, htakes₀.byteAt_of_readToEnd rfl hend₀ hm]

/-- The stream of the sample in short sector 1, whose first byte is byte 64 of the content of the
root. -/
theorem short_sectors_refine_root_sample :
    ∃ s r r₀, (Session.new ⟨false, .ascii⟩).openSource Sample.source = (.ok (), s) ∧
      s.reader (.sid 1) = .ok r ∧ s.reader (.sid 0) = .ok r₀ ∧ r.units = #[1] ∧ r₀.units = #[3] ∧
      r.TakesFrom 0 2112 ∧ r₀.TakesFrom 64 2112 := by
  obtain ⟨source', -, hopen⟩ := Sample.openSource_eq
  let s : Session := ⟨⟨false, .ascii⟩, some ⟨Sample.contents, source'⟩⟩
  have hitem : s.item (.sid 1) = .ok ⟨Sample.contents.tree, Sample.short⟩ := rfl
  have hroot : s.item (.sid 0) = .ok ⟨Sample.contents.tree, Sample.root⟩ := rfl
  have hsize : Sample.short.size.toNat < Sample.header.miniStreamCutoff.toNat := by decide
  have hreader : StreamReader.make source' Sample.contents.allocation Sample.short =
      .ok ⟨source', Sample.contents.allocation, .shortSectors, #[1], 64, 0⟩ :=
    StreamReader.make_eq_ok_iff.2 ⟨Or.inl rfl, [1], by decide +kernel, rfl⟩
  obtain ⟨r₀, hreader₀, hunits₀, -, -, -, h⟩ :=
    short_sectors_refine_root hopen rfl rfl hitem rfl hsize hreader hroot rfl
  obtain ⟨unit, hunit, h⟩ := h 0 (Nat.succ_pos 63)
  obtain rfl : 1 = unit := Option.some.inj hunit
  have hm : (1 : UInt32).toNat * 64 + 0 % 64 < Sample.root.size.toNat := by decide
  obtain ⟨offset, hoffset, -, -, htakes, htakes₀, -⟩ := h hm
  have hplace : Sample.header.streamOffset #[3] 64 = some 2112 := by decide
  obtain rfl : offset = 2112 := Option.some.inj (hoffset.symm.trans hplace)
  exact ⟨_, _, r₀, hopen, hreader, hreader₀, rfl, hunits₀, htakes, htakes₀⟩

end Session

end CompoundFile
