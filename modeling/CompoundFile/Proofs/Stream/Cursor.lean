import CompoundFile.Proofs.Chain
import CompoundFile.Proofs.Layout
import CompoundFile.Proofs.Stream.Reading
import CompoundFile.Stream.Script

/-!
# A stream in sectors is a cursor over its bytes

The sectors of a stream give each of its bytes a place in the file (`Header.streamOffset`). A reader
of the stream is a cursor over the bytes at these places: reading succeeds exactly when the file has
all of them (`Present`), gives them as they are and moves the position behind them; seeking goes to
every position below 2^64.

**Readers of an open file.** What a reader knows of its stream is fixed when it is made; commands
move the position and the source only (`runAll_moved`). So the reader of an entry in sectors is a
cursor whatever was done with it before.

Main result: `sectors_refine_cursor`.
-/

namespace CompoundFile

/-! ## Places -/

namespace Header

/-- Where in the file byte `i` of a stream in the given sectors is. -/
def streamOffset (h : Header) (sectors : Array UInt32) (i : Nat) : Option Nat :=
  (sectors[i / h.sectorSize]?).map fun sector =>
    (sector.toNat + 1) * h.sectorSize + i % h.sectorSize

/-- The file has the `k` bytes of the stream from byte `p` on. -/
def Present (h : Header) (image : ByteArray) (sectors : Array UInt32) (p k : Nat) : Prop :=
  ∀ i, p ≤ i → i < p + k → ∃ offset, h.streamOffset sectors i = some offset ∧ offset < image.size

/-- The data are the bytes of the stream from byte `p` on, as the file has them. -/
def Shows (h : Header) (image : ByteArray) (sectors : Array UInt32) (p : Nat) (data : ByteArray) :
    Prop :=
  ∀ j < data.size, ∃ offset, h.streamOffset sectors (p + j) = some offset ∧ offset < image.size ∧
    Bytes.byteAt data j = Bytes.byteAt image offset

/-- The bytes that a file has of a sector. -/
def payload (h : Header) (image : ByteArray) (sector : UInt32) : List UInt8 :=
  (image.extract (h.sectorOffset sector) (h.sectorOffset sector + h.sectorSize)).data.toList

/-- Byte `i` of the stream, as far as the file has it. -/
def streamByte (h : Header) (image : ByteArray) (sectors : Array UInt32) (i : Nat) : UInt8 :=
  ((h.streamOffset sectors i).map (Bytes.byteAt image)).getD 0

section Payload

variable {h : Header} {image : ByteArray}

theorem toList_of_shows {sectors : Array UInt32} {data : ByteArray}
    (hdata : h.Shows image sectors 0 data) :
    data.data.toList = (List.range data.size).map (h.streamByte image sectors) := by
  refine List.ext_getElem (by simp) fun j hj _ => ?_
  obtain ⟨offset, hoffset, -, hbyte⟩ := hdata j (by simpa using hj)
  rw [Nat.zero_add] at hoffset
  rw [Bytes.byteAt, dif_pos (by simpa using hj)] at hbyte
  simp only [List.getElem_map, List.getElem_range, streamByte, hoffset, Option.map_some,
    Option.getD_some, ← hbyte]
  rfl

/-- The first sector holds the first bytes. -/
theorem streamOffset_cons_of_lt {sector : UInt32} {units : List UInt32} {i : Nat}
    (hi : i < h.sectorSize) :
    h.streamOffset (sector :: units).toArray i = some (h.sectorOffset sector + i) := by
  rw [streamOffset, Nat.div_eq_of_lt hi, Nat.mod_eq_of_lt hi]
  rfl

/-- Behind the first sector the stream goes on in the sectors after it. -/
theorem streamOffset_cons_add (sector : UInt32) (units : List UInt32) (i : Nat) :
    h.streamOffset (sector :: units).toArray (h.sectorSize + i) =
      h.streamOffset units.toArray i := by
  rw [streamOffset, streamOffset, Nat.add_div_left i h.sectorSize_pos, Nat.add_mod_left]
  simp

theorem length_payload (h : Header) (image : ByteArray) (sector : UInt32) :
    (h.payload image sector).length =
      min h.sectorSize (image.size - h.sectorOffset sector) := by
  rw [payload, Array.length_toList, ← ByteArray.size, ByteArray.size_extract]
  omega

/-- As many bytes of a sector as the file has. -/
theorem take_payload {sector : UInt32} {k : Nat} (hk : k ≤ h.sectorSize)
    (hend : ∀ i < k, h.sectorOffset sector + i < image.size) :
    k ≤ (h.payload image sector).length ∧ (h.payload image sector).take k =
      (List.range k).map fun i => Bytes.byteAt image (h.sectorOffset sector + i) := by
  have hlength : k ≤ (h.payload image sector).length := by
    rw [length_payload]
    rcases Nat.eq_zero_or_pos k with rfl | hpos
    · exact Nat.zero_le _
    · have := hend (k - 1) (by omega)
      omega
  refine ⟨hlength, List.ext_getElem (by simpa using hlength) fun i hi hi' => ?_⟩
  have hbyte := hend i (by simpa using hi')
  simp only [List.getElem_take, List.getElem_map, List.getElem_range, payload, Bytes.byteAt,
    dif_pos hbyte]
  exact ByteArray.getElem_extract _

/-- The bytes of the stream that are in the first sector. -/
theorem take_payload_cons {sector : UInt32} {units : List UInt32} {size k : Nat} (hsize : k ≤ size)
    (hk : k ≤ h.sectorSize) (hpresent : h.Present image (sector :: units).toArray 0 size) :
    k ≤ (h.payload image sector).length ∧ (h.payload image sector).take k =
      (List.range k).map (h.streamByte image (sector :: units).toArray) := by
  have hend : ∀ i < k, h.sectorOffset sector + i < image.size := by
    intro i hi
    obtain ⟨offset, hoffset, hend⟩ := hpresent i (Nat.zero_le i) (by omega)
    rw [streamOffset_cons_of_lt (by omega)] at hoffset
    cases hoffset
    exact hend
  obtain ⟨hlength, htake⟩ := take_payload hk hend
  refine ⟨hlength, htake.trans (List.map_congr_left fun i hi => ?_)⟩
  rw [List.mem_range] at hi
  rw [streamByte, streamOffset_cons_of_lt (by omega)]
  rfl

theorem present_tail {sector : UInt32} {units : List UInt32} {k : Nat}
    (hpresent : h.Present image (sector :: units).toArray 0 (h.sectorSize + k)) :
    h.Present image units.toArray 0 k := by
  intro i _ hi
  obtain ⟨offset, hoffset, hend⟩ := hpresent (h.sectorSize + i) (Nat.zero_le _) (by omega)
  rw [streamOffset_cons_add] at hoffset
  exact ⟨offset, hoffset, hend⟩

/-- **The sectors of a stream, one behind the other and cut to its size, are its bytes.** -/
theorem take_flatMap_payload (units : List UInt32) {size : Nat}
    (hunits : size ≤ units.length * h.sectorSize)
    (hpresent : h.Present image units.toArray 0 size) :
    (units.flatMap (h.payload image)).take size =
      (List.range size).map (h.streamByte image units.toArray) := by
  induction units generalizing size with
  | nil =>
    obtain rfl : size = 0 := by simpa using hunits
    rfl
  | cons sector units ih =>
    rw [List.flatMap_cons, List.take_append]
    rcases Nat.le_total size h.sectorSize with hle | hge
    · -- All bytes are in the first sector, which the file need not have to its end.
      obtain ⟨hlength, htake⟩ := take_payload_cons (Nat.le_refl size) hle hpresent
      rw [htake, Nat.sub_eq_zero_of_le hlength, List.take_zero, List.append_nil]
    · obtain ⟨rest, rfl⟩ := Nat.exists_eq_add_of_le hge
      obtain ⟨hlength, htake⟩ := take_payload_cons hge (Nat.le_refl _) hpresent
      have hwhole : (h.payload image sector).length = h.sectorSize := by
        have := h.length_payload image sector
        omega
      have hrest : rest ≤ units.length * h.sectorSize := by
        rw [List.length_cons, Nat.succ_mul] at hunits
        omega
      rw [List.take_of_length_le (by omega)] at htake ⊢
      rw [hwhole, htake, Nat.add_sub_cancel_left, ih hrest (present_tail hpresent),
        List.range_add, List.map_append, List.map_map]
      congr 1
      refine List.map_congr_left fun i _ => ?_
      simp only [Function.comp_apply, streamByte, streamOffset_cons_add]

end Payload

end Header

/-! ## Cursors -/

/-- The reader behaves as a cursor at its position over the `size` bytes that the image holds in the
sectors. -/
structure StreamReader.IsCursor (h : Header) (image : ByteArray) (sectors : Array UInt32)
    (size : Nat) (r : StreamReader) : Prop where
  read_ok_iff : ∀ n, (∃ data after, r.read n = (.ok data, after)) ↔
    h.Present image sectors r.position (min n (size - r.position))
  read_ok : ∀ n data after, r.read n = (.ok data, after) →
    data.size = min n (size - r.position) ∧ h.Shows image sectors r.position data ∧
      after.position = r.position + min n (size - r.position)
  read_error : ∀ n e after, r.read n = (.error e, after) → ∃ fault, e = .carried (.format fault)
  readToEnd_ok_iff : (∃ data after, r.readToEnd = (.ok data, after)) ↔
    h.Present image sectors r.position (size - r.position)
  readToEnd_ok : ∀ data after, r.readToEnd = (.ok data, after) →
    data.size = size - r.position ∧ h.Shows image sectors r.position data ∧
      after.position = r.position + (size - r.position)
  readToEnd_error : ∀ e after, r.readToEnd = (.error e, after) → ∃ fault, e = .format fault
  seek_ok : ∀ t, 0 ≤ r.target t → r.target t < 2 ^ 64 →
    r.seek t = (.ok (r.target t).toNat, { r with position := (r.target t).toNat })
  seek_error : ∀ t, ¬(0 ≤ r.target t ∧ r.target t < 2 ^ 64) →
    ∃ e, r.seek t = (.error e, r) ∧ e.kind = .invalidInput
  target_start : ∀ p, r.target (.start p) = p.toNat
  target_fromEnd : ∀ d, r.target (.fromEnd d) = size + d.toInt
  target_fromCurrent : ∀ d, r.target (.fromCurrent d) = r.position + d.toInt

namespace StreamReader

/-- Reading to the end is one read of all that is left. -/
theorem readToEnd_eq_ok_iff {r after : StreamReader} {data : ByteArray} :
    r.readToEnd = (.ok data, after) ↔ r.read (r.size - r.position) = (.ok data, after) := by
  unfold readToEnd
  split
  next h => rw [h]; simp
  next h => rw [h]; simp

section Sectors

variable {r : StreamReader} (hsectors : r.storage = .sectors)
include hsectors

theorem origin_of_sectors (i : Nat) :
    r.origin i = r.allocation.header.streamOffset r.units i := by
  have hunit : r.unitSize = r.allocation.header.sectorSize := by
    rw [unitSize, hsectors]
    rfl
  unfold origin Header.streamOffset
  rw [hunit, hsectors]
  cases r.units[i / r.allocation.header.sectorSize]? <;> rfl

/-- In sectors a byte is served wherever the read began. -/
theorem serves_iff_of_sectors (hsound : r.source.medium.bad = none) {p i : Nat} :
    r.Serves p i ↔ ∃ offset, r.allocation.header.streamOffset r.units i = some offset ∧
      offset < r.source.medium.bytes.size := by
  rw [← origin_of_sectors hsectors]
  constructor
  · rintro ⟨⟨offset, horigin, hend, -⟩, -⟩
    exact ⟨offset, horigin, hend⟩
  · rintro ⟨offset, horigin, hend⟩
    exact ⟨⟨offset, horigin, hend, by simp [hsound]⟩, fun _ => admits_of_origin hsectors horigin⟩

theorem servesAll_iff_present (hsound : r.source.medium.bad = none) {p k : Nat} :
    r.ServesAll p k ↔
      r.allocation.header.Present r.source.medium.bytes r.units p k := by
  unfold ServesAll Header.Present
  simp only [serves_iff_of_sectors hsectors hsound]

theorem shows_bytes {p k : Nat}
    (h : r.allocation.header.Present r.source.medium.bytes r.units p k) :
    r.allocation.header.Shows r.source.medium.bytes r.units p (r.bytes p k) := by
  intro j hj
  rw [size_bytes] at hj
  obtain ⟨offset, hoffset, hend⟩ := h (p + j) (by omega) (by omega)
  refine ⟨offset, hoffset, hend, ?_⟩
  rw [byteAt_bytes r p hj, byte, origin_of_sectors hsectors, hoffset]
  rfl

theorem present_of_read (hsound : r.source.medium.bad = none) (n : Nat) :
    (∃ data after, r.read n = (.ok data, after)) ↔
      r.allocation.header.Present r.source.medium.bytes r.units r.position
        (min n (r.size - r.position)) := by
  rw [read_ok_iff, servesAll_iff_present hsectors hsound, quota]

theorem shows_of_read (hsound : r.source.medium.bad = none) {n : Nat} {data : ByteArray}
    {after : StreamReader} (h : r.read n = (.ok data, after)) :
    data.size = min n (r.size - r.position) ∧
      r.allocation.header.Shows r.source.medium.bytes r.units r.position data ∧
      after.position = r.position + min n (r.size - r.position) := by
  have hpresent := (present_of_read hsectors hsound n).1 ⟨data, after, h⟩
  obtain ⟨rfl, s, -, rfl⟩ := eq_of_read_ok h
  exact ⟨size_bytes _ _ _, shows_bytes hsectors hpresent, rfl⟩

/-- **A reader of a stream in sectors is a cursor.** -/
theorem isCursor_of_sectors (hsound : r.source.medium.bad = none) :
    r.IsCursor r.allocation.header r.source.medium.bytes r.units r.size := by
  have herror : ∀ n e after, r.read n = (.error e, after) →
      ∃ fault, e = .carried (.format fault) := by
    intro n e after h
    exact ReadError.format_of_justified hsound (justified_of_read h)
  exact {
    read_ok_iff := present_of_read hsectors hsound
    read_ok := fun _ _ _ => shows_of_read hsectors hsound
    read_error := herror
    readToEnd_ok_iff := by
      simp only [readToEnd_eq_ok_iff]
      rw [present_of_read hsectors hsound, Nat.min_self]
    readToEnd_ok := by
      intro data after h
      have := shows_of_read hsectors hsound (readToEnd_eq_ok_iff.1 h)
      rwa [Nat.min_self] at this
    readToEnd_error := by
      intro e after h
      unfold readToEnd at h
      split at h
      next => cases h
      next e' after' hfailed =>
        obtain ⟨fault, rfl⟩ := herror _ _ _ hfailed
        cases h
        exact ⟨fault, rfl⟩
    seek_ok := by
      intro t hle hlt
      unfold seek
      exact if_pos ⟨hle, hlt⟩
    seek_error := by
      intro t h
      unfold seek
      exact ⟨.invalidSeek, if_neg h, rfl⟩
    target_start := fun _ => rfl
    target_fromEnd := fun _ => rfl
    target_fromCurrent := fun _ => rfl }

end Sectors

/-! ## Commands -/

/-- What is left of a reader after a command or a script: the same stream, somewhere. -/
def MovedTo (r after : StreamReader) : Prop :=
  ∃ s p, s.medium = r.source.medium ∧ after = r.moved s p

theorem MovedTo.refl (r : StreamReader) : r.MovedTo r := ⟨r.source, r.position, rfl, rfl⟩

theorem MovedTo.trans {r r' r'' : StreamReader} (h : r.MovedTo r') (h' : r'.MovedTo r'') :
    r.MovedTo r'' := by
  obtain ⟨s, p, hs, rfl⟩ := h
  obtain ⟨s', p', hs', rfl⟩ := h'
  exact ⟨s', p', hs'.trans hs, rfl⟩

theorem read_moved (r : StreamReader) (n : Nat) : r.MovedTo (r.read n).2 := by
  obtain ⟨s, hs, ⟨-, heq⟩ | ⟨-, e, p, -, heq⟩⟩ := r.read_delivers n
  · rw [heq]
    exact ⟨s, _, hs, rfl⟩
  · rw [heq]
    exact ⟨s, p, hs, rfl⟩

theorem readExact_moved (r : StreamReader) (n : Nat) : r.MovedTo (r.readExact n).2 := by
  have hread := r.read_moved n
  unfold readExact
  split
  next h => rw [h] at hread; exact hread
  next => exact hread

theorem readToEnd_moved (r : StreamReader) : r.MovedTo r.readToEnd.2 := by
  have hread := r.read_moved (r.size - r.position)
  unfold readToEnd
  split
  next h => rw [h] at hread; exact hread
  next h => rw [h] at hread; exact hread

theorem seek_moved (r : StreamReader) (t : SeekTarget) : r.MovedTo (r.seek t).2 := by
  unfold seek
  dsimp only
  split
  · exact ⟨r.source, _, rfl, rfl⟩
  · exact ⟨r.source, r.position, rfl, rfl⟩

/-- A command moves the position and the source only. -/
theorem run_moved (c : StreamCommand) (r : StreamReader) : r.MovedTo (c.run r).2 := by
  cases c with
  | read n => exact r.read_moved n
  | readExact n => exact r.readExact_moved n
  | readToEnd => exact r.readToEnd_moved
  | seek t => exact r.seek_moved t
  | layout | text => exact .refl r

/-- So does a script. -/
theorem runAll_moved (script : List StreamCommand) (r : StreamReader) :
    r.MovedTo (StreamCommand.runAll script r).2 := by
  induction script generalizing r with
  | nil => exact .refl r
  | cons c script ih => exact (run_moved c r).trans (ih _)

end StreamReader

/-! ## Readers of an open file -/

/-- The chain of a stream in sectors is the first part of a chain of the FAT. -/
theorem Allocation.chainOf_eq_ok_iff {a : Allocation} {e : Directory.Entry} {units : List UInt32}
    (hstorage : a.storageOf e = .sectors) :
    a.chainOf e = .ok units ↔
      a.fat.resolvePrefix e.startSector (ceilDiv e.size.toNat a.header.sectorSize) = .ok units := by
  unfold chainOf
  simp only [hstorage]
  exact mapError_eq_ok_iff

/-- A quotient rounded up is the least number of units that is enough. -/
theorem ceilDiv_le_iff {d : Nat} (hd : 0 < d) {n k : Nat} : ceilDiv n d ≤ k ↔ n ≤ k * d := by
  unfold ceilDiv
  rw [Nat.div_le_iff_le_mul_add_pred hd, Nat.mul_comm]
  omega

theorem le_ceilDiv_mul {d : Nat} (hd : 0 < d) (n : Nat) : n ≤ ceilDiv n d * d :=
  (ceilDiv_le_iff hd).1 (Nat.le_refl _)

/-! ## The reader of a torn stream -/

namespace Sample

/-- The reader of the torn stream, at its beginning. -/
def tornReader (source : Source) : StreamReader :=
  ⟨source, tornContents.allocation, .sectors, #[2, 3], 600, 0⟩

theorem reader_torn (source : Source) :
    Session.reader ⟨⟨false, .ascii⟩, some ⟨tornContents, source⟩⟩ (.sid 1) =
      .ok (tornReader source) := by
  have hmake : StreamReader.make source tornContents.allocation torn = .ok (tornReader source) :=
    StreamReader.make_eq_ok_iff.2 ⟨Or.inl rfl, [2, 3], by decide +kernel, rfl⟩
  exact hmake

/-- The two sectors of the torn stream stand one behind the other. -/
theorem streamOffset_torn {i : Nat} (hi : i < 1024) :
    tornHeader.streamOffset #[2, 3] i = some (1536 + i) := by
  by_cases hfirst : i < 512
  · exact Header.streamOffset_cons_of_lt hfirst
  · obtain ⟨j, rfl⟩ := Nat.exists_eq_add_of_le (Nat.not_lt.1 hfirst)
    have hsecond : j < tornHeader.sectorSize := show j < 512 by omega
    have hplace : tornHeader.streamOffset #[3] j = some (2048 + j) :=
      Header.streamOffset_cons_of_lt hsecond
    rw [← Nat.add_assoc]
    exact (Header.streamOffset_cons_add 2 [3] j).trans hplace

end Sample

/-! ## Streams of an open file -/

namespace Session

/-- The readers of an open file are made from what loading yields, on one source of the same
medium. -/
theorem exists_reader_eq_make {options : OpenOptions} {source : Source} {s : Session} {c : Contents}
    (hopen : (Session.new options).openSource source = (.ok (), s)) (hc : s.contents = .ok c) :
    ∃ source', source'.medium = source.medium ∧ ∀ l i, s.item l = .ok i →
      s.reader l = StreamReader.make source' c.allocation i.entry := by
  obtain ⟨f, rfl, hmedium, -⟩ := opened hopen
  cases hc
  refine ⟨f.source, hmedium, fun l i hitem => ?_⟩
  unfold reader
  rw [hitem]
  rfl

theorem reader_of_opened {options : OpenOptions} {source : Source} {s : Session} {c : Contents}
    {l : Locator} {i : Item} {r : StreamReader}
    (hopen : (Session.new options).openSource source = (.ok (), s)) (hc : s.contents = .ok c)
    (hitem : s.item l = .ok i) (hreader : s.reader l = .ok r) :
    ∃ source', source'.medium = source.medium ∧
      StreamReader.make source' c.allocation i.entry = .ok r := by
  obtain ⟨source', hmedium, hmake⟩ := exists_reader_eq_make hopen hc
  exact ⟨source', hmedium, (hmake l i hitem).symm.trans hreader⟩

theorem readToEnd_of_readStream {s s' : Session} {l : Locator} {r : StreamReader}
    {data : ByteArray} (hreader : s.reader l = .ok r) (hread : s.readStream l = (.ok data, s')) :
    ∃ after, r.readToEnd = (.ok data, after) := by
  unfold readStream withStream at hread
  simp only [hreader] at hread
  have hresult : r.readToEnd.1 = .ok data := congrArg Prod.fst hread
  exact ⟨r.readToEnd.2, Prod.ext hresult rfl⟩

/-- **A stream in sectors is a cursor.** The reader of an entry that is kept in sectors (the root,
or one that reaches the cutoff) has as many sectors as its size needs, and wherever it stands it is
a cursor over the bytes that the file holds in them. When the whole stream is read, it is these
sectors one behind the other, cut to the size. -/
theorem sectors_refine_cursor {options : OpenOptions} {source : Source} {s : Session} {c : Contents}
    {l : Locator} {i : Item} {r : StreamReader} (hsound : source.medium.bad = none)
    (hopen : (Session.new options).openSource source = (.ok (), s)) (hc : s.contents = .ok c)
    (hitem : s.item l = .ok i)
    (hkept : i.entry.type = .root ∨ c.header.miniStreamCutoff.toNat ≤ i.entry.size.toNat)
    (hreader : s.reader l = .ok r) :
    r.size = i.entry.size.toNat ∧
      r.units.size = ceilDiv i.entry.size.toNat c.header.sectorSize ∧
      c.fat.resolvePrefix i.entry.startSector r.units.size = .ok r.units.toList ∧
      (∀ r', r.MovedTo r' →
        r'.IsCursor c.header source.medium.bytes r.units i.entry.size.toNat) ∧
      (∀ script, r.MovedTo (StreamCommand.runAll script r).2) ∧
      ∀ data s', s.readStream l = (.ok data, s') →
        data.size = i.entry.size.toNat ∧
          c.header.Shows source.medium.bytes r.units 0 data ∧
          data.data.toList =
            (r.units.toList.flatMap (c.header.payload source.medium.bytes)).take
              i.entry.size.toNat := by
  obtain ⟨source', hmedium, hmake⟩ := reader_of_opened hopen hc hitem hreader
  obtain ⟨-, units, hunits, hr⟩ := StreamReader.make_eq_ok_iff.1 hmake
  have hstorage : c.allocation.storageOf i.entry = .sectors := by
    unfold Allocation.storageOf
    refine if_neg fun ⟨htype, hsize⟩ => ?_
    rcases hkept with hroot | hcutoff
    · exact htype hroot
    · exact absurd hsize (Nat.not_lt.2 hcutoff)
  have hprefix := (Allocation.chainOf_eq_ok_iff hstorage).1 hunits
  have hlength := AllocationTable.length_of_resolvePrefix hprefix
  have hcursor : ∀ r', r.MovedTo r' →
      r'.IsCursor c.header source.medium.bytes r.units i.entry.size.toNat := by
    rintro r' ⟨s', p, hs', rfl⟩
    have hsame : (r.moved s' p).source.medium = source.medium := by
      rw [← hmedium, show source'.medium = r.source.medium by rw [hr]]
      exact hs'
    have hsectors : (r.moved s' p).storage = .sectors := by
      rw [← hstorage, hr]
      rfl
    have := StreamReader.isCursor_of_sectors hsectors (by rw [hsame]; exact hsound)
    rw [hsame, hr] at this
    rw [hr]
    exact this
  refine ⟨by rw [hr], by rw [hr]; exact hlength, ?_, hcursor,
    fun script => StreamReader.runAll_moved script r, ?_⟩
  · rw [hr]
    show c.fat.resolvePrefix i.entry.startSector units.toArray.size = .ok units
    rw [List.size_toArray, hlength]
    exact hprefix
  · intro data s' hread
    obtain ⟨after, hend⟩ := readToEnd_of_readStream hreader hread
    have hposition : r.position = 0 := by rw [hr]
    have hfull := hcursor r (.refl r)
    obtain ⟨hsize, hshows, -⟩ := hfull.readToEnd_ok data after hend
    have hpresent := hfull.readToEnd_ok_iff.1 ⟨data, after, hend⟩
    rw [hposition, Nat.sub_zero] at hsize hpresent
    rw [hposition] at hshows
    refine ⟨hsize, hshows, ?_⟩
    rw [Header.toList_of_shows hshows, hsize, Header.take_flatMap_payload r.units.toList _ hpresent,
      Array.toArray_toList]
    rw [Array.length_toList, hr, List.size_toArray, hlength]
    exact le_ceilDiv_mul c.header.sectorSize_pos _

/-- The torn stream has two sectors, and the file has 40 bytes of the second. A read of 52 bytes at
position 500 gets the last 12 bytes of the first sector and these 40. -/
theorem sectors_refine_cursor_torn :
    ∃ s r, (Session.new ⟨false, .ascii⟩).openSource
        (.ofMedium (.ofList Sample.tornBytes) .steady) = (.ok (), s) ∧
      s.reader (.sid 1) = .ok r ∧ r.units = #[2, 3] ∧
      r.IsCursor Sample.tornHeader (Bytes.ofList Sample.tornBytes) #[2, 3] 600 ∧
      ∃ data after, (r.moved r.source 500).read 52 = (.ok data, after) ∧ data.size = 52 ∧
        after.position = 552 ∧
        ∀ j < 52, Bytes.byteAt data j = Bytes.byteAt (Bytes.ofList Sample.tornBytes) (2036 + j) := by
  obtain ⟨source, hmedium, hopen⟩ := Sample.openSource_torn
  have hkept : Sample.tornContents.header.miniStreamCutoff.toNat ≤ Sample.torn.size.toNat := by
    decide
  obtain ⟨-, -, -, hcursor, -⟩ := sectors_refine_cursor
    (i := ⟨Sample.tornContents.tree, Sample.torn⟩) (l := .sid 1) rfl hopen rfl rfl (Or.inr hkept)
    (Sample.reader_torn source)
  have hmoved := hcursor _ ⟨source, 500, rfl, rfl⟩
  have hend : (Bytes.ofList Sample.tornBytes).size = 2088 := by
    rw [Bytes.size_ofList, Sample.length_tornBytes]
  have hpresent : Sample.tornHeader.Present (Bytes.ofList Sample.tornBytes) #[2, 3] 500 52 := by
    intro i _ hi
    exact ⟨1536 + i, Sample.streamOffset_torn (by omega), by omega⟩
  obtain ⟨data, after, hread⟩ := (hmoved.read_ok_iff 52).2 hpresent
  obtain ⟨hsize, hshows, hposition⟩ := hmoved.read_ok 52 data after hread
  refine ⟨_, _, hopen, Sample.reader_torn source, rfl, hcursor _ (.refl _), data, after, hread,
    hsize, hposition, fun j hj => ?_⟩
  obtain ⟨offset, hoffset, -, hbyte⟩ := hshows j (Nat.lt_of_lt_of_eq hj hsize.symm)
  have hplace : Sample.tornHeader.streamOffset #[2, 3] (500 + j) = some offset := hoffset
  rw [Sample.streamOffset_torn (by omega)] at hplace
  obtain rfl := Option.some.inj hplace
  rw [hbyte]
  exact congrArg _ (by omega)

end Session

end CompoundFile
