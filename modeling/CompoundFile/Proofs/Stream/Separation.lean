import CompoundFile.Proofs.Stream.AddressMap
import CompoundFile.Proofs.Stream.Extent

/-!
# No two bytes of a stream are at one place

Every byte of a stream has a place of its own in the file, and none is in the sector of the header.

**Units and rests.** A position is a number of whole units and a rest. The units of a stream are
different, so the unit that a byte is in says how many units are before it, and the rest is how far
into the unit it is (`eq_of_units`). For a stream in sectors this is the argument. A stream in short
sectors is laid out in the mini stream and the mini stream in the file, and the argument is made
once for short sectors and once for sectors.

**Damaged files.** Nothing is assumed of the tables. A chain that resolves has different units
whatever the table says (`StreamReader.Resolved`), but it may go on behind the mini stream, where a
position has no place (`StreamReader.Backed`).

Main result: `positions_apart`.
-/

namespace CompoundFile

/-! ## Units and rests -/

/-- With different units, the place in a unit says which byte it is. -/
theorem eq_of_units {units : Array UInt32} (hunits : units.toList.Nodup) {d : Nat} (hd : 0 < d)
    {i j : Nat} {s t : UInt32} (hs : units[i / d]? = some s) (ht : units[j / d]? = some t)
    (hplace : s.toNat * d + i % d = t.toNat * d + j % d) : i = j := by
  have hsplit : ∀ a b : Nat, (a * d + b % d) / d = a ∧ (a * d + b % d) % d = b % d := by
    intro a b
    apply (Nat.div_mod_unique hd).2
    exact ⟨by rw [Nat.mul_comm, Nat.add_comm], Nat.mod_lt b hd⟩
  have hunit : s.toNat = t.toNat := by
    rw [← (hsplit s.toNat i).1, hplace, (hsplit t.toNat j).1]
  have hrest : i % d = j % d := by
    rw [← (hsplit s.toNat i).2, hplace, (hsplit t.toNat j).2]
  obtain rfl := UInt32.toNat_inj.1 hunit
  have hbefore : i / d = j / d := by
    rw [← Array.getElem?_toList] at hs ht
    obtain ⟨hlt, -⟩ := List.getElem?_eq_some_iff.1 hs
    exact (List.getElem?_inj hlt hunits).1 (hs.trans ht.symm)
  rw [← Nat.div_add_mod i d, hbefore, hrest, Nat.div_add_mod]

namespace Header

variable {h : Header} {sectors : Array UInt32} {i j offset : Nat}

/-- The sector of the header is before all others. -/
theorem sectorSize_le_of_streamOffset (hi : h.streamOffset sectors i = some offset) :
    h.sectorSize ≤ offset := by
  obtain ⟨s, -, rfl⟩ := Option.map_eq_some_iff.1 hi
  rw [Nat.succ_mul]
  omega

/-- Different sectors hold different bytes. -/
theorem eq_of_streamOffset (hsectors : sectors.toList.Nodup)
    (hi : h.streamOffset sectors i = some offset) (hj : h.streamOffset sectors j = some offset) :
    i = j := by
  obtain ⟨s, hs, rfl⟩ := Option.map_eq_some_iff.1 hi
  obtain ⟨t, ht, hplace⟩ := Option.map_eq_some_iff.1 hj
  apply eq_of_units hsectors h.sectorSize_pos hs ht
  rw [Nat.succ_mul, Nat.succ_mul] at hplace
  omega

end Header

/-! ## Resolved streams -/

namespace StreamReader

/-- The units of the stream are different and enough for its size, and so are the sectors of the
mini stream. -/
structure Resolved (r : StreamReader) : Prop where
  nodup : r.units.toList.Nodup
  covered : r.Covered
  mini : ∀ m, r.allocation.mini = some m → m.Resolved r.allocation.header

/-- Position `i` is in the stream, and in short sectors it is also in the mini stream. -/
def Backed (r : StreamReader) (i : Nat) : Prop :=
  i < r.size ∧ (r.storage = .shortSectors →
    ∃ m unit, r.allocation.mini = some m ∧ r.units[i / 64]? = some unit ∧
      unit.toNat * 64 + i % 64 < m.size.toNat)

variable {r : StreamReader} {i j offset : Nat}

/-- A byte of a short sector has the place of a byte of the mini stream. -/
theorem streamOffset_of_origin (hstorage : r.storage = .shortSectors)
    (hi : r.origin i = some offset) :
    ∃ m unit, r.allocation.mini = some m ∧ r.units[i / 64]? = some unit ∧
      r.allocation.header.streamOffset m.sectors (unit.toNat * 64 + i % 64) = some offset := by
  cases hmini : r.allocation.mini with
  | none =>
    obtain ⟨unit, -, hplace⟩ := Option.bind_eq_some_iff.1 hi
    rw [hstorage, Allocation.origin, hmini] at hplace
    cases hplace
  | some m =>
    rw [origin_of_shortSectors hstorage hmini] at hi
    obtain ⟨unit, hunit, hplace⟩ := Option.bind_eq_some_iff.1 hi
    rw [MiniStream.origin_eq, MiniStream.offsetOf, Header.shortSectorSize_eq] at hplace
    exact ⟨m, unit, rfl, hunit, hplace⟩

theorem sectorSize_le_of_origin (hi : r.origin i = some offset) :
    r.allocation.header.sectorSize ≤ offset := by
  cases hstorage : r.storage with
  | sectors =>
    rw [origin_of_sectors hstorage] at hi
    exact Header.sectorSize_le_of_streamOffset hi
  | shortSectors =>
    obtain ⟨m, unit, -, -, hplace⟩ := streamOffset_of_origin hstorage hi
    exact Header.sectorSize_le_of_streamOffset hplace

namespace Resolved

variable (hr : r.Resolved)
include hr

/-- **Different bytes are at different places.** -/
theorem eq_of_origin (hi : r.origin i = some offset) (hj : r.origin j = some offset) : i = j := by
  cases hstorage : r.storage with
  | sectors =>
    rw [origin_of_sectors hstorage] at hi hj
    exact Header.eq_of_streamOffset hr.nodup hi hj
  | shortSectors =>
    obtain ⟨m, s, hmini, hs, hplace⟩ := streamOffset_of_origin hstorage hi
    obtain ⟨m', t, hmini', ht, hplace'⟩ := streamOffset_of_origin hstorage hj
    obtain rfl := Option.some.inj (hmini.symm.trans hmini')
    have haddress : s.toNat * 64 + i % 64 = t.toNat * 64 + j % 64 :=
      Header.eq_of_streamOffset (hr.mini m hmini).nodup hplace hplace'
    exact eq_of_units hr.nodup (by decide) hs ht haddress

/-- A position that is backed has a place, and a portion may begin there. -/
theorem located_of_backed (hi : r.Backed i) : r.Admits i ∧ ∃ offset, r.origin i = some offset := by
  obtain ⟨hlt, hshort⟩ := hi
  cases hstorage : r.storage with
  | sectors =>
    obtain ⟨unit, hunit⟩ := hr.covered i hlt
    obtain ⟨offset, hoffset⟩ : ∃ offset, r.origin i = some offset := by
      unfold origin
      rw [hunit, hstorage]
      exact ⟨_, rfl⟩
    exact ⟨admits_of_origin hstorage hoffset, offset, hoffset⟩
  | shortSectors =>
    obtain ⟨m, unit, hmini, hunit, haddress⟩ := hshort hstorage
    refine ⟨(admits_iff_of_shortSectors hstorage hmini).2 ⟨unit, hunit, haddress⟩, ?_⟩
    rw [origin_of_shortSectors hstorage hmini, hunit, Option.bind_some, MiniStream.origin_eq,
      MiniStream.offsetOf, Header.shortSectorSize_eq]
    apply Header.exists_streamOffset
    exact Nat.lt_of_lt_of_le haddress (hr.mini m hmini).enough

end Resolved

/-- Moving a reader does not change its stream. -/
theorem Resolved.of_movedTo {r' : StreamReader} (hr : r.Resolved) (h : r.MovedTo r') :
    r'.Resolved ∧ r'.allocation = r.allocation := by
  have hcovered := hr.covered.of_movedTo h
  obtain ⟨source, position, -, rfl⟩ := h
  exact ⟨⟨hr.nodup, hcovered, hr.mini⟩, rfl⟩

end StreamReader

namespace Contents.LoadedFrom

variable {m : Medium} {options : OpenOptions} {c : Contents} (h : c.LoadedFrom m options)
include h

theorem mini_resolved {mini : MiniStream} (hmini : c.mini = some mini) :
    mini.Resolved c.header := by
  obtain ⟨root, -, hsize, -, hresolve⟩ := h.mini_eq hmini
  exact MiniStream.resolved_of_resolvePrefix hsize hresolve

theorem reader_resolved {source : Source} {e : Directory.Entry} {r : StreamReader}
    (hmake : StreamReader.make source c.allocation e = .ok r) :
    r.Resolved ∧ r.allocation = c.allocation := by
  have hcovered := StreamReader.covered_of_make hmake
  obtain ⟨-, units, hunits, rfl⟩ := StreamReader.make_eq_ok_iff.1 hmake
  obtain ⟨hnodup, -⟩ := Allocation.units_of_chainOf hunits
  exact ⟨⟨hnodup, hcovered, fun mini hmini => h.mini_resolved hmini⟩, rfl⟩

end Contents.LoadedFrom

/-! ## Readers of an open file -/

/-- **A stream never maps two positions to one byte.** Whatever a client did before, and wherever a
reader of an open file was moved: every position of the stream, in short sectors every one within
the mini stream, is located at an offset in the file, and every read over the position takes its
byte from there. An offset is the origin of the position, no origin is in the sector of the header,
and different positions have different origins, also behind the mini stream or the size. -/
theorem Client.positions_apart {options : OpenOptions} {steps : List Step} {c : Client}
    {f : OpenFile} {l : Session.Locator} {r r' : StreamReader}
    (hrun : ((Client.new options).runAll steps).2 = c) (hopen : c.session.file? = some f)
    (hreader : c.session.reader l = .ok r) (hmoved : r.MovedTo r') :
    (∀ i, r'.Backed i → ∃ offset left,
      (r'.moved r'.source i).locate = .ok (offset, left) ∧ r'.TakesFrom i offset) ∧
    (∀ i offset left, (r'.moved r'.source i).locate = .ok (offset, left) →
      r'.origin i = some offset) ∧
    (∀ i offset, r'.origin i = some offset → f.contents.header.sectorSize ≤ offset) ∧
    ∀ i j offset, r'.origin i = some offset → r'.origin j = some offset → i = j := by
  have hloaded := loadedFrom_of_runAll hrun hopen
  obtain ⟨i, f', -, hopen', hmake⟩ := Session.make_of_reader hreader
  obtain rfl : f = f' := Option.some.inj (hopen.symm.trans hopen')
  obtain ⟨hr, hallocation⟩ := hloaded.reader_resolved hmake
  obtain ⟨hr', hsame⟩ := hr.of_movedTo hmoved
  rw [hallocation] at hsame
  refine ⟨?_, ?_, ?_, fun _ _ _ => hr'.eq_of_origin⟩
  · intro i hi
    obtain ⟨hadmits, offset, horigin⟩ := hr'.located_of_backed hi
    obtain ⟨left, hlocate⟩ := StreamReader.locate_moved hadmits horigin
    exact ⟨offset, left, hlocate, StreamReader.takesFrom_of_origin horigin⟩
  · intro i offset left hlocate
    obtain ⟨-, horigin, -⟩ := StreamReader.locate_eq_ok_iff.1 hlocate
    exact horigin
  · intro i offset horigin
    have hle := StreamReader.sectorSize_le_of_origin horigin
    rwa [hsame] at hle

/-- The stream of the sample in short sector 1. Its position 5 is at byte 69 of sector 3, and no
other position is there. -/
theorem Client.positions_apart_sample :
    ∃ c f r, ((Client.new ⟨false, .ascii⟩).runAll [.command (.openSource Sample.source)]).2 = c ∧
      c.session.file? = some f ∧ c.session.reader (.sid 1) = .ok r ∧
      r.storage = .shortSectors ∧ r.Backed 5 ∧ r.origin 5 = some 2117 ∧
      f.contents.header.sectorSize ≤ 2117 ∧ ∀ i, r.origin i = some 2117 → i = 5 := by
  obtain ⟨source', hrun⟩ := Sample.exists_runAll (s := Sample.source) rfl
  have hreader : StreamReader.make source' Sample.contents.allocation Sample.short =
      .ok ⟨source', Sample.contents.allocation, .shortSectors, #[1], 64, 0⟩ :=
    StreamReader.make_eq_ok_iff.2 ⟨Or.inl rfl, [1], by decide +kernel, rfl⟩
  obtain ⟨-, -, hbehind, happart⟩ :=
    Client.positions_apart (l := .sid 1) hrun rfl hreader (.refl _)
  have hplace : Sample.header.streamOffset #[3] 69 = some 2117 := by decide
  have horigin : (⟨source', Sample.contents.allocation, .shortSectors, #[1], 64, 0⟩ :
      StreamReader).origin 5 = some 2117 := by
    have hunit : #[(1 : UInt32)][5 / 64]? = some 1 := rfl
    rw [StreamReader.origin_of_shortSectors rfl rfl, hunit, Option.bind_some, MiniStream.origin_eq]
    exact hplace
  have hlt : 5 < 64 ∧ (1 : UInt32).toNat * 64 + 5 % 64 < Sample.root.size.toNat := by decide
  exact ⟨_, _, _, hrun, rfl, hreader, rfl, ⟨hlt.1, fun _ => ⟨_, 1, rfl, rfl, hlt.2⟩⟩, horigin,
    hbehind 5 2117 horigin, fun i hi => happart i 5 2117 hi horigin⟩

end CompoundFile
