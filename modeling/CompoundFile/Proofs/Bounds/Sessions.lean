import CompoundFile.Proofs.Bounds.Entries
import CompoundFile.Proofs.Stream.Extent

/-!
# No access is out of range

Whatever the bytes of a file are and whatever is done with it, no table, set or list is used at a
place that it does not have. What is used while a file is loaded was compared with checked programs;
here it is put together with what is used afterwards, when a session is open.

**Readers.** A reader has as many units as its size needs, also after it was moved, so there is a
unit for every position below its size, and reading never misses one (`readInto_ne_noSector`).

Main result: `Client.accesses_in_range`.
-/

namespace CompoundFile

theorem Allocation.place_ne_noSector (a : Allocation) {storage : Storage} (unit : UInt32)
    {within : Nat} (hw : within < a.unitSize storage) (p : Nat) :
    a.place storage unit within hw ≠ .error (.noSector p) := by
  unfold place
  cases storage with
  | sectors => rintro ⟨⟩
  | shortSectors =>
    dsimp only
    split <;> rintro ⟨⟩

namespace StreamReader

theorem locate_ne_noSector {r : StreamReader} (h : r.Covered) (hlt : r.position < r.size)
    (p : Nat) : r.locate ≠ .error (.noSector p) := by
  obtain ⟨unit, hunit⟩ := h r.position hlt
  have hplace := r.allocation.place_ne_noSector unit r.within_lt p
  unfold locate
  simp only [hunit]
  exact fun hfailed => hplace (map_eq_error_iff.1 hfailed)

/-- **Reading never misses a unit.** -/
theorem readInto_ne_noSector {r : StreamReader} (h : r.Covered) (got : ByteArray) (wanted p : Nat)
    (after : StreamReader) :
    r.readInto got wanted ≠ (.error (.carried (.format (.noSector p))), after) := by
  induction wanted using Nat.strongRecOn generalizing got r with
  | ind wanted ih =>
    by_cases hmore : 0 < wanted ∧ r.position < r.size
    · have hpos := portion_pos hmore
      cases hlocate : r.locate with
      | error fault =>
        have hfault := locate_ne_noSector h hmore.2 p
        rw [readInto_of_locate_error got hmore hlocate]
        rintro ⟨⟩
        exact hfault hlocate
      | ok found =>
        obtain ⟨hadmits, horigin, -⟩ := locate_eq_ok_iff.1 hlocate
        rw [readInto_of_locate got hmore hlocate]
        obtain ⟨s, -, ⟨-, hrun⟩ | ⟨-, ⟨fault, hrun, -⟩ | ⟨b, hrun, hshort⟩⟩⟩ :=
          readAt_portion hpos (r.portion_le wanted) hadmits horigin
        · rw [hrun]
          simp only [size_bytes, Nat.lt_irrefl, if_false]
          exact ih _ (by omega) (r := r.moved s _) h _
        · rw [hrun]
          rintro ⟨⟩
        · rw [hrun]
          simp only [hshort, if_true]
          rintro ⟨⟩
    · rw [readInto, dif_neg hmore]
      rintro ⟨⟩

end StreamReader

/-- **No access is out of range.** A walk along a chain marks sectors of its table only, the walk
along the DIFAT marks sectors of the file only, and a sector that is read has all its words.
Decoding a directory takes entries by number only where there are some. When a client has a file
open, after any steps, every item has an entry, finding a child takes entries that exist, and a
reader of a stream, wherever it was moved, has a unit for every position below its size, so no read
fails for want of one. -/
theorem Client.accesses_in_range (options : OpenOptions) (steps : List Client.Step) :
    (∀ (t : AllocationTable) (w : Walker t), w.nextChecked = some w.next) ∧
    (∀ h count sector found, Fat.followDifatChecked h count sector 0 (Marks.clear count) found =
      some <$> Fat.followDifat h count sector [] found) ∧
    (∀ (h : Header) count sector source data source',
      (h.readSector count sector).run source = (.ok data, source') →
        (Bytes.words32 data).size = h.entriesPerSector) ∧
    (∀ data major strict, Directory.Tree.parseChecked data major strict =
      some (Directory.Tree.parse data major strict)) ∧
    ∀ c f, ((Client.new options).runAll steps).2 = c → c.session.file? = some f →
      (∀ n, f.contents.tree.HasItem n → ∃ e, f.contents.tree.entry? n = some e) ∧
      (∀ parent name, f.contents.tree.findChildChecked parent name =
        some (f.contents.tree.findChild parent name)) ∧
      ∀ l r, c.session.reader l = .ok r → ∀ r', r.MovedTo r' →
        (r'.position < r'.size →
          ∃ unit, r'.units[r'.position / r'.unitSize]? = some unit) ∧
        ∀ n p after, r'.read n ≠ (.error (.carried (.format (.noSector p))), after) := by
  refine ⟨fun t w => w.nextChecked_eq, fun h count sector found => ?_,
    fun h count sector source data source' hread => h.size_words32_of_readSector hread,
    Directory.Tree.parseChecked_eq, fun c f hrun hopen => ?_⟩
  · exact Fat.followDifatChecked_eq h count sector [] _ found fun s => by simp
  have hsound : c.Sound (fun _ => True) options.strict := by
    rw [← hrun]
    exact sound_runAll steps (sound_new options) fun _ _ _ _ => trivial
  have hloaded := Contents.loadedFrom_of_yields (hsound.loaded f hopen)
  obtain ⟨data, hparse⟩ := Contents.exists_parse_of_yields_loadDirectory hloaded.directory
  obtain ⟨hshaped, -⟩ := Directory.shaped_of_parse hparse
  refine ⟨fun n hn => Directory.Tree.exists_entry_of_hasItem hshaped hn,
    Directory.Tree.findChildChecked_eq hshaped, fun l r hreader r' hmoved => ?_⟩
  obtain ⟨i, _, -, -, hmake⟩ := Session.make_of_reader hreader
  have hcovered := (StreamReader.covered_of_make hmake).of_movedTo hmoved
  exact ⟨hcovered _, fun n p after => StreamReader.readInto_ne_noSector hcovered _ n p after⟩

/-- The stream `T` of the sample has an entry and a sector. -/
theorem Client.accesses_in_range_sample :
    ∃ c f r, ((Client.new ⟨false, .ascii⟩).runAll [.command (.openSource Sample.source)]).2 = c ∧
      c.session.file? = some f ∧ c.session.reader (.sid 2) = .ok r ∧ r.position < r.size ∧
      (∃ unit, r.units[r.position / r.unitSize]? = some unit) ∧
      f.contents.tree.HasItem 2 ∧ ∃ e, f.contents.tree.entry? 2 = some e := by
  obtain ⟨source', -, hopened⟩ := Sample.openSource_eq
  have hrun : ((Client.new ⟨false, .ascii⟩).runAll [.command (.openSource Sample.source)]).2 =
      ⟨⟨⟨false, .ascii⟩, some ⟨Sample.contents, source'⟩⟩, none⟩ := by
    rw [Client.runAll_openSource hopened]
  have hreader : StreamReader.make source' Sample.contents.allocation Sample.long =
      .ok ⟨source', Sample.contents.allocation, .sectors, #[4], 70, 0⟩ :=
    StreamReader.make_eq_ok_iff.2 ⟨Or.inl rfl, [4], by decide +kernel, rfl⟩
  have hitem : Sample.contents.tree.HasItem 2 := .number rfl
  obtain ⟨-, -, -, -, hopen⟩ := Client.accesses_in_range ⟨false, .ascii⟩
    [.command (.openSource Sample.source)]
  obtain ⟨hentry, -, hcovered⟩ := hopen _ _ hrun rfl
  have hlt : 0 < 70 := by decide
  obtain ⟨hunit, -⟩ := hcovered (.sid 2) _ hreader _ (.refl _)
  exact ⟨_, _, _, hrun, rfl, hreader, hlt, hunit hlt, hitem, hentry 2 hitem⟩

end CompoundFile
