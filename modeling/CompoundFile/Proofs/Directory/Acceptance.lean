import CompoundFile.Proofs.Directory.Records
import CompoundFile.Source

/-!
# Which directories are accepted

A directory is accepted when it has a record, all names have admissible lengths, one record is the
root, and the links that are followed from the root lead to usable entries of their own
(`Acceptable`). All of this is said of the bytes of the records. The version of the file and
strictness do not matter.

Main result: `parse_exact`.
-/

namespace CompoundFile.Directory

/-! ## The root -/

theorem filter_range_eq_singleton_iff {n i : Nat} {p : Nat → Bool} :
    (List.range n).filter p = [i] ↔ i < n ∧ ∀ j < n, p j = true ↔ j = i := by
  constructor
  · intro h
    have hmem : ∀ j, j < n ∧ p j = true ↔ j = i := by
      intro j
      rw [← List.mem_range, ← List.mem_filter, h, List.mem_singleton]
    exact ⟨((hmem i).2 rfl).1, fun j hj => ⟨fun hp => (hmem j).1 ⟨hj, hp⟩, fun heq =>
      ((hmem j).2 heq).2⟩⟩
  · rintro ⟨hi, h⟩
    refine List.perm_singleton.1 ((List.perm_ext_iff_of_nodup
      (List.nodup_range.filter p) (List.nodup_singleton i)).2 fun j => ?_)
    rw [List.mem_filter, List.mem_range, List.mem_singleton]
    exact ⟨fun ⟨hj, hp⟩ => (h j hj).1 hp, fun heq => ⟨heq ▸ hi, (h j (heq ▸ hi)).2 heq⟩⟩

theorem findRoot_eq_ok_iff {es : List Entry} {root : UInt32} :
    Tree.findRoot es = .ok root ↔ (es.filter (·.type = .root)).map (·.sid) = [root] := by
  unfold Tree.findRoot
  cases es.filter (·.type = .root) with
  | nil => simp
  | cons e rest => cases rest <;> simp

/-- The root is the number of the only record of its type. -/
theorem Decodes.findRoot_eq_ok_iff {data : ByteArray} {major : UInt16} {es : List Entry}
    {root : UInt32} (h : Decodes data major es) :
    Tree.findRoot es = .ok root ↔ ∃ i < recordCount data,
      (∀ j < recordCount data, typeAt data j = .root ↔ j = i) ∧ UInt32.ofNat i = root := by
  have hrecords : es.map (fun e => (e.sid, e.type)) =
      (List.range (recordCount data)).map fun i => (UInt32.ofNat i, typeAt data i) := by
    refine List.ext_getElem (by simp [h.length_eq]) fun i hi _ => ?_
    have hlt : i < es.length := by simpa using hi
    simp [h.sid_eq hlt, h.type_eq hlt]
  have hfilter : (es.filter (·.type = .root)).map (·.sid) =
      ((List.range (recordCount data)).filter (typeAt data · = .root)).map UInt32.ofNat := by
    have := congrArg (fun l : List (UInt32 × EntryType) => (l.filter (·.2 = .root)).map (·.1))
      hrecords
    simpa [List.filter_map, Function.comp_def] using this
  rw [Directory.findRoot_eq_ok_iff, hfilter, List.map_eq_singleton_iff]
  simp only [filter_range_eq_singleton_iff, decide_eq_true_eq, and_assoc]

/-! ## Acceptance -/

/-- The bytes of a directory that is accepted. Entry numbers have 32 bits: where there are more
records than that, the number of the root may be that of an entry to which links may lead. -/
structure Acceptable (data : ByteArray) : Prop where
  some_record : 0 < recordCount data
  nameLength : ∀ i < recordCount data, typeAt data i ≠ .empty →
    nameLengthAt data i ≤ Entry.nameSize ∧ nameLengthAt data i % 2 = 0
  root : ∃ i < recordCount data, (∀ j < recordCount data, typeAt data j = .root ↔ j = i) ∧
    (Links.ofRecords data).Accepts (UInt32.ofNat i) ∧
    (2 ^ 32 < recordCount data → (Links.ofRecords data).SparesRoot (UInt32.ofNat i))

theorem sound_ofRecords_iff {data : ByteArray} {i : Nat} (hi : i < recordCount data)
    (hroot : typeAt data i = .root) :
    (Links.ofRecords data).Sound (UInt32.ofNat i) ↔
      (Links.ofRecords data).Accepts (UInt32.ofNat i) ∧
        (2 ^ 32 < recordCount data → (Links.ofRecords data).SparesRoot (UInt32.ofNat i)) := by
  constructor
  · intro h
    exact ⟨h.toAccepts, fun _ => h.sparesRoot⟩
  · rintro ⟨haccepts, hspares⟩
    by_cases hmany : 2 ^ 32 < recordCount data
    · exact ⟨haccepts, hspares hmany⟩
    · have htoNat : (UInt32.ofNat i).toNat = i :=
        UInt32.toNat_ofNat_of_lt' (Nat.lt_of_lt_of_le hi (Nat.le_of_not_lt hmany))
      refine ⟨haccepts, haccepts.sparesRoot ?_⟩
      show (if (UInt32.ofNat i).toNat < recordCount data then _ else _) = _
      rw [htoNat, if_pos hi, hroot]

/-- The number of a record is that of an entry, even where the numbers start again. -/
theorem Decodes.toNat_lt {data : ByteArray} {major : UInt16} {es : List Entry} {i : Nat}
    (h : Decodes data major es) (hi : i < recordCount data) :
    (UInt32.ofNat i).toNat < es.toArray.size := by
  rw [List.size_toArray, h.length_eq, UInt32.toNat_ofNat']
  exact Nat.lt_of_le_of_lt (Nat.mod_le _ _) hi

/-- What a directory that is decoded consists of: its entries with the only root among them, and the
families that are linked from the root. -/
theorem linked_of_parse {data : ByteArray} {major : UInt16} {strict : Bool} {t : Tree}
    {warnings : List Warning} (h : Tree.parse data major strict = .ok (t, warnings)) :
    ∃ es i fs seen, Decodes data major es ∧ i < recordCount data ∧
      (∀ j < recordCount data, typeAt data j = .root ↔ j = i) ∧
      link es.toArray [UInt32.ofNat i] #[]
        ((Marks.clear es.toArray.size).mark (UInt32.ofNat i).toNat) = .ok (fs, seen) ∧
      t = ⟨es.toArray, Tree.table es.toArray.size fs, UInt32.ofNat i, seen⟩ ∧
      warnings = if strict then irregularities es.toArray (UInt32.ofNat i) fs else [] := by
  unfold Tree.parse at h
  obtain ⟨-, h⟩ := guard_eq_ok_iff.1 h
  obtain ⟨es, hes, h⟩ := bind_eq_ok_iff.1 h
  obtain ⟨root, hroot, h⟩ := bind_eq_ok_iff.1 h
  obtain ⟨⟨fs, seen⟩, hlinked, h⟩ := bind_eq_ok_iff.1 h
  obtain ⟨rfl, rfl⟩ := Prod.mk.inj (Except.ok.inj h)
  have hdecodes := parseEntries_eq_ok_iff.1 hes
  obtain ⟨i, hi, honly, rfl⟩ := hdecodes.findRoot_eq_ok_iff.1 hroot
  exact ⟨es, i, fs, seen, hdecodes, hi, honly, hlinked, rfl, rfl⟩

/-- No entry but the root has the type of the root. -/
theorem eq_root_of_parse {data : ByteArray} {major : UInt16} {strict : Bool} {t : Tree}
    {warnings : List Warning} {n : UInt32} {e : Entry}
    (h : Tree.parse data major strict = .ok (t, warnings)) (he : t.entry? n = some e)
    (htype : e.type = .root) : n = t.root := by
  obtain ⟨es, i, fs, seen, hdecodes, -, honly, -, rfl, -⟩ := linked_of_parse h
  rw [Tree.entry?, List.getElem?_toArray] at he
  obtain ⟨hlt, rfl⟩ := List.getElem?_eq_some_iff.1 he
  rw [hdecodes.type_eq hlt] at htype
  have hi := (honly n.toNat (hdecodes.length_eq ▸ hlt)).1 htype
  show n = UInt32.ofNat i
  rw [← hi, UInt32.ofNat_toNat]

theorem parse_ok_iff {data : ByteArray} {major : UInt16} {strict : Bool} :
    (∃ r, Tree.parse data major strict = .ok r) ↔ Acceptable data := by
  have hrecords : 0 < recordCount data ↔ ¬data.size < Entry.recordSize := by
    unfold recordCount Entry.recordSize
    omega
  unfold Tree.parse
  constructor
  · rintro ⟨r, h⟩
    obtain ⟨hsize, h⟩ := guard_eq_ok_iff.1 h
    obtain ⟨es, hes, h⟩ := bind_eq_ok_iff.1 h
    obtain ⟨root, hroot, h⟩ := bind_eq_ok_iff.1 h
    obtain ⟨linked, hlinked, -⟩ := bind_eq_ok_iff.1 h
    have hdecodes := parseEntries_eq_ok_iff.1 hes
    obtain ⟨i, hi, honly, rfl⟩ := hdecodes.findRoot_eq_ok_iff.1 hroot
    refine ⟨hrecords.2 hsize, parseEntries_ok_iff.1 ⟨es, hes⟩, i, hi, honly, ?_⟩
    rw [← sound_ofRecords_iff hi ((honly i hi).2 rfl), ← hdecodes.links_eq]
    exact (link_ok_iff (hdecodes.toNat_lt hi)).1 ⟨linked, hlinked⟩
  · rintro ⟨hpos, hnames, i, hi, honly, haccepts⟩
    obtain ⟨es, hes⟩ := parseEntries_ok_iff.2 hnames
    have hdecodes : Decodes data major es := parseEntries_eq_ok_iff.1 hes
    rw [← sound_ofRecords_iff hi ((honly i hi).2 rfl), ← hdecodes.links_eq] at haccepts
    obtain ⟨linked, hlinked⟩ := (link_ok_iff (hdecodes.toNat_lt hi)).2 haccepts
    have hroot := hdecodes.findRoot_eq_ok_iff.2 ⟨i, hi, honly, rfl⟩
    exact ⟨_, guard_eq_ok_iff.2 ⟨hrecords.1 hpos, bind_eq_ok_iff.2 ⟨es, hes,
      bind_eq_ok_iff.2 ⟨_, hroot, bind_eq_ok_iff.2 ⟨linked, hlinked, rfl⟩⟩⟩⟩⟩

/-- **Acceptance is exact.** Decoding a directory succeeds when it is acceptable, and otherwise
fails for damage. -/
theorem parse_exact (data : ByteArray) (major : UInt16) (strict : Bool) :
    ((∃ r, Tree.parse data major strict = .ok r) ↔ Acceptable data) ∧
      ((∃ fault, ∀ source, (Fetch.ofExcept .directory (Tree.parse data major strict)).run source =
        (.error (.format (.directory fault)), source)) ↔ ¬Acceptable data) := by
  refine ⟨parse_ok_iff, ?_⟩
  rw [← not_congr parse_ok_iff]
  cases Tree.parse data major strict with
  | error fault => exact iff_of_true ⟨fault, fun _ => rfl⟩ fun ⟨r, h⟩ => by cases h
  | ok r =>
    refine iff_of_false ?_ (not_not.2 ⟨r, rfl⟩)
    rintro ⟨fault, h⟩
    cases h (.ofMedium ⟨.empty, none⟩ .steady)

end CompoundFile.Directory
