import CompoundFile.Proofs.Stream.Place

/-!
# Reading a stream

A read goes through the stream portion by portion, a unit at a time. It succeeds exactly when every
byte of the request is served (`StreamReader.Serves`), and then it gives these bytes and moves the
position behind them; otherwise it fails for damage, or with the fault of the bad region.

**Induction.** The induction is on the number of bytes that are still wanted. A portion that is not
the last one ends at the border of a unit, where every read begins a new portion, so the bytes
behind the border are served as if the read began there (`servesAll_add`).

Main results: `readInto_delivers` and `read_ok_iff`.
-/

namespace CompoundFile

/-- An error that a read of a stream has a reason for: damage, or the bad region of the medium. -/
def ReadError.Justified (m : Medium) (e : ReadError) : Prop :=
  (∃ fault, e = .carried (.format fault)) ∨ ∃ r, m.bad = some r ∧ e = .io r.fault

theorem ReadError.justified_format (m : Medium) (fault : FormatFault) :
    (ReadError.carried (.format fault)).Justified m := Or.inl ⟨fault, rfl⟩

/-- On a sound medium only damage makes a read fail. -/
theorem ReadError.format_of_justified {m : Medium} {e : ReadError} (hm : m.bad = none)
    (h : e.Justified m) : ∃ fault, e = .carried (.format fault) := by
  rcases h with h | ⟨r, hr, -⟩
  · exact h
  · rw [hm] at hr
    cases hr

theorem Medium.justified_of_fetch {m : Medium} {offset wanted : Nat} {fault : IoFault}
    (h : m.fetch offset wanted = .error fault) : (ReadError.io fault).Justified m := by
  unfold Medium.fetch Medium.fault? at h
  cases hbad : m.bad with
  | none => simp [hbad] at h
  | some r =>
    simp only [hbad] at h
    split_ifs at h
    cases h
    exact Or.inr ⟨r, hbad, rfl⟩

namespace StreamReader

/-! ## Readers of one stream -/

/-- The reader with the same stream at another position, its source left somewhere else. -/
def moved (r : StreamReader) (source : Source) (position : Nat) : StreamReader :=
  { r with source, position }

section Moved

variable {r : StreamReader} {s : Source} (hs : s.medium = r.source.medium) (p : Nat)
include hs

theorem bytes_moved : (r.moved s p).bytes = r.bytes := by
  funext q k
  unfold bytes byte origin
  rw [show (r.moved s p).source.medium = r.source.medium from hs]
  rfl

theorem serves_moved : (r.moved s p).Serves = r.Serves := by
  funext q i
  unfold Serves Stored
  rw [show (r.moved s p).source.medium = r.source.medium from hs]
  rfl

end Moved

/-! ## Portions -/

/-- The bytes from `p` on, `k` of them, are served to a read that begins at `p`. -/
def ServesAll (r : StreamReader) (p k : Nat) : Prop := ∀ i, p ≤ i → i < p + k → r.Serves p i

theorem servesAll_moved {r : StreamReader} {s : Source} (hs : s.medium = r.source.medium) (p : Nat) :
    (r.moved s p).ServesAll = r.ServesAll := by
  funext q k
  unfold ServesAll
  rw [serves_moved hs]

@[simp] theorem servesAll_zero (r : StreamReader) (p : Nat) : r.ServesAll p 0 :=
  fun i hi hi' => by omega

/-- A read in two parts needs what the read in one needs, and in addition that the second part may
begin where it does. -/
theorem servesAll_and_servesAll_iff {r : StreamReader} {p j k : Nat} :
    r.ServesAll p j ∧ r.ServesAll (p + j) k ↔
      r.ServesAll p (j + k) ∧ (0 < k → r.Admits (p + j)) := by
  constructor
  · rintro ⟨hfirst, hsecond⟩
    refine ⟨?_, ?_⟩
    · intro i hi hi'
      rcases Nat.lt_or_ge i (p + j) with hlt | hge
      · exact hfirst i hi hlt
      · obtain ⟨hstored, hadmits⟩ := hsecond i hge (by omega)
        refine ⟨hstored, fun hbegin => hadmits ?_⟩
        rcases hbegin with rfl | hborder
        · exact Or.inl (by omega)
        · exact Or.inr hborder
    · intro hk
      exact (hsecond (p + j) (Nat.le_refl _) (by omega)).2 (Or.inl rfl)
  · rintro ⟨hall, hadmits⟩
    refine ⟨fun i hi hi' => hall i hi (by omega), fun i hi hi' => ?_⟩
    obtain ⟨hstored, hborder⟩ := hall i (by omega) (by omega)
    refine ⟨hstored, fun hbegin => ?_⟩
    rcases hbegin with rfl | hborder'
    · exact hadmits (by omega)
    · exact hborder (Or.inr hborder')

/-- A read that ends a portion at the border of a unit begins a new one there anyway. -/
theorem servesAll_add {r : StreamReader} {p j k : Nat}
    (hborder : 0 < k → (p + j) % r.unitSize = 0) :
    r.ServesAll p (j + k) ↔ r.ServesAll p j ∧ r.ServesAll (p + j) k := by
  rw [servesAll_and_servesAll_iff]
  refine ⟨fun h => ⟨h, fun hk => ?_⟩, And.left⟩
  exact (h (p + j) (by omega) (by omega)).2 (Or.inr (hborder hk))

/-- A range of the medium that holds consecutive bytes of a unit. -/
theorem extract_eq_bytes {r : StreamReader} {p count offset : Nat}
    (hcount : p % r.unitSize + count ≤ r.unitSize) (horigin : r.origin p = some offset)
    (hread : ∀ j < count, r.source.medium.Readable (offset + j)) :
    r.source.medium.bytes.extract offset (offset + count) = r.bytes p count := by
  have hend : ∀ j < count, offset + j < r.source.medium.bytes.size := fun j hj => (hread j hj).1
  have hsize : (r.source.medium.bytes.extract offset (offset + count)).size = count := by
    obtain ⟨b, hb, hbsize⟩ := Medium.fetch_full_iff.2 hread
    rw [← Medium.eq_extract_of_fetch hb, hbsize]
  refine ByteArray.ext_getElem (by rw [hsize, size_bytes]) fun j hj hj' => ?_
  rw [size_bytes] at hj'
  have hbyte : r.byte (p + j) = Bytes.byteAt r.source.medium.bytes (offset + j) := by
    rw [byte, origin_add (by omega) horigin]
    rfl
  simp only [bytes, ByteArray.getElem_extract, List.getElem_toByteArray, List.getElem_map,
    List.getElem_range', Nat.one_mul, hbyte]
  rw [Bytes.byteAt, dif_pos (hend j hj')]

/-! ## Results -/

/-- A result of reading the next `k` bytes behind those in `got`: the bytes, if they are `served`, or
else an error that the medium gives a reason for. -/
def Delivers (r : StreamReader) (got : ByteArray) (k : Nat) (served : Prop)
    (result : Except ReadError ByteArray × StreamReader) : Prop :=
  ∃ s, s.medium = r.source.medium ∧
    (served ∧ result = (.ok (got ++ r.bytes r.position k), r.moved s (r.position + k)) ∨
      ¬served ∧ ∃ e p, e.Justified r.source.medium ∧ result = (.error e, r.moved s p))

namespace Delivers

variable {r after : StreamReader} {got data : ByteArray} {k : Nat} {served : Prop}
  {result : Except ReadError ByteArray × StreamReader}

theorem nothing (hserved : served) : r.Delivers got 0 served (.ok got, r) :=
  ⟨r.source, rfl, Or.inl ⟨hserved, by simp [bytes, moved]⟩⟩

theorem error {s : Source} {p : Nat} {e : ReadError} (hs : s.medium = r.source.medium)
    (hserved : ¬served) (he : e.Justified r.source.medium) :
    r.Delivers got k served (.error e, r.moved s p) :=
  ⟨s, hs, Or.inr ⟨hserved, e, p, he, rfl⟩⟩

/-- Some bytes were read, and the next ones are read behind them. -/
theorem behind {s : Source} {j : Nat} {served' : Prop} (hs : s.medium = r.source.medium)
    (hserved : served) (h : (r.moved s (r.position + j)).Delivers (got ++ r.bytes r.position j) k
      served' result) : r.Delivers got (j + k) (served ∧ served') result := by
  obtain ⟨s', hs', ⟨hserved', heq⟩ | ⟨hserved', e, p, he, heq⟩⟩ := h
  · refine ⟨s', hs'.trans hs, Or.inl ⟨⟨hserved, hserved'⟩, heq.trans ?_⟩⟩
    rw [bytes_moved hs, ByteArray.append_assoc, ← Nat.add_assoc, ← bytes_append]
    rfl
  · refine ⟨s', hs'.trans hs, Or.inr ⟨fun h => hserved' h.2, e, p, ?_, heq⟩⟩
    rw [← hs]
    exact he

theorem ok_iff (h : r.Delivers got k served result) :
    (∃ data after, result = (.ok data, after)) ↔ served := by
  obtain ⟨s, -, ⟨hserved, rfl⟩ | ⟨hserved, e, p, -, rfl⟩⟩ := h
  · exact ⟨fun _ => hserved, fun _ => ⟨_, _, rfl⟩⟩
  · refine ⟨?_, fun h => absurd h hserved⟩
    rintro ⟨data, after, h⟩
    cases h

theorem eq_of_ok (h : r.Delivers got k served (.ok data, after)) :
    data = got ++ r.bytes r.position k ∧
      ∃ s, s.medium = r.source.medium ∧ after = r.moved s (r.position + k) := by
  obtain ⟨s, hs, ⟨-, heq⟩ | ⟨-, e, p, -, heq⟩⟩ := h
  · cases heq
    exact ⟨rfl, s, hs, rfl⟩
  · cases heq

theorem justified {e : ReadError} (h : r.Delivers got k served (.error e, after)) :
    e.Justified r.source.medium := by
  obtain ⟨s, -, ⟨-, heq⟩ | ⟨-, e', p, he, heq⟩⟩ := h
  · cases heq
  · cases heq
    exact he

end Delivers

/-! ## The loop -/

/-- The number of bytes that a read for `wanted` bytes gets at a position. -/
def quota (r : StreamReader) (wanted : Nat) : Nat := min wanted (r.size - r.position)

/-- The number of bytes in the first portion of a read for `wanted` bytes. -/
def portion (r : StreamReader) (wanted : Nat) : Nat :=
  min wanted (min (r.unitSize - r.position % r.unitSize) (r.size - r.position))

theorem portion_pos {r : StreamReader} {wanted : Nat} (h : 0 < wanted ∧ r.position < r.size) :
    0 < r.portion wanted := by
  have : r.position % r.unitSize < r.unitSize := Nat.mod_lt _ r.unitSize_pos
  unfold portion
  omega

theorem portion_le (r : StreamReader) (wanted : Nat) :
    r.position % r.unitSize + r.portion wanted ≤ r.unitSize := by
  have : r.position % r.unitSize < r.unitSize := Nat.mod_lt _ r.unitSize_pos
  unfold portion
  omega

theorem portion_le_quota (r : StreamReader) (wanted : Nat) : r.portion wanted ≤ r.quota wanted := by
  unfold portion quota
  omega

/-- A portion that is not the last one ends at the border of a unit. -/
theorem border_of_portion {r : StreamReader} {wanted : Nat}
    (h : 0 < r.quota wanted - r.portion wanted) :
    (r.position + r.portion wanted) % r.unitSize = 0 := by
  have hlt : r.position % r.unitSize < r.unitSize := Nat.mod_lt _ r.unitSize_pos
  have hdiv := Nat.mod_add_div r.position r.unitSize
  have hportion : r.portion wanted = r.unitSize - r.position % r.unitSize := by
    unfold portion quota at *
    omega
  rw [show r.position + r.portion wanted =
    r.unitSize + r.unitSize * (r.position / r.unitSize) by omega, Nat.add_mul_mod_self_left,
    Nat.mod_self]

/-- One round of the loop. -/
theorem readInto_of_locate {r : StreamReader} {wanted offset left : Nat} (got : ByteArray)
    (hmore : 0 < wanted ∧ r.position < r.size) (hlocate : r.locate = .ok (offset, left)) :
    r.readInto got wanted =
      match (Fetch.readAt offset (r.portion wanted)).run r.source with
      | (.error e, s) => (.error e.toRead, r.moved s r.position)
      | (.ok data, s) =>
        if data.size < r.portion wanted then
          (.error (.carried (.format (.truncated (offset + data.size)))), r.moved s r.position)
        else
          (r.moved s (r.position + r.portion wanted)).readInto (got ++ data)
            (wanted - r.portion wanted) := by
  obtain ⟨-, -, rfl⟩ := locate_eq_ok_iff.1 hlocate
  rw [readInto, dif_pos hmore]
  split
  next h => rw [hlocate] at h; cases h
  next h => rw [hlocate] at h; cases h; rfl

/-- What comes out of reading the first portion. -/
theorem readAt_portion {r : StreamReader} {offset count : Nat} (hpos : 0 < count)
    (hcount : r.position % r.unitSize + count ≤ r.unitSize) (hadmits : r.Admits r.position)
    (horigin : r.origin r.position = some offset) :
    ∃ s, s.medium = r.source.medium ∧
      (r.ServesAll r.position count ∧
          (Fetch.readAt offset count).run r.source = (.ok (r.bytes r.position count), s) ∨
        ¬r.ServesAll r.position count ∧
          ((∃ fault, (Fetch.readAt offset count).run r.source = (.error (.io fault), s) ∧
              (ReadError.io fault).Justified r.source.medium) ∨
            ∃ b, (Fetch.readAt offset count).run r.source = (.ok b, s) ∧ b.size < count)) := by
  obtain ⟨s, hs, hrun⟩ := Fetch.yields_readAt offset count r.source rfl
  refine ⟨s, hs, ?_⟩
  have hserves : r.ServesAll r.position count ↔
      ∀ j < count, r.source.medium.Readable (offset + j) := by
    rw [ServesAll, serves_portion_iff hpos hcount]
    constructor
    · rintro ⟨-, offset', horigin', hread⟩
      rw [horigin] at horigin'
      cases horigin'
      exact hread
    · exact fun hread => ⟨hadmits, offset, horigin, hread⟩
  rw [hrun, hserves]
  by_cases hread : ∀ j < count, r.source.medium.Readable (offset + j)
  · obtain ⟨b, hb, -⟩ := Medium.fetch_full_iff.2 hread
    refine Or.inl ⟨hread, ?_⟩
    rw [hb, ← extract_eq_bytes hcount horigin hread, Medium.eq_extract_of_fetch hb]
    rfl
  · refine Or.inr ⟨hread, ?_⟩
    cases hfetch : r.source.medium.fetch offset count with
    | error fault => exact Or.inl ⟨fault, rfl, Medium.justified_of_fetch hfetch⟩
    | ok b =>
      refine Or.inr ⟨b, rfl, ?_⟩
      have hsize : b.size ≤ count := by
        rw [Medium.eq_extract_of_fetch hfetch, ByteArray.size_extract]
        omega
      have hne : b.size ≠ count := fun h => hread (Medium.fetch_full_iff.1 ⟨b, hfetch, h⟩)
      omega

/-- The loop ends where the place of the first portion is not known. -/
theorem readInto_of_locate_error {r : StreamReader} {wanted : Nat} {fault : FormatFault}
    (got : ByteArray) (hmore : 0 < wanted ∧ r.position < r.size)
    (hlocate : r.locate = .error fault) :
    r.readInto got wanted = (.error (.carried (.format fault)), r) := by
  rw [readInto, dif_pos hmore]
  split
  next h => rw [hlocate] at h; cases h; rfl
  next h => rw [hlocate] at h; cases h

/-- The place of the first portion is not known, so its first byte is not served. -/
theorem readInto_unlocated {r : StreamReader} {wanted : Nat} {fault : FormatFault}
    (got : ByteArray) (hmore : 0 < wanted ∧ r.position < r.size)
    (hlocate : r.locate = .error fault) :
    r.Delivers got (r.quota wanted) (r.ServesAll r.position (r.quota wanted))
      (r.readInto got wanted) := by
  have hunserved : ¬r.ServesAll r.position (r.quota wanted) := by
    intro hserves
    have hpos : 0 < r.quota wanted := Nat.lt_of_lt_of_le (portion_pos hmore) (r.portion_le_quota _)
    obtain ⟨⟨offset, horigin, -⟩, hadmits⟩ := hserves r.position (Nat.le_refl _) (by omega)
    rw [locate_eq_ok_iff.2 ⟨hadmits (Or.inl rfl), horigin, rfl⟩] at hlocate
    cases hlocate
  rw [readInto_of_locate_error got hmore hlocate]
  exact .error rfl hunserved (ReadError.justified_format _ fault)

/-- The first portion is read, and the loop goes on behind it. -/
theorem readInto_located {r : StreamReader} {wanted offset left : Nat} (got : ByteArray)
    (hmore : 0 < wanted ∧ r.position < r.size) (hlocate : r.locate = .ok (offset, left))
    (hloop : ∀ s, let r' := r.moved s (r.position + r.portion wanted)
      let got' := got ++ r.bytes r.position (r.portion wanted)
      let wanted' := wanted - r.portion wanted
      r'.Delivers got' (r'.quota wanted') (r'.ServesAll r'.position (r'.quota wanted'))
        (r'.readInto got' wanted')) :
    r.Delivers got (r.quota wanted) (r.ServesAll r.position (r.quota wanted))
      (r.readInto got wanted) := by
  obtain ⟨hadmits, horigin, -⟩ := locate_eq_ok_iff.1 hlocate
  have hquota : r.quota wanted = r.portion wanted + (r.quota wanted - r.portion wanted) := by
    have := r.portion_le_quota wanted
    omega
  rw [readInto_of_locate got hmore hlocate, hquota, servesAll_add border_of_portion]
  obtain ⟨s, hs, ⟨hserves, hrun⟩ | ⟨hserves, hrun⟩⟩ :=
    readAt_portion (portion_pos hmore) (r.portion_le wanted) hadmits horigin
  · have hrest : (r.moved s (r.position + r.portion wanted)).quota
        (wanted - r.portion wanted) = r.quota wanted - r.portion wanted := by
      show min (wanted - r.portion wanted) (r.size - (r.position + r.portion wanted)) = _
      unfold quota
      omega
    have hloop := hloop s
    dsimp only at hloop
    rw [hrest, servesAll_moved hs] at hloop
    rw [hrun]
    simp only [size_bytes, Nat.lt_irrefl, if_false]
    exact hloop.behind hs hserves
  · have hunserved : ¬(r.ServesAll r.position (r.portion wanted) ∧
        r.ServesAll (r.position + r.portion wanted) (r.quota wanted - r.portion wanted)) :=
      fun h => hserves h.1
    rcases hrun with ⟨fault, hrun, hjustified⟩ | ⟨b, hrun, hshort⟩
    · rw [hrun]
      exact .error hs hunserved hjustified
    · rw [hrun]
      simp only [hshort, if_true]
      exact .error hs hunserved (ReadError.justified_format _ _)

/-- **The loop reads what is served.** -/
theorem readInto_delivers (got : ByteArray) (wanted : Nat) (r : StreamReader) :
    r.Delivers got (r.quota wanted) (r.ServesAll r.position (r.quota wanted))
      (r.readInto got wanted) := by
  induction wanted using Nat.strongRecOn generalizing got r with
  | ind wanted ih =>
    by_cases hmore : 0 < wanted ∧ r.position < r.size
    · cases hlocate : r.locate with
      | error fault => exact readInto_unlocated got hmore hlocate
      | ok found =>
        have hpos := portion_pos hmore
        exact readInto_located got hmore hlocate fun s => ih _ (by omega) _ _
    · have hquota : r.quota wanted = 0 := by
        unfold quota
        omega
      rw [hquota, readInto, dif_neg hmore]
      exact .nothing (r.servesAll_zero _)

theorem read_delivers (r : StreamReader) (wanted : Nat) :
    r.Delivers ByteArray.empty (r.quota wanted) (r.ServesAll r.position (r.quota wanted))
      (r.read wanted) :=
  r.readInto_delivers ByteArray.empty wanted

/-- **A read succeeds exactly when it is served.** -/
theorem read_ok_iff {r : StreamReader} {wanted : Nat} :
    (∃ data after, r.read wanted = (.ok data, after)) ↔
      r.ServesAll r.position (r.quota wanted) :=
  (r.read_delivers wanted).ok_iff

/-- What a read gives when it succeeds. -/
theorem eq_of_read_ok {r after : StreamReader} {wanted : Nat} {data : ByteArray}
    (h : r.read wanted = (.ok data, after)) :
    data = r.bytes r.position (r.quota wanted) ∧
      ∃ s, s.medium = r.source.medium ∧ after = r.moved s (r.position + r.quota wanted) := by
  have := (h ▸ r.read_delivers wanted).eq_of_ok
  rwa [ByteArray.empty_append] at this

theorem justified_of_read {r after : StreamReader} {wanted : Nat} {e : ReadError}
    (h : r.read wanted = (.error e, after)) : e.Justified r.source.medium :=
  (h ▸ r.read_delivers wanted).justified

end StreamReader

end CompoundFile
