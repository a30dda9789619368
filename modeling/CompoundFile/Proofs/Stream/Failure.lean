import CompoundFile.Proofs.Stream.Cursor

/-!
# Where a failed read stops

A read goes from unit to unit, and the position goes with it. When a unit cannot be read, the units
before it are read already: the read gives none of their bytes, but the position stays behind them
(`StopsBehind`). So a failed read leaves the position where it was only when it fails in its first
portion. A read within one unit does so always.

**Induction.** The induction is on the number of bytes that are still wanted, as for the reads that
succeed. A portion that is read adds its bytes to those that are passed over.

Main results: `position_of_failed_read` and `failed_read_moves`.
-/

namespace CompoundFile

namespace StreamReader

/-- A read for `wanted` bytes stopped behind the first `n` of them: these are served, they end at
the border of a unit, and the portion that follows is not served. -/
structure StopsBehind (r : StreamReader) (wanted n : Nat) (after : StreamReader) : Prop where
  moved : ∃ s, s.medium = r.source.medium ∧ after = r.moved s (r.position + n)
  lt_quota : n < r.quota wanted
  border : n = 0 ∨ (r.position + n) % r.unitSize = 0
  served : r.ServesAll r.position n
  unserved : ¬r.ServesAll (r.position + n) (after.portion (wanted - n))

theorem ServesAll.mono {r : StreamReader} {p j k : Nat} (h : r.ServesAll p k) (hjk : j ≤ k) :
    r.ServesAll p j :=
  fun i hi hi' => h i hi (by omega)

namespace StopsBehind

variable {r after : StreamReader} {wanted n : Nat} {s : Source}

/-- The first portion is not served. -/
theorem start (hs : s.medium = r.source.medium) (hmore : 0 < wanted ∧ r.position < r.size)
    (h : ¬r.ServesAll r.position (r.portion wanted)) :
    r.StopsBehind wanted 0 (r.moved s r.position) where
  moved := ⟨s, hs, rfl⟩
  lt_quota := Nat.lt_of_lt_of_le (portion_pos hmore) (r.portion_le_quota wanted)
  border := Or.inl rfl
  served := r.servesAll_zero _
  unserved := h

/-- The first portion is served, and reading stops somewhere behind it. -/
theorem behind (hs : s.medium = r.source.medium)
    (hserved : r.ServesAll r.position (r.portion wanted))
    (h : (r.moved s (r.position + r.portion wanted)).StopsBehind (wanted - r.portion wanted) n
      after) : r.StopsBehind wanted (r.portion wanted + n) after := by
  have hquota : (r.moved s (r.position + r.portion wanted)).quota (wanted - r.portion wanted) =
      r.quota wanted - r.portion wanted := by
    show min (wanted - r.portion wanted) (r.size - (r.position + r.portion wanted)) = _
    unfold quota
    omega
  have hlt := h.lt_quota
  rw [hquota] at hlt
  have hunserved := h.unserved
  rw [servesAll_moved hs] at hunserved
  have hrest := h.served
  rw [servesAll_moved hs] at hrest
  have hborder : (r.position + r.portion wanted) % r.unitSize = 0 := border_of_portion (by omega)
  refine ⟨?_, by omega, Or.inr ?_, ?_, ?_⟩
  · obtain ⟨s', hs', rfl⟩ := h.moved
    rw [← Nat.add_assoc]
    exact ⟨s', hs'.trans hs, rfl⟩
  · rw [← Nat.add_assoc]
    rcases h.border with rfl | hend
    · exact hborder
    · exact hend
  · exact (servesAll_add fun _ => hborder).2 ⟨hserved, hrest⟩
  · rw [← Nat.add_assoc, ← Nat.sub_sub]
    exact hunserved

theorem position_eq (h : r.StopsBehind wanted n after) : after.position = r.position + n := by
  obtain ⟨s, -, rfl⟩ := h.moved
  rfl

/-- The bytes that are passed over hold the first portion. -/
theorem portion_le_of_pos (h : r.StopsBehind wanted n after) (hn : 0 < n) :
    r.portion wanted ≤ n := by
  have hborder := h.border.resolve_left hn.ne'
  have hlt : r.position % r.unitSize < r.unitSize := Nat.mod_lt _ r.unitSize_pos
  by_contra hshort
  have hwithin : r.position % r.unitSize + n < r.unitSize := by
    have := r.portion_le wanted
    omega
  have := (r.div_mod_add hwithin).2
  omega

/-- Nothing is passed over exactly when the first portion is not served. -/
theorem eq_zero_iff (h : r.StopsBehind wanted n after) :
    n = 0 ↔ ¬r.ServesAll r.position (r.portion wanted) := by
  constructor
  · rintro rfl hserved
    obtain ⟨s, -, rfl⟩ := h.moved
    exact h.unserved hserved
  · intro hunserved
    by_contra hn
    exact hunserved (h.served.mono (h.portion_le_of_pos (Nat.pos_of_ne_zero hn)))

end StopsBehind

/-- **A read that fails stops behind the units that it read.** -/
theorem stopsBehind_of_readInto {r after : StreamReader} {got : ByteArray} {wanted : Nat}
    {e : ReadError} (h : r.readInto got wanted = (.error e, after)) :
    ∃ n, r.StopsBehind wanted n after := by
  induction wanted using Nat.strongRecOn generalizing got r with
  | ind wanted ih =>
    by_cases hmore : 0 < wanted ∧ r.position < r.size
    · have hpos := portion_pos hmore
      cases hlocate : r.locate with
      | error fault =>
        rw [readInto_of_locate_error got hmore hlocate] at h
        obtain ⟨-, rfl⟩ := Prod.mk.inj h
        refine ⟨0, .start rfl hmore fun hserved => ?_⟩
        obtain ⟨⟨offset, horigin, -⟩, hadmits⟩ := hserved r.position (Nat.le_refl _) (by omega)
        rw [locate_eq_ok_iff.2 ⟨hadmits (Or.inl rfl), horigin, rfl⟩] at hlocate
        cases hlocate
      | ok found =>
        obtain ⟨hadmits, horigin, -⟩ := locate_eq_ok_iff.1 hlocate
        rw [readInto_of_locate got hmore hlocate] at h
        obtain ⟨s, hs, ⟨hserved, hrun⟩ | ⟨hunserved, hrun⟩⟩ :=
          readAt_portion hpos (r.portion_le wanted) hadmits horigin
        · rw [hrun] at h
          simp only [size_bytes, Nat.lt_irrefl, if_false] at h
          obtain ⟨n, hstops⟩ := ih _ (by omega) h
          exact ⟨_, hstops.behind hs hserved⟩
        · have hstart := StopsBehind.start hs hmore hunserved
          rcases hrun with ⟨fault, hrun, -⟩ | ⟨b, hrun, hshort⟩
          · rw [hrun] at h
            cases h
            exact ⟨0, hstart⟩
          · rw [hrun] at h
            simp only [hshort, if_true] at h
            cases h
            exact ⟨0, hstart⟩
    · rw [readInto, dif_neg hmore] at h
      cases h

/-- Reading on from where a read stopped fails again, and passes over nothing. -/
theorem StopsBehind.read_again {r after : StreamReader} {wanted n : Nat}
    (h : r.StopsBehind wanted n after) :
    ∃ e' after', after.read (wanted - n) = (.error e', after') ∧
      after'.position = after.position := by
  obtain ⟨s, hs, rfl⟩ := h.moved
  have hunserved : ¬(r.moved s (r.position + n)).ServesAll (r.position + n)
      ((r.moved s (r.position + n)).portion (wanted - n)) := by
    rw [servesAll_moved hs]
    exact h.unserved
  have hfails : ¬∃ data a, (r.moved s (r.position + n)).read (wanted - n) = (.ok data, a) := by
    rw [read_ok_iff]
    exact fun hserved => hunserved (hserved.mono (portion_le_quota _ _))
  cases hread : (r.moved s (r.position + n)).read (wanted - n) with
  | mk result after' =>
    cases result with
    | ok data => exact absurd ⟨data, after', hread⟩ hfails
    | error e' =>
      obtain ⟨n', hstops⟩ := stopsBehind_of_readInto hread
      obtain rfl := hstops.eq_zero_iff.2 hunserved
      exact ⟨e', after', rfl, hstops.position_eq⟩

theorem quota_portion (r : StreamReader) (wanted : Nat) :
    r.quota (r.portion wanted) = r.portion wanted := by
  unfold quota portion
  omega

/-- A read of bytes that are served and do not go beyond the end. -/
theorem read_of_servesAll {r : StreamReader} {n : Nat} (hn : r.quota n = n)
    (h : r.ServesAll r.position n) :
    ∃ a, r.read n = (.ok (r.bytes r.position n), a) ∧ a.position = r.position + n := by
  obtain ⟨data, a, hread⟩ := read_ok_iff.2 (hn.symm ▸ h : r.ServesAll r.position (r.quota n))
  obtain ⟨hdata, s, -, ha⟩ := eq_of_read_ok hread
  rw [hn] at hdata ha
  exact ⟨a, hdata ▸ hread, ha ▸ rfl⟩

/-- **The position after a failed read.** It is behind the units that were read before the failure:
`n` bytes, less than there were to read, which a read of `n` bytes would have given. So the position
did not move exactly when the first portion cannot be read, in particular when the read stays within
one unit. Reading on fails again and moves no further. -/
theorem position_of_failed_read {r after : StreamReader} {wanted : Nat} {e : ReadError}
    (h : r.read wanted = (.error e, after)) :
    (after.position = r.position ↔
      ¬∃ data a, r.read (r.portion wanted) = (.ok data, a)) ∧
    (r.position % r.unitSize + r.quota wanted ≤ r.unitSize → after.position = r.position) ∧
    ∃ n < r.quota wanted, after.position = r.position + n ∧
      (n = 0 ∨ after.position % r.unitSize = 0) ∧
      (∃ a, r.read n = (.ok (r.bytes r.position n), a) ∧ a.position = after.position) ∧
      ∃ e' after', after.read (wanted - n) = (.error e', after') ∧
        after'.position = after.position := by
  obtain ⟨n, hstops⟩ := stopsBehind_of_readInto h
  have hposition := hstops.position_eq
  have hlt := hstops.lt_quota
  have hquota : r.quota n = n := by
    unfold quota at hlt ⊢
    omega
  have hmoved : after.position = r.position ↔ n = 0 := by omega
  refine ⟨?_, fun hwithin => ?_, n, hlt, hposition, hposition ▸ hstops.border, ?_,
    hstops.read_again⟩
  · rw [hmoved, hstops.eq_zero_iff, read_ok_iff, quota_portion]
  · refine hmoved.2 (Nat.eq_zero_of_not_pos fun hpos => ?_)
    have hportion := hstops.portion_le_of_pos hpos
    unfold portion quota at *
    omega
  · rw [hposition]
    exact read_of_servesAll hquota hstops.served

end StreamReader

/-! ## Reading the torn stream -/

namespace Sample

open Bytes Directory Fetch

theorem unitSize_torn (source : Source) : (tornReader source).unitSize = 512 := rfl

theorem exists_tornReader :
    ∃ s source, source.medium = .ofList tornBytes ∧
      (Session.new ⟨false, .ascii⟩).openSource (.ofMedium (.ofList tornBytes) .steady) =
        (.ok (), s) ∧ s.reader (.sid 1) = .ok (tornReader source) := by
  obtain ⟨source, hmedium, hopen⟩ := openSource_torn
  exact ⟨_, source, hmedium, hopen, reader_torn source⟩

section TornReader

variable {source : Source} (hmedium : source.medium = .ofList tornBytes)
include hmedium

theorem readable_torn_iff (offset : Nat) : source.medium.Readable offset ↔ offset < 2088 := by
  have hsize : (ofList tornBytes).size = 2088 := by rw [size_ofList, length_tornBytes]
  rw [hmedium, ← hsize]
  exact ⟨And.left, fun h => ⟨h, fun region hregion => by cases hregion⟩⟩

/-- The first sector of the torn stream can be read. -/
theorem servesAll_torn : (tornReader source).ServesAll 0 512 := by
  have hplace : tornHeader.streamOffset #[2, 3] 0 = some 1536 := streamOffset_torn (by decide)
  refine (StreamReader.serves_portion_iff (by decide) (Nat.le_refl 512)).2
    ⟨⟨2, ?_, trivial⟩, 1536, ?_, fun j hj => ?_⟩
  · rw [unitSize_torn]
    rfl
  · exact (StreamReader.origin_of_sectors rfl 0).trans hplace
  · exact (readable_torn_iff hmedium _).2 (by omega)

/-- Byte 552 of the torn stream would be the first behind the end of the file. -/
theorem not_servesAll_torn : ¬(tornReader source).ServesAll 512 88 := by
  intro h
  have hplace : tornHeader.streamOffset #[2, 3] 552 = some 2088 := streamOffset_torn (by decide)
  obtain ⟨⟨offset, horigin, hreadable⟩, -⟩ := h 552 (by decide) (by decide)
  rw [StreamReader.origin_of_sectors rfl] at horigin
  obtain rfl := Option.some.inj (hplace.symm.trans horigin)
  exact absurd ((readable_torn_iff hmedium _).1 hreadable) (by decide)

theorem exists_failed_read_torn :
    ∃ e after, (tornReader source).read 600 = (.error e, after) := by
  have hfails : ¬∃ data after, (tornReader source).read 600 = (.ok data, after) := by
    rw [StreamReader.read_ok_iff]
    intro h
    have hsplit : (tornReader source).ServesAll 0 (512 + 88) := h
    rw [StreamReader.servesAll_add fun _ => by rw [unitSize_torn]] at hsplit
    exact not_servesAll_torn hmedium hsplit.2
  cases hread : (tornReader source).read 600 with
  | mk result after =>
    cases result with
    | ok data => exact absurd ⟨data, after, hread⟩ hfails
    | error e => exact ⟨e, after, rfl⟩

end TornReader

end Sample

namespace StreamReader

/-- A read of all 600 bytes of the torn stream fails behind the first sector and leaves the position
there. -/
theorem failed_read_moves :
    ∃ s r, (Session.new ⟨false, .ascii⟩).openSource
        (.ofMedium (.ofList Sample.tornBytes) .steady) = (.ok (), s) ∧
      s.reader (.sid 1) = .ok r ∧ r.position = 0 ∧
      ∃ e after, r.read 600 = (.error e, after) ∧ after.position = 512 := by
  obtain ⟨s, source, hmedium, hopen, hreader⟩ := Sample.exists_tornReader
  obtain ⟨e, after, hread⟩ := Sample.exists_failed_read_torn hmedium
  obtain ⟨n, hstops⟩ := stopsBehind_of_readInto hread
  have hlt : n < 600 := hstops.lt_quota
  have hmoved : n ≠ 0 := fun hzero => hstops.eq_zero_iff.1 hzero (Sample.servesAll_torn hmedium)
  have hborder : (0 + n) % 512 = 0 := hstops.border.resolve_left hmoved
  refine ⟨s, _, hopen, hreader, rfl, e, after, hread, ?_⟩
  rw [hstops.position_eq]
  show 0 + n = 512
  omega

/-- Of the torn stream the first sector alone can be read. -/
theorem position_of_failed_read_torn :
    ∃ (r after : StreamReader) (e : ReadError), r.read 600 = (.error e, after) ∧
      after.position ≠ r.position ∧
      ∃ n < 600, ∃ a, r.read n = (.ok (r.bytes r.position n), a) ∧ a.position = after.position := by
  obtain ⟨s, source, hmedium, -, -⟩ := Sample.exists_tornReader
  obtain ⟨e, after, hread⟩ := Sample.exists_failed_read_torn hmedium
  obtain ⟨hfirst, -, n, hlt, -, -, hserved, -⟩ := position_of_failed_read hread
  refine ⟨Sample.tornReader source, after, e, hread, fun hsame => ?_, n, hlt, hserved⟩
  exact hfirst.1 hsame (read_ok_iff.2 (Sample.servesAll_torn hmedium))

end StreamReader

end CompoundFile
