import CompoundFile.Proofs.Layout
import CompoundFile.Proofs.Stream.Reading

/-!
# Reading a stream in pieces

Reads one behind the other give what one read of all their bytes gives, with one difference: every
read begins a portion where the one before it ended.

**In sectors** a portion may begin everywhere, so the pieces do not show.

**In short sectors** a portion must begin before the end of the mini stream, but may go on behind it.
So when the mini stream ends inside a short sector, one read gives bytes behind its end which a
piece that begins there is refused. This is the only difference.

Main results: `readPieces_delivers`, `read_in_pieces_iff` and `read_in_pieces_refused`.
-/

namespace CompoundFile

namespace StreamReader

/-- Reads of the given lengths, one behind the other. The first failure ends them. -/
def readPieces (r : StreamReader) : List Nat → Except ReadError ByteArray × StreamReader
  | [] => (.ok ByteArray.empty, r)
  | n :: ns =>
    match r.read n with
    | (.ok data, r) =>
      match r.readPieces ns with
      | (.ok rest, r) => (.ok (data ++ rest), r)
      | failed => failed
    | failed => failed

/-- Every piece of the given lengths, the first of them at `p`, may begin where it does. Pieces
without a byte of the stream begin nowhere. -/
def AdmitsPieces (r : StreamReader) (p : Nat) : List Nat → Prop
  | [] => True
  | n :: ns =>
    (0 < min n (r.size - p) → r.Admits p) ∧ r.AdmitsPieces (p + min n (r.size - p)) ns

theorem admits_of_admitsPieces {r : StreamReader} {p : Nat} {ns : List Nat}
    (h : r.AdmitsPieces p ns) (hpos : 0 < min ns.sum (r.size - p)) : r.Admits p := by
  induction ns with
  | nil => simp at hpos
  | cons n ns ih =>
    rw [List.sum_cons] at hpos
    rcases Nat.eq_zero_or_pos n with rfl | hn
    · have hrest := h.2
      rw [Nat.zero_min, Nat.add_zero] at hrest
      exact ih hrest (by omega)
    · exact h.1 (by omega)

/-- What pieces need: all their bytes are served to one read, and every piece may begin. -/
theorem servesPieces_iff {r : StreamReader} {p j : Nat} {ns : List Nat} :
    r.ServesAll p (j + min ns.sum (r.size - (p + j))) ∧ (0 < j → r.Admits p) ∧
        r.AdmitsPieces (p + j) ns ↔
      r.ServesAll p j ∧ r.ServesAll (p + j) (min ns.sum (r.size - (p + j))) ∧
        r.AdmitsPieces (p + j) ns := by
  constructor
  · rintro ⟨hall, -, hpieces⟩
    obtain ⟨hfirst, hrest⟩ :=
      servesAll_and_servesAll_iff.2 ⟨hall, fun hpos => admits_of_admitsPieces hpieces hpos⟩
    exact ⟨hfirst, hrest, hpieces⟩
  · rintro ⟨hfirst, hrest, hpieces⟩
    refine ⟨(servesAll_and_servesAll_iff.1 ⟨hfirst, hrest⟩).1, fun hj => ?_, hpieces⟩
    exact (hfirst p (Nat.le_refl _) (by omega)).2 (Or.inl rfl)

theorem admitsPieces_moved (r : StreamReader) (s : Source) (q p : Nat) (ns : List Nat) :
    (r.moved s q).AdmitsPieces p ns ↔ r.AdmitsPieces p ns := by
  induction ns generalizing p with
  | nil => exact Iff.rfl
  | cons n ns ih => exact and_congr Iff.rfl (ih _)

/-- Bytes that were read before are put in front. -/
theorem Delivers.prepend {r : StreamReader} {got : ByteArray} {k : Nat} {served : Prop}
    {result : Except ReadError ByteArray × StreamReader} (data : ByteArray) :
    r.Delivers got k served result →
      r.Delivers (data ++ got) k served
        (match result with
        | (.ok rest, after) => (.ok (data ++ rest), after)
        | failed => failed) := by
  rintro ⟨s, hs, ⟨hserved, rfl⟩ | ⟨hserved, e, p, he, rfl⟩⟩
  · exact ⟨s, hs, Or.inl ⟨hserved, by rw [ByteArray.append_assoc]⟩⟩
  · exact .error hs hserved he

/-- **Pieces read what one read reads**, if they may begin where they do. -/
theorem readPieces_delivers (ns : List Nat) (r : StreamReader) :
    r.Delivers ByteArray.empty (r.quota ns.sum)
      (r.ServesAll r.position (r.quota ns.sum) ∧ r.AdmitsPieces r.position ns)
      (r.readPieces ns) := by
  induction ns generalizing r with
  | nil =>
    have hquota : r.quota [].sum = 0 := by simp [quota]
    rw [hquota]
    exact .nothing ⟨r.servesAll_zero _, trivial⟩
  | cons n ns ih =>
    have hquota : r.quota (n :: ns).sum =
        r.quota n + min ns.sum (r.size - (r.position + r.quota n)) := by
      rw [List.sum_cons]
      unfold quota
      omega
    have hpieces : r.AdmitsPieces r.position (n :: ns) ↔
        (0 < r.quota n → r.Admits r.position) ∧
          r.AdmitsPieces (r.position + r.quota n) ns := Iff.rfl
    rw [hquota, hpieces, servesPieces_iff, readPieces]
    obtain ⟨s, hs, ⟨hserves, heq⟩ | ⟨hserves, e, p, he, heq⟩⟩ := r.read_delivers n
    · have hrest := Delivers.prepend (r.bytes r.position (r.quota n))
        (ih (r.moved s (r.position + r.quota n)))
      rw [servesAll_moved hs, admitsPieces_moved, ByteArray.append_empty] at hrest
      rw [heq, ByteArray.empty_append]
      refine .behind hs hserves ?_
      rw [ByteArray.empty_append]
      exact hrest
    · rw [heq]
      exact .error hs (fun h => hserves h.1) he

/-- In sectors a portion may begin at every byte that is stored. -/
theorem admits_of_stored {r : StreamReader} {i : Nat} (hsectors : r.storage = .sectors)
    (h : r.Stored i) : r.Admits i := by
  obtain ⟨offset, horigin, -⟩ := h
  exact admits_of_origin hsectors horigin

theorem admitsPieces_of_sectors {r : StreamReader} {p : Nat} {ns : List Nat}
    (hsectors : r.storage = .sectors) (h : r.ServesAll p (min ns.sum (r.size - p))) :
    r.AdmitsPieces p ns := by
  induction ns generalizing p with
  | nil => trivial
  | cons n ns ih =>
    rw [List.sum_cons] at h
    refine ⟨?_, ih fun i hi hi' => ?_⟩
    · intro hpos
      exact admits_of_stored hsectors (h p (Nat.le_refl _) (by omega)).1
    · obtain ⟨hstored, -⟩ := h i (by omega) (by omega)
      exact ⟨hstored, fun _ => admits_of_stored hsectors hstored⟩

theorem readPieces_ok_iff {r : StreamReader} {ns : List Nat} :
    (∃ data after, r.readPieces ns = (.ok data, after)) ↔
      r.ServesAll r.position (r.quota ns.sum) ∧ r.AdmitsPieces r.position ns :=
  (r.readPieces_delivers ns).ok_iff

/-- The second of two pieces may begin where the first one ends. -/
theorem admitsPieces_pair_iff {r : StreamReader} {a b : Nat}
    (h : r.ServesAll r.position (r.quota (a + b))) :
    r.AdmitsPieces r.position [a, b] ↔
      (0 < b → r.position + a < r.size → r.Admits (r.position + a)) := by
  unfold quota at h
  constructor
  · rintro ⟨-, hsecond, -⟩ hb hlt
    have hfirst : min a (r.size - r.position) = a := by omega
    rw [hfirst] at hsecond
    exact hsecond (by omega)
  · intro hsecond
    refine ⟨fun hpos => (h _ (Nat.le_refl _) (by omega)).2 (Or.inl rfl), fun hpos => ?_, trivial⟩
    have hfirst : min a (r.size - r.position) = a := by omega
    rw [hfirst]
    exact hsecond (by omega) (by omega)

/-- **Splitting a read.** Two reads succeed exactly when one read of all their bytes succeeds and the
second may begin where the first one ends; the same holds for any number of pieces. In sectors a
piece may begin everywhere. When the pieces succeed, the one read gives the same bytes and the same
position. -/
theorem read_in_pieces_iff (r : StreamReader) :
    (∀ a b, (∃ data after, r.readPieces [a, b] = (.ok data, after)) ↔
      (∃ data after, r.read (a + b) = (.ok data, after)) ∧
        (0 < b → r.position + a < r.size → r.Admits (r.position + a))) ∧
    (∀ ns, (∃ data after, r.readPieces ns = (.ok data, after)) ↔
      (∃ data after, r.read ns.sum = (.ok data, after)) ∧ r.AdmitsPieces r.position ns) ∧
    (r.storage = .sectors → ∀ ns, (∃ data after, r.readPieces ns = (.ok data, after)) ↔
      ∃ data after, r.read ns.sum = (.ok data, after)) ∧
    ∀ ns data after, r.readPieces ns = (.ok data, after) →
      ∃ after', r.read ns.sum = (.ok data, after') ∧ after'.position = after.position := by
  refine ⟨?_, ?_, ?_, ?_⟩
  · intro a b
    rw [readPieces_ok_iff, read_ok_iff, show [a, b].sum = a + b by simp]
    exact and_congr_right admitsPieces_pair_iff
  · intro ns
    rw [readPieces_ok_iff, read_ok_iff]
  · intro hsectors ns
    rw [readPieces_ok_iff, read_ok_iff]
    exact ⟨And.left, fun hall => ⟨hall, admitsPieces_of_sectors hsectors hall⟩⟩
  · intro ns data after h
    obtain ⟨hserves, -⟩ := readPieces_ok_iff.1 ⟨data, after, h⟩
    obtain ⟨data', after', hread⟩ := read_ok_iff.2 hserves
    obtain ⟨rfl, s, -, rfl⟩ := eq_of_read_ok hread
    have hdelivers := r.readPieces_delivers ns
    rw [h] at hdelivers
    obtain ⟨rfl, s', -, rfl⟩ := hdelivers.eq_of_ok
    rw [ByteArray.empty_append]
    exact ⟨_, hread, rfl⟩

/-- The sample has a stream of 64 bytes, of which only 36 belong to the mini stream. One read gives
all of them; a piece that begins at byte 40 is refused. -/
theorem read_in_pieces_refused :
    ∃ s r, (Session.new ⟨false, .ascii⟩).openSource Sample.source = (.ok (), s) ∧
      s.reader (.sid 1) = .ok r ∧ r.position = 0 ∧
      (∃ data after, r.read (40 + 24) = (.ok data, after)) ∧
      ¬∃ data after, r.readPieces [40, 24] = (.ok data, after) := by
  obtain ⟨source', hmedium, hopen⟩ := Sample.openSource_eq
  have hreader : make source' Sample.contents.allocation Sample.short =
      .ok ⟨source', Sample.contents.allocation, .shortSectors, #[1], 64, 0⟩ :=
    make_eq_ok_iff.2 ⟨Or.inl rfl, [1], by decide +kernel, rfl⟩
  let mini : MiniStream := ⟨⟨.miniFat, Sample.miniWords.toArray, 2⟩, #[3], 100⟩
  have hmini : Sample.contents.allocation.mini = some mini := rfl
  have hplace : mini.origin Sample.header 1 0 = some 2112 := by decide
  refine ⟨_, _, hopen, hreader, rfl, read_ok_iff.2 ?_, ?_⟩
  · show ServesAll _ 0 64
    refine (serves_portion_iff (Nat.succ_pos 63) (Nat.le_refl 64)).2 ⟨?_, 2112, ?_, ?_⟩
    · exact (admits_iff_of_shortSectors rfl hmini).2 ⟨1, rfl, by decide⟩
    · rw [origin_of_shortSectors rfl hmini]
      exact Option.bind_eq_some_iff.2 ⟨1, rfl, hplace⟩
    · intro j hj
      show source'.medium.Readable (2112 + j)
      rw [hmedium]
      refine ⟨?_, fun region hregion => by cases hregion⟩
      show 2112 + j < (Bytes.ofList Sample.bytes).size
      rw [Bytes.size_ofList, Sample.length_bytes]
      omega
  · intro h
    obtain ⟨-, hsecond, -⟩ := (readPieces_ok_iff.1 h).2
    have hadmits : Admits _ 40 := hsecond (Nat.succ_pos 23)
    obtain ⟨unit, hunit, hlt⟩ := (admits_iff_of_shortSectors rfl hmini).1 hadmits
    change some 1 = some unit at hunit
    cases hunit
    exact absurd hlt (by decide)

end StreamReader

end CompoundFile
