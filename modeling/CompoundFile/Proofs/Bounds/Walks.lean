import CompoundFile.Proofs.Directory.Links
import CompoundFile.Proofs.Loading
import CompoundFile.Proofs.Sectors

/-!
# Walks stay within their sets

The walk along a chain and the walk along the DIFAT mark where they have been. Here they are written
once more, with sets and lists that have only the places below their size: a checked walk gives
nothing when it uses a place that does not exist (`Marks.put?`). Checked walks never give nothing:
they are the walks.

**Chains.** A sector is marked only when the table has an entry for it, and the marks are as many as
the entries (`Walker.nextChecked_eq`).

**The DIFAT.** A sector is marked only when the file has it, and the marks are as many as the file
has sectors. A sector that is read has as many words as a sector holds, so the last of them, the
link, is there, and so are those before it (`Fat.followDifatChecked_eq`).
-/

namespace CompoundFile

/-! ## Sets of a fixed size -/

namespace Marks

variable {n : Nat}

/-- Mark an index, and say whether it was marked before. There is no index at or past the bound. -/
def put? (m : Marks n) (i : Nat) : Option (Bool × Marks n) :=
  if i < n then some (m.contains i, m.mark i) else none

theorem put?_of_lt {m : Marks n} {i : Nat} (h : i < n) : m.put? i = some (m.contains i, m.mark i) :=
  if_pos h

theorem room_of_put? {m m' : Marks n} {i : Nat} (h : m.put? i = some (false, m')) :
    m'.room < m.room := by
  unfold put? at h
  split at h
  next hi =>
    obtain ⟨hclear, rfl⟩ := Prod.mk.inj (Option.some.inj h)
    exact room_mark_lt hi hclear
  next => cases h

end Marks

/-! ## Chains -/

namespace Walker

variable {t : AllocationTable}

/-- What a walk yields next, and the walk after it, when the mark of every sector exists. -/
def nextChecked (w : Walker t) : Option (Option (Except ChainFault UInt32) × Walker t) :=
  match w.place with
  | .finished => some (none, w)
  | .broken after found => some (w.fail (.broken t.kind after found))
  | .before sector =>
    match t.entry? sector with
    | none => some (w.fail (.outOfRange t.kind sector t.size))
    | some raw =>
      if t.capacity ≤ sector.toNat then some (w.fail (.beyondData t.kind sector t.capacity))
      else
        match w.visited.put? sector.toNat with
        | none => none
        | some (true, _) => some (w.fail (.cycle t.kind sector))
        | some (false, visited) => some (some (.ok sector), ⟨Place.ofLink sector raw, visited⟩)

/-- **A walk marks sectors of its table only.** -/
theorem nextChecked_eq (w : Walker t) : w.nextChecked = some w.next := by
  unfold nextChecked next
  cases w.place with
  | finished => rfl
  | broken after found => rfl
  | before sector =>
    dsimp only
    cases hentry : t.entry? sector with
    | none => rfl
    | some raw =>
      by_cases hbeyond : t.capacity ≤ sector.toNat
      · simp only [hbeyond, if_true]
      · have hput := Marks.put?_of_lt (m := w.visited) (AllocationTable.lt_size_of_entry? hentry)
        simp only [hbeyond, if_false, hput]
        cases w.visited.contains sector.toNat <;> rfl

end Walker

/-! ## The DIFAT -/

namespace Fetch

variable {α β : Type}

/-- Programs with the same first part are equal when they go on in the same way after every result
of that part. -/
theorem bind_congr_of_run {x : Fetch α} {f g : α → Fetch β}
    (h : ∀ s a s', x.run s = (.ok a, s') → f a = g a) : x >>= f = x >>= g := by
  funext s
  show (x >>= f).run s = (x >>= g).run s
  rw [run_bind, run_bind]
  split
  next a s' hrun => rw [h s a s' hrun]
  next => rfl

end Fetch

namespace Header

/-- **A sector that is read has as many words as a sector holds.** -/
theorem size_words32_of_readSector {h : Header} {count : Nat} {sector : UInt32}
    {source source' : Source} {data : ByteArray}
    (hread : (h.readSector count sector).run source = (.ok data, source')) :
    (Bytes.words32 data).size = h.entriesPerSector := by
  have hyields := (Fetch.steady_readSector h count sector).yields_of_run hread
  obtain ⟨-, hsectors⟩ := Sectors.of_readSector hyields
  rw [hsectors.size_words32, List.length_singleton, Nat.one_mul]

end Header

namespace Fat

/-- The DIFAT chain from a sector, when the mark of every sector and every word that is used exist.
`read` sectors of it are read already. -/
def followDifatChecked (h : Header) (count : Nat) (sector : UInt32) (read : Nat)
    (visited : Marks count) (found : Array UInt32) : Fetch (Option (Array UInt32)) :=
  if isMark sector then return some found
  else if _h : h.difatSectors.toNat ≤ read then
    throw (.format (.difatTooLong h.difatSectors.toNat))
  else if count ≤ sector.toNat then throw (.format (.difatBeyondEnd sector))
  else
    match visited.put? sector.toNat with
    | none => return none
    | some (true, _) => throw (.format (.difatCycle sector))
    | some (false, visited) => do
      let words := Bytes.words32 (← h.readSector count sector)
      if words.size < h.entriesPerSector - 1 then
        return none
      let found ← addAll h.fatSectors.toNat found (difatLocations h words)
      match words[h.entriesPerSector - 1]? with
      | none => return none
      | some link => followDifatChecked h count link (read + 1) visited found
termination_by h.difatSectors.toNat - read

/-- **The walk along the DIFAT marks sectors of the file only, and uses words of a sector only.** -/
theorem followDifatChecked_eq (h : Header) (count : Nat) (sector : UInt32) (visited : List UInt32)
    (marks : Marks count) (found : Array UInt32)
    (hmarks : ∀ s : UInt32, marks.contains s.toNat = true ↔ s ∈ visited) :
    followDifatChecked h count sector visited.length marks found =
      some <$> followDifat h count sector visited found := by
  fun_induction followDifat h count sector visited found generalizing marks with
  | case1 sector visited found hmark =>
    rw [followDifatChecked, if_pos hmark]
    rfl
  | case2 sector visited found hmark hlong =>
    rw [followDifatChecked, if_neg hmark, dif_pos hlong]
    rfl
  | case3 sector visited found hmark hlong hbeyond =>
    rw [followDifatChecked, if_neg hmark, dif_neg hlong, if_pos hbeyond]
    rfl
  | case4 sector visited found hmark hlong hbeyond hcycle =>
    have hput := Marks.put?_of_lt (m := marks) (Nat.lt_of_not_le hbeyond)
    rw [(hmarks sector).2 hcycle] at hput
    rw [followDifatChecked, if_neg hmark, dif_neg hlong, if_neg hbeyond]
    simp only [hput]
    rfl
  | case5 sector visited found hmark hlong hbeyond hcycle ih =>
    have hlt := Nat.lt_of_not_le hbeyond
    have hput := Marks.put?_of_lt (m := marks) hlt
    rw [Bool.eq_false_iff.2 fun hseen => hcycle ((hmarks sector).1 hseen)] at hput
    have hmarks' : ∀ s : UInt32, (marks.mark sector.toNat).contains s.toNat = true ↔
        s ∈ sector :: visited := by
      intro s
      rw [Directory.contains_mark_iff hlt, hmarks, List.mem_cons, or_comm, eq_comm]
    rw [followDifatChecked, if_neg hmark, dif_neg hlong, if_neg hbeyond, map_bind]
    simp only [hput]
    refine Fetch.bind_congr_of_run fun s data s' hread => ?_
    have hsize := h.size_words32_of_readSector hread
    have hpos : 0 < h.entriesPerSector := by
      have := h.four_mul_entriesPerSector
      have := h.sectorSize_pos
      omega
    have hlink : (Bytes.words32 data)[h.entriesPerSector - 1]? =
        some (difatLink h (Bytes.words32 data)) := by
      rw [difatLink, Array.getElem?_eq_getElem (by omega)]
      rfl
    rw [if_neg (by omega), hlink, map_bind]
    refine congrArg _ (funext fun found => ?_)
    exact ih data found _ hmarks'

end Fat

end CompoundFile
