import CompoundFile.Marks

/-!
# Sector chains

An allocation table is a list of 32-bit entries. The entry of a sector names the sector after it,
so sectors form chains; special values end a chain or mark a sector as something else.

**Walking.** A `Walker` stands before a sector, or at damage, or at the end. Each step yields the
sector it stands before and moves along the link, or yields the one fault of a damaged chain and
ends. A sector is refused when the table has no entry for it, when it lies beyond the data, and
when the walk has been there before, in this order. Every sector is marked when it is yielded, so
the walk ends.

**Resolving.** `resolve` gives the whole chain and `resolvePrefix` its first sectors, which must all
exist; damage behind them does not matter.
-/

namespace CompoundFile

/-! ## Entries -/

/-- The entry of the last sector of a chain. -/
def endOfChainMark : UInt32 := 0xFFFFFFFE

/-- The entry of a sector that is not in use. -/
def freeMark : UInt32 := 0xFFFFFFFF

/-- The entry of a sector that holds a part of the FAT. -/
def fatMark : UInt32 := 0xFFFFFFFD

/-- The entry of a sector that holds a part of the DIFAT. -/
def difatMark : UInt32 := 0xFFFFFFFC

/-- The largest number of a sector. -/
def maxSector : UInt32 := 0xFFFFFFFA

/-- What an entry of an allocation table means. -/
inductive SectorEntry where
  /-- The chain goes on in this sector. -/
  | next (sector : UInt32)
  /-- The chain ends. -/
  | endOfChain
  /-- The sector is not in use. -/
  | free
  /-- The sector holds a part of the FAT. -/
  | fatSector
  /-- The sector holds a part of the DIFAT. -/
  | difatSector
  /-- A value without a meaning. -/
  | reserved (raw : UInt32)
  deriving DecidableEq, Repr

namespace SectorEntry

/-- The meaning of a raw entry. -/
def classify (raw : UInt32) : SectorEntry :=
  if raw = endOfChainMark then .endOfChain
  else if raw = freeMark then .free
  else if raw = fatMark then .fatSector
  else if raw = difatMark then .difatSector
  else if raw ≤ maxSector then .next raw
  else .reserved raw

/-- The text of an entry. -/
def toText : SectorEntry → String
  | next sector => s!"Next({sector.toNat})"
  | endOfChain => "EndOfChain"
  | free => "Free"
  | fatSector => "FatSector"
  | difatSector => "DifatSector"
  | reserved raw => s!"Reserved({raw.toNat})"

end SectorEntry

/-! ## Tables -/

/-- The two allocation tables of a file. -/
inductive TableKind where
  /-- The table of sectors. -/
  | fat
  /-- The table of short sectors. -/
  | miniFat
  deriving DecidableEq, Repr, Inhabited

/-- The name of a table. -/
def TableKind.name : TableKind → String
  | fat => "FAT"
  | miniFat => "MiniFAT"

/-- Chain links by sector number. -/
structure AllocationTable where
  kind : TableKind
  entries : Array UInt32
  /-- The number of sectors that exist; a table may describe more. -/
  capacity : Nat
  deriving DecidableEq, Repr, Inhabited

/-- What is wrong with a chain. -/
inductive ChainFault where
  | outOfRange (table : TableKind) (sector : UInt32) (entries : Nat)
  | beyondData (table : TableKind) (sector : UInt32) (capacity : Nat)
  | cycle (table : TableKind) (sector : UInt32)
  /-- A link that is neither a sector nor the end. -/
  | broken (table : TableKind) (after : UInt32) (found : SectorEntry)
  /-- The chain ends before the sectors that are needed. -/
  | tooShort (table : TableKind) (start : UInt32) (found needed : Nat)
  deriving DecidableEq, Repr

/-- The words for a fault. -/
def ChainFault.message : ChainFault → String
  | outOfRange table sector entries =>
    s!"{table.name} sector index {sector.toNat} out of range ({entries} entries)"
  | beyondData table sector capacity =>
    s!"{table.name} sector index {sector.toNat} beyond end of data ({capacity} sectors)"
  | cycle table sector => s!"{table.name} chain contains a cycle at sector {sector.toNat}"
  | broken table after found =>
    s!"{table.name} chain broken after sector {after.toNat}: found {found.toText}"
  | tooShort table start found needed =>
    s!"{table.name} chain from {start.toNat} has {found} sectors, {needed} required"

namespace AllocationTable

/-- The number of entries. -/
def size (t : AllocationTable) : Nat := t.entries.size

/-- The raw entry of a sector, if the table is that long. -/
def entry? (t : AllocationTable) (sector : UInt32) : Option UInt32 := t.entries[sector.toNat]?

theorem lt_size_of_entry? {t : AllocationTable} {sector raw : UInt32}
    (h : t.entry? sector = some raw) : sector.toNat < t.size := by
  unfold entry? at h
  exact (Array.getElem?_eq_some_iff.1 h).1

end AllocationTable

/-! ## Walking -/

/-- Where a walk stands. -/
inductive Place where
  /-- Before a sector. -/
  | before (sector : UInt32)
  /-- At a link that leads to no sector. -/
  | broken (after : UInt32) (found : SectorEntry)
  /-- At the end, or behind a fault. -/
  | finished
  deriving DecidableEq, Repr

/-- The place that a link leads to; `after` is the sector that holds the link. -/
def Place.ofLink (after raw : UInt32) : Place :=
  match SectorEntry.classify raw with
  | .next sector => .before sector
  | .endOfChain => .finished
  | found => .broken after found

/-- A walk along one chain of a table. -/
structure Walker (t : AllocationTable) where
  place : Place
  /-- The sectors yielded so far. -/
  visited : Marks t.size
  deriving DecidableEq, Repr

namespace Walker

variable {t : AllocationTable}

/-- The walk that begins at a sector number, or at a mark in place of one. -/
def start (t : AllocationTable) (first : UInt32) : Walker t :=
  ⟨Place.ofLink first first, Marks.clear t.size⟩

/-- Yield a fault and end the walk. -/
def fail (w : Walker t) (fault : ChainFault) : Option (Except ChainFault UInt32) × Walker t :=
  (some (.error fault), { w with place := .finished })

/-- What the walk yields next, nothing at the end, and the walk after it. -/
def next (w : Walker t) : Option (Except ChainFault UInt32) × Walker t :=
  match w.place with
  | .finished => (none, w)
  | .broken after found => w.fail (.broken t.kind after found)
  | .before sector =>
    match t.entry? sector with
    | none => w.fail (.outOfRange t.kind sector t.size)
    | some raw =>
      if t.capacity ≤ sector.toNat then w.fail (.beyondData t.kind sector t.capacity)
      else if w.visited.contains sector.toNat then w.fail (.cycle t.kind sector)
      else (some (.ok sector), ⟨Place.ofLink sector raw, w.visited.mark sector.toNat⟩)

/-- A bound on the number of steps that remain. -/
def remaining (w : Walker t) : Nat :=
  match w.place with
  | .finished => 0
  | .broken .. => 1
  | .before _ => w.visited.room + 2

theorem remaining_ofLink_le (after raw : UInt32) (m : Marks t.size) :
    remaining (t := t) ⟨Place.ofLink after raw, m⟩ ≤ m.room + 2 := by
  unfold remaining
  split
  next => exact Nat.zero_le _
  next => exact Nat.le_add_left 1 (m.room + 1)
  next => exact Nat.le_refl _

theorem remaining_lt_of_next {w w' : Walker t} {r : Except ChainFault UInt32}
    (h : w.next = (some r, w')) : w'.remaining < w.remaining := by
  unfold next fail at h
  split at h
  next => cases h
  next after found hplace => cases h; simp [remaining, hplace]
  next sector hplace =>
    have hbefore : w.remaining = w.visited.room + 2 := by simp [remaining, hplace]
    have hfailed : remaining { w with place := .finished } < w.remaining := by
      rw [hbefore]; exact Nat.succ_pos _
    split at h
    next => cases h; exact hfailed
    next raw hentry =>
      split at h
      next => cases h; exact hfailed
      next =>
        split at h
        next => cases h; exact hfailed
        next hnew =>
          cases h
          have hroom := Marks.room_mark_lt (AllocationTable.lt_size_of_entry? hentry)
            (by simpa using hnew)
          have := remaining_ofLink_le sector raw (w.visited.mark sector.toNat)
          omega

/-- At its end a walk stays where it is. -/
theorem eq_of_next_eq_none {w w' : Walker t} (h : w.next = (none, w')) : w' = w := by
  unfold next fail at h
  split at h
  next => cases h; rfl
  next => cases h
  next =>
    split at h
    next => cases h
    next =>
      split at h
      next => cases h
      next => split at h <;> cases h

/-- Append everything that a walk still yields to what it has yielded, and give the walk at its
end. -/
def finishInto (yielded : Array (Except ChainFault UInt32)) (w : Walker t) :
    Array (Except ChainFault UInt32) × Walker t :=
  match _h : w.next with
  | (none, w) => (yielded, w)
  | (some r, w) => finishInto (yielded.push r) w
termination_by w.remaining
decreasing_by exact remaining_lt_of_next _h

/-- Everything that a walk still yields, and the walk at its end. -/
def finish (w : Walker t) : List (Except ChainFault UInt32) × Walker t :=
  match finishInto #[] w with
  | (yielded, last) => (yielded.toList, last)

theorem finishInto_of_none {w w' : Walker t} (h : w.next = (none, w'))
    (yielded : Array (Except ChainFault UInt32)) : finishInto yielded w = (yielded, w) := by
  rw [finishInto]
  split
  next h' => rw [h] at h'; cases h'; rw [eq_of_next_eq_none h]
  next h' => rw [h] at h'; cases h'

theorem finishInto_of_some {w w' : Walker t} {r : Except ChainFault UInt32}
    (h : w.next = (some r, w')) (yielded : Array (Except ChainFault UInt32)) :
    finishInto yielded w = finishInto (yielded.push r) w' := by
  rw [finishInto]
  split
  next h' => rw [h] at h'; cases h'
  next h' => rw [h] at h'; cases h'; rfl

theorem finishInto_eq (w : Walker t) (yielded : Array (Except ChainFault UInt32)) :
    finishInto yielded w = (yielded ++ (finishInto #[] w).1, (finishInto #[] w).2) := by
  match h : w.next with
  | (none, w') => simp [finishInto_of_none h]
  | (some r, w') =>
    rw [finishInto_of_some h, finishInto_of_some h, finishInto_eq w' (yielded.push r),
      finishInto_eq w' (#[].push r)]
    simp
termination_by w.remaining
decreasing_by all_goals exact remaining_lt_of_next h

theorem finish_of_none {w w' : Walker t} (h : w.next = (none, w')) : w.finish = ([], w) := by
  simp [finish, finishInto_of_none h]

/-- A walk yields one result and then what the walk after it yields. -/
theorem finish_of_some {w w' : Walker t} {r : Except ChainFault UInt32}
    (h : w.next = (some r, w')) : w.finish = (r :: w'.finish.1, w'.finish.2) := by
  simp only [finish, finishInto_of_some h]
  rw [finishInto_eq w' (#[].push r)]
  simp

end Walker

/-! ## Resolving -/

namespace AllocationTable

/-- What the walk from a sector yields. -/
def walk (t : AllocationTable) (first : UInt32) : List (Except ChainFault UInt32) :=
  (Walker.start t first).finish.1

/-- The whole chain from a sector. -/
def resolve (t : AllocationTable) (first : UInt32) : Except ChainFault (List UInt32) :=
  (t.walk first).mapM id

/-- The first `needed` sectors of the chain from a sector. -/
def resolvePrefix (t : AllocationTable) (first : UInt32) (needed : Nat) :
    Except ChainFault (List UInt32) := do
  if needed = 0 then
    return []
  let sectors ← ((t.walk first).take needed).mapM id
  if sectors.length < needed then
    throw (.tooShort t.kind first sectors.length needed)
  return sectors

end AllocationTable

end CompoundFile
