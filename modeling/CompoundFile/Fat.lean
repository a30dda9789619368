import CompoundFile.Source

/-!
# The file allocation table

The FAT is the allocation table of the file's sectors and is itself stored in sectors. The header
lists where the first 109 of them are; the list ends early at a mark. Further locations are in the
DIFAT, a chain of sectors: all words of a DIFAT sector but the last are locations, where marks are
skipped, and the last is the next DIFAT sector.

The header declares how many FAT sectors and how many DIFAT sectors there are. Fewer are accepted,
more are not.
-/

namespace CompoundFile

namespace Fat

/-- Whether a location is a mark in place of a sector. -/
def isMark (location : UInt32) : Bool := location == freeMark || location == endOfChainMark

/-- Append a location of a FAT sector to those found, of which at most `declared` are allowed. -/
def add (declared : Nat) (found : Array UInt32) (location : UInt32) :
    Except FormatFault (Array UInt32) :=
  if maxSector < location then .error (.fatLocation location)
  else if declared ≤ found.size then .error (.tooManyFatSectors declared)
  else .ok (found.push location)

/-- Append a list of locations to those found. -/
def addAll (declared : Nat) (found : Array UInt32) (locations : List UInt32) :
    Fetch (Array UInt32) :=
  Fetch.ofExcept (fun fault => fault) (locations.foldlM (add declared) found)

/-- The locations in the header. -/
def inlineLocations (h : Header) : List UInt32 :=
  h.inlineDifat.toList.takeWhile fun location => !isMark location

/-- The locations in a DIFAT sector. -/
def difatLocations (h : Header) (words : Array UInt32) : List UInt32 :=
  (words.toList.take (h.entriesPerSector - 1)).filter fun location => !isMark location

/-- The link in a DIFAT sector. -/
def difatLink (h : Header) (words : Array UInt32) : UInt32 :=
  (words[h.entriesPerSector - 1]?).getD endOfChainMark

/-- Follow the DIFAT chain from a sector and append the locations in it to those found. -/
def followDifat (h : Header) (count : Nat) (sector : UInt32) (visited : List UInt32)
    (found : Array UInt32) : Fetch (Array UInt32) :=
  if isMark sector then return found
  else if _h : h.difatSectors.toNat ≤ visited.length then
    throw (.format (.difatTooLong h.difatSectors.toNat))
  else if count ≤ sector.toNat then throw (.format (.difatBeyondEnd sector))
  else if sector ∈ visited then throw (.format (.difatCycle sector))
  else do
    let words := Bytes.words32 (← h.readSector count sector)
    let found ← addAll h.fatSectors.toNat found (difatLocations h words)
    followDifat h count (difatLink h words) (sector :: visited) found
termination_by h.difatSectors.toNat - visited.length
decreasing_by
  simp only [List.length_cons]
  omega

/-- The locations of all FAT sectors of a file that has `count` sectors. -/
def locations (h : Header) (count : Nat) : Fetch (Array UInt32) := do
  let found ← addAll h.fatSectors.toNat #[] (inlineLocations h)
  if h.difatSectors = 0 then
    return found
  followDifat h count h.firstDifatSector [] found

/-- Load the FAT of a file that has `count` sectors. -/
def load (h : Header) (count : Nat) : Fetch AllocationTable := do
  let found ← locations h count
  let data ← h.readChain count found.toList
  return { kind := .fat, entries := Bytes.words32 data, capacity := count }

end Fat

end CompoundFile
