import CompoundFile.MiniStream

/-!
# Reading streams

A stream is stored in sectors, or, when it is smaller than the cutoff in the header, in short
sectors. The content of the root is always in sectors. A reader finds the chain of a stream when
it is made; from then on it maps a position to a place in the file by dividing it by the size of a
unit.

**Reading** goes from unit to unit up to the number of bytes asked for or the declared size. The
position moves behind every unit that was read completely. A stream never gives bytes past its
declared size, and missing bytes are never made up: when the file ends too early, reading fails.

**Seeking** accepts every position below 2^64, also behind the end.
-/

namespace CompoundFile

/-- The unit in which a stream is stored. -/
inductive Storage where
  | sectors
  | shortSectors
  deriving DecidableEq, Repr, Inhabited

/-- The text of a unit of storage. -/
def Storage.toText : Storage → String
  | sectors => "Sectors"
  | shortSectors => "ShortSectors"

/-- What is needed to find the content of streams. -/
structure Allocation where
  header : Header
  fat : AllocationTable
  mini : Option MiniStream
  deriving DecidableEq, Repr

namespace Allocation

/-- The unit in which the content of an entry is stored. -/
def storageOf (a : Allocation) (e : Directory.Entry) : Storage :=
  if e.type ≠ .root ∧ e.size.toNat < a.header.miniStreamCutoff.toNat then .shortSectors
  else .sectors

/-- The size of a unit in bytes. -/
def unitSize (a : Allocation) : Storage → Nat
  | .sectors => a.header.sectorSize
  | .shortSectors => a.header.shortSectorSize

theorem unitSize_pos (a : Allocation) (s : Storage) : 0 < a.unitSize s := by
  cases s
  · exact a.header.sectorSize_pos
  · exact a.header.shortSectorSize_pos

/-- The units that hold the content of an entry, in order. -/
def chainOf (a : Allocation) (e : Directory.Entry) : Except Error (List UInt32) :=
  let storage := a.storageOf e
  let needed := ceilDiv e.size.toNat (a.unitSize storage)
  match storage with
  | .sectors => (a.fat.resolvePrefix e.startSector needed).mapError fun f => .format (.chain f)
  | .shortSectors =>
    if e.size = 0 then .ok []
    else
      match a.mini with
      | none => .error (.format (.noMiniStream e.sid))
      | some mini =>
        (mini.table.resolvePrefix e.startSector needed).mapError fun f => .format (.chain f)

/-- Where in the file a byte of a unit is. The byte is within the unit, so its address does not end
the program. -/
def place (a : Allocation) (storage : Storage) (unit : UInt32) (within : Nat)
    (hw : within < a.unitSize storage) : Except FormatFault Nat :=
  match storage, hw with
  | .sectors, _ => .ok (a.header.sectorOffset unit + within)
  | .shortSectors, hw =>
    match a.mini.bind fun mini =>
      Panic.value (mini.fileOffset a.header unit (.ofNat within)) (mini.exists_fileOffset _ _ hw) with
    | some offset => .ok offset
    | none => .error (.outsideMiniStream unit)

end Allocation

/-- A reader of one stream. -/
structure StreamReader where
  /-- The source of the file. -/
  source : Source
  allocation : Allocation
  storage : Storage
  /-- The units of the stream, in order. -/
  units : Array UInt32
  /-- The declared size in bytes. -/
  size : Nat
  position : Nat

/-- The target of a seek. -/
inductive SeekTarget where
  | start (position : UInt64)
  | fromEnd (delta : Int64)
  | fromCurrent (delta : Int64)
  deriving DecidableEq, Repr

namespace StreamReader

/-- The reader of an entry's stream, at its beginning. -/
def make (source : Source) (a : Allocation) (e : Directory.Entry) : Except Error StreamReader := do
  if e.type ≠ .stream ∧ e.type ≠ .root then
    throw (.argument (.noStreamData e.sid e.type))
  let units ← a.chainOf e
  return {
    source
    allocation := a
    storage := a.storageOf e
    units := units.toArray
    size := e.size.toNat
    position := 0 }

/-- The size of a unit of the stream. -/
def unitSize (r : StreamReader) : Nat := r.allocation.unitSize r.storage

theorem within_lt (r : StreamReader) : r.position % r.unitSize < r.unitSize :=
  Nat.mod_lt _ (r.allocation.unitSize_pos r.storage)

/-- Where in the file the byte at the position is, and how many bytes are left in its unit. -/
def locate (r : StreamReader) : Except FormatFault (Nat × Nat) :=
  match r.units[r.position / r.unitSize]? with
  | none => .error (.noSector r.position)
  | some unit =>
    (r.allocation.place r.storage unit (r.position % r.unitSize) r.within_lt).map fun offset =>
      (offset, r.unitSize - r.position % r.unitSize)

theorem left_pos_of_locate {r : StreamReader} {offset left : Nat}
    (h : r.locate = .ok (offset, left)) : 0 < left := by
  have hlt := r.within_lt
  unfold locate at h
  split at h
  · cases h
  next unit _ =>
    match hp : r.allocation.place r.storage unit (r.position % r.unitSize) r.within_lt with
    | .error _ => rw [hp] at h; cases h
    | .ok _ => rw [hp] at h; cases h; omega

/-- Read `wanted` more bytes, as far as the stream goes, and append them to `got`. -/
def readInto (got : ByteArray) (wanted : Nat) (r : StreamReader) :
    Except ReadError ByteArray × StreamReader :=
  if _hmore : 0 < wanted ∧ r.position < r.size then
    match _hloc : r.locate with
    | .error fault => (.error (.carried (.format fault)), r)
    | .ok (offset, left) =>
      let count := min wanted (min left (r.size - r.position))
      match (Fetch.readAt offset count).run r.source with
      | (.error e, source) => (.error e.toRead, { r with source })
      | (.ok data, source) =>
        if data.size < count then
          (.error (.carried (.format (.truncated (offset + data.size)))), { r with source })
        else
          readInto (got ++ data) (wanted - count)
            { r with source, position := r.position + count }
  else (.ok got, r)
termination_by wanted
decreasing_by
  have := left_pos_of_locate _hloc
  omega

/-- Read up to `wanted` bytes from the position on; fewer only at the end of the stream. -/
def read (r : StreamReader) (wanted : Nat) : Except ReadError ByteArray × StreamReader :=
  r.readInto ByteArray.empty wanted

/-- Read `wanted` bytes from the position on. -/
def readExact (r : StreamReader) (wanted : Nat) : Except ReadError ByteArray × StreamReader :=
  match r.read wanted with
  | (.ok data, r) => (if data.size < wanted then .error .unexpectedEof else .ok data, r)
  | failed => failed

/-- Read everything from the position on. -/
def readToEnd (r : StreamReader) : Except Error ByteArray × StreamReader :=
  match r.read (r.size - r.position) with
  | (.ok data, r) => (.ok data, r)
  | (.error e, r) => (.error e.toError, r)

/-- The number that a seek aims at, which may be no position. -/
def target (r : StreamReader) : SeekTarget → Int
  | .start position => position.toNat
  | .fromEnd delta => r.size + delta.toInt
  | .fromCurrent delta => r.position + delta.toInt

/-- Move the position. -/
def seek (r : StreamReader) (t : SeekTarget) : Except ReadError Nat × StreamReader :=
  let target := r.target t
  if 0 ≤ target ∧ target < UInt64.size then
    (.ok target.toNat, { r with position := target.toNat })
  else (.error .invalidSeek, r)

/-- The text of a reader. -/
def toText (r : StreamReader) : String :=
  s!"StreamReader \x7b storage: {r.storage.toText}, size: {r.size}, position: {r.position}, " ++
    s!"sectors: {r.units.size} \x7d"

end StreamReader

end CompoundFile
