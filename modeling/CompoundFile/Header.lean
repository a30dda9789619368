import CompoundFile.Bytes
import CompoundFile.ClassId
import CompoundFile.Text.Hex

/-!
# The file header

The first 512 bytes of a compound file say how the rest is laid out. `parse` decodes them and
refuses a header that this library does not support, for the first of these reasons that applies:
wrong signature, byte order, sector shift, short sector shift, version, number of directory sectors,
or a mini stream cutoff of zero.

**Geometry.** The sector size is a power of two, given by the version. The header takes the place
of a sector, so sector `n` begins at `(n + 1)` times the sector size; a partial sector at the end
of the file counts as a sector.
-/

namespace CompoundFile

/-- The two versions of the format. -/
inductive Version where
  /-- Major version 3, sectors of 512 bytes. -/
  | three
  /-- Major version 4, sectors of 4096 bytes. -/
  | four
  deriving DecidableEq, Repr, Inhabited

namespace Version

/-- The major version number. -/
def major : Version → UInt16
  | three => 3
  | four => 4

/-- The binary logarithm of the sector size. -/
def sectorShift : Version → Nat
  | three => 9
  | four => 12

/-- The size of a sector in bytes. -/
def sectorSize : Version → Nat
  | three => 512
  | four => 4096

theorem sectorSize_eq_shiftLeft (v : Version) : v.sectorSize = 1 <<< v.sectorShift := by
  cases v <;> rfl

end Version

/-- What a header says. -/
structure Header where
  clsid : ClassId
  minorVersion : UInt16
  version : Version
  directorySectors : UInt32
  fatSectors : UInt32
  firstDirectorySector : UInt32
  transactionSignature : UInt32
  /-- Streams below this size live in the mini stream. -/
  miniStreamCutoff : UInt32
  firstMiniFatSector : UInt32
  miniFatSectors : UInt32
  firstDifatSector : UInt32
  difatSectors : UInt32
  /-- The first locations of FAT sectors. -/
  inlineDifat : Vector UInt32 109
  deriving DecidableEq, Repr

namespace Header

/-- The size of the header in bytes. -/
def size : Nat := 512

/-- The bytes at the start of every compound file. -/
def signature : List UInt8 := [0xD0, 0xCF, 0x11, 0xE0, 0xA1, 0xB1, 0x1A, 0xE1]

/-- Whether a byte string begins with the signature. -/
def hasSignature (b : ByteArray) : Bool := (b.extract 0 8).data.toList == signature

/-- The byte order mark of little-endian files. -/
def byteOrderMark : UInt16 := 0xFFFE

/-- The binary logarithm of the short sector size. -/
def shortSectorShift : Nat := 6

/-- Why a header is refused. -/
inductive Fault where
  | signature
  | byteOrder (mark : UInt16)
  | sectorShift (shift : UInt16)
  | shortSectorShift (shift : UInt16)
  /-- The sector size is not that of the version. -/
  | versionMismatch (shift major : UInt16)
  | majorVersion (major : UInt16)
  /-- Version 3 has no count of directory sectors. -/
  | directorySectors (count : UInt32)
  | zeroCutoff
  deriving DecidableEq, Repr

/-- The words for a fault. -/
def Fault.message : Fault → String
  | signature => "invalid file signature"
  | byteOrder mark => "unsupported byte order: 0x" ++ Text.hex 4 mark.toNat
  | sectorShift shift => s!"unsupported sector shift: {shift.toNat}"
  | shortSectorShift shift => s!"unsupported short sector shift: {shift.toNat}"
  | versionMismatch shift major =>
    s!"sector shift {shift.toNat} does not match major version {major.toNat}"
  | majorVersion major => s!"unsupported major version: {major.toNat}"
  | directorySectors count => s!"version 3 header declares {count.toNat} directory sectors"
  | zeroCutoff => "mini stream cutoff is zero"

/-- The version with a major version number and a sector shift. -/
def version? (major shift : UInt16) : Except Fault Version :=
  if major = 3 ∧ shift = 9 then .ok .three
  else if major = 4 ∧ shift = 12 then .ok .four
  else if major = 3 ∨ major = 4 then .error (.versionMismatch shift major)
  else .error (.majorVersion major)

/-- Decode a header block. Bytes that the block lacks read as zero. -/
def parse (b : ByteArray) : Except Fault Header := do
  if Bytes.window b 0 8 ≠ signature then
    throw .signature
  let mark := Bytes.word16 b 0x1C
  if mark ≠ byteOrderMark then
    throw (.byteOrder mark)
  let shift := Bytes.word16 b 0x1E
  if shift ≠ 9 ∧ shift ≠ 12 then
    throw (.sectorShift shift)
  let shortShift := Bytes.word16 b 0x20
  if shortShift.toNat ≠ shortSectorShift then
    throw (.shortSectorShift shortShift)
  let version ← version? (Bytes.word16 b 0x1A) shift
  let directorySectors := Bytes.word32 b 0x28
  if version = .three ∧ directorySectors ≠ 0 then
    throw (.directorySectors directorySectors)
  let cutoff := Bytes.word32 b 0x38
  if cutoff = 0 then
    throw .zeroCutoff
  return {
    clsid := ClassId.read b 0x08
    minorVersion := Bytes.word16 b 0x18
    version
    directorySectors
    fatSectors := Bytes.word32 b 0x2C
    firstDirectorySector := Bytes.word32 b 0x30
    transactionSignature := Bytes.word32 b 0x34
    miniStreamCutoff := cutoff
    firstMiniFatSector := Bytes.word32 b 0x3C
    miniFatSectors := Bytes.word32 b 0x40
    firstDifatSector := Bytes.word32 b 0x44
    difatSectors := Bytes.word32 b 0x48
    inlineDifat := Vector.ofFn fun i => Bytes.word32 b (0x4C + 4 * i) }

/-! ## Geometry -/

/-- The size of a sector in bytes. -/
def sectorSize (h : Header) : Nat := h.version.sectorSize

/-- The size of a short sector in bytes. -/
def shortSectorSize (_ : Header) : Nat := 1 <<< shortSectorShift

/-- Where a sector begins in the file. -/
def sectorOffset (h : Header) (sector : UInt32) : Nat := (sector.toNat + 1) * h.sectorSize

/-- How many sectors, whole or partial, a file of a given size holds after its header. -/
def sectorCount (h : Header) (fileSize : Nat) : Nat :=
  (fileSize - h.sectorSize + (h.sectorSize - 1)) / h.sectorSize

/-- How many 32-bit entries a sector holds. -/
def entriesPerSector (h : Header) : Nat := h.sectorSize / 4

theorem sectorSize_pos (h : Header) : 0 < h.sectorSize := by
  unfold sectorSize
  cases h.version <;> decide

theorem shortSectorSize_eq (h : Header) : h.shortSectorSize = 64 := rfl

theorem shortSectorSize_pos (h : Header) : 0 < h.shortSectorSize := by
  rw [h.shortSectorSize_eq]
  exact Nat.succ_pos 63

end Header

end CompoundFile
