import CompoundFile.Chain
import CompoundFile.Directory.Entry
import CompoundFile.Header
import CompoundFile.PropertySet.Decode

/-!
# Errors

Everything that can fail gives an `Error`. It says whether the file is damaged, the caller asked for
something that is not there, or the source of bytes failed.

**Two levels.** Reading and seeking in a stream speak `ReadError`, the errors of a source of
bytes. An `Error` passes through that level unharmed: `Error.toRead` carries it, and
`ReadError.toError` gives it back (`toError_toRead`).
-/

namespace CompoundFile

/-! ## Faults of a source -/

/-- The kinds of failure of a source of bytes. -/
inductive IoKind where
  | invalidData
  | invalidInput
  | unexpectedEof
  | notFound
  | other
  deriving DecidableEq, Repr, Inhabited

/-- A failure of a source of bytes, in the words of the source. -/
structure IoFault where
  kind : IoKind
  text : String
  deriving DecidableEq, Repr, Inhabited

/-- The failure to find a file. -/
def IoFault.noSuchFile : IoFault := ⟨.notFound, "No such file or directory (os error 2)"⟩

/-! ## Damage -/

/-- Why a file is not a sound compound file. -/
inductive FormatFault where
  | header (fault : Header.Fault)
  | chain (fault : ChainFault)
  | directory (fault : Directory.Fault)
  | propertySet (fault : PropertySet.Fault)
  /-- The file has fewer bytes than a header. -/
  | tooSmall (size : Nat)
  | sectorBeyondEnd (sector : UInt32) (count : Nat)
  /-- A location of a FAT sector is no sector number. -/
  | fatLocation (location : UInt32)
  | tooManyFatSectors (declared : Nat)
  | difatTooLong (declared : Nat)
  | difatBeyondEnd (sector : UInt32)
  | difatCycle (sector : UInt32)
  /-- A position of a stream has no sector. -/
  | noSector (position : Nat)
  | outsideMiniStream (sector : UInt32)
  /-- A short stream in a file without a mini stream. -/
  | noMiniStream (sid : UInt32)
  /-- The file ends inside the data of a stream. -/
  | truncated (offset : Nat)
  /-- Damage that a caller describes. -/
  | described (text : String)
  deriving DecidableEq, Repr

/-- The words for damage. -/
def FormatFault.message : FormatFault → String
  | header fault => fault.message
  | chain fault => fault.message
  | directory fault => fault.message
  | propertySet fault => fault.message
  | tooSmall size => s!"file is {size} bytes, smaller than the 512-byte header"
  | sectorBeyondEnd sector count =>
    s!"sector {sector.toNat} beyond end of file ({count} sectors)"
  | fatLocation location => "invalid FAT sector location 0x" ++ Text.hex 8 location.toNat
  | tooManyFatSectors declared => s!"more FAT sectors listed than the declared {declared}"
  | difatTooLong declared => s!"DIFAT chain longer than the declared {declared} sectors"
  | difatBeyondEnd sector => s!"DIFAT sector {sector.toNat} beyond end of file"
  | difatCycle sector => s!"DIFAT chain contains a cycle at sector {sector.toNat}"
  | noSector position => s!"stream position {position} has no sector"
  | outsideMiniStream sector => s!"short sector {sector.toNat} is outside the mini stream"
  | noMiniStream sid => s!"stream {sid.toNat} needs the mini stream but the file has none"
  | truncated offset => s!"file truncated inside stream data at offset {offset}"
  | described text => text

/-! ## Arguments -/

/-- A set of access rights: one bit for reading, one for writing, and six without a meaning. -/
structure AccessFlags where
  bits : UInt8
  deriving DecidableEq, Repr, Inhabited

namespace AccessFlags

/-- The right to read, and nothing else. -/
def read : AccessFlags := ⟨1⟩

/-- The names of the rights, and the other bits as a number. -/
def parts (f : AccessFlags) : List String :=
  let n := f.bits.toNat
  (if n % 2 = 1 then ["READ"] else []) ++ (if n / 2 % 2 = 1 then ["WRITE"] else []) ++
    (if n / 4 ≠ 0 then ["0x" ++ Text.hex 1 (n / 4 * 4)] else [])

/-- The text of a set of access rights. -/
def toText (f : AccessFlags) : String :=
  "AccessFlags(" ++ (if f.bits = 0 then "0x0" else String.intercalate " | " f.parts) ++ ")"

end AccessFlags

/-- Why an argument is refused. -/
inductive ArgumentFault where
  /-- Only reading is possible. -/
  | flags (flags : AccessFlags)
  | emptyPath
  /-- An entry of this type is not a stream. -/
  | noStreamData (sid : UInt32) (type : EntryType)
  /-- A reason that a caller describes. -/
  | described (text : String)
  deriving DecidableEq, Repr

/-- The words for a refused argument. -/
def ArgumentFault.message : ArgumentFault → String
  | flags f =>
    "unsupported access flags " ++ f.toText ++ ", only read access is available"
  | emptyPath => "empty path"
  | noStreamData sid type => s!"entry {sid.toNat} ({type.toText}) has no stream data"
  | described text => text

/-! ## Errors -/

/-- An error of this library. -/
inductive Error where
  /-- The source of bytes failed. -/
  | io (fault : IoFault)
  /-- The file is damaged, or no compound file. -/
  | format (fault : FormatFault)
  /-- The operation needs an open file. -/
  | notOpen
  /-- The file is open already. -/
  | alreadyOpen
  | itemNotFound (name : String)
  | unsupportedCodepage (name : String)
  | argument (fault : ArgumentFault)
  deriving DecidableEq, Repr

namespace Error

/-- The words for an error. -/
def message : Error → String
  | io fault => "IO error: " ++ fault.text
  | format fault => "Invalid format: " ++ fault.message
  | notOpen => "File is not open"
  | alreadyOpen => "File is already open"
  | itemNotFound name => "Item not found: " ++ name
  | unsupportedCodepage name => "Unsupported codepage: " ++ name
  | argument fault => "Invalid argument: " ++ fault.message

/-- Whether the error says that the file is damaged. -/
def isFormat : Error → Bool
  | format _ => true
  | _ => false

/-- Whether the error says that the file is open, or is not. -/
def isLifecycle : Error → Bool
  | notOpen | alreadyOpen => true
  | _ => false

end Error

/-- An error of reading or seeking. -/
inductive ReadError where
  /-- A failure of the source, or of the request itself. -/
  | io (fault : IoFault)
  /-- Any other error of this library. -/
  | carried (error : Error)
  deriving DecidableEq, Repr

/-- The error of reading or seeking that stands for an error. -/
def Error.toRead : Error → ReadError
  | .io fault => .io fault
  | e => .carried e

namespace ReadError

/-- The kind of an error of reading or seeking. -/
def kind : ReadError → IoKind
  | io fault => fault.kind
  | carried (.io fault) => fault.kind
  | carried (.argument _) => .invalidInput
  | carried (.itemNotFound _) => .notFound
  | carried _ => .invalidData

/-- The words for an error of reading or seeking. -/
def message : ReadError → String
  | io fault => fault.text
  | carried e => e.message

/-- The error that an error of reading or seeking stands for. -/
def toError : ReadError → Error
  | io fault => .io fault
  | carried e => e

theorem toError_toRead (e : Error) : e.toRead.toError = e := by cases e <;> rfl

/-- The source ended before the bytes that were asked for. -/
def unexpectedEof : ReadError := .io ⟨.unexpectedEof, "failed to fill whole buffer"⟩

/-- The target of a seek is no position. -/
def invalidSeek : ReadError :=
  .io ⟨.invalidInput, "invalid seek to a negative or overflowing position"⟩

end ReadError

end CompoundFile
