import CompoundFile.Source
import CompoundFile.Words

/-!
# The mini stream

Small streams are stored in short sectors of 64 bytes. Short sectors lie one behind the other in
the mini stream, which is the content of the root and is itself stored in sectors. The MiniFAT is
the allocation table of the short sectors.

**Address map.** Short sector `n` begins at byte `64 n` of the mini stream. `fileOffset` finds the
sector that holds a byte of the mini stream, and so the byte's place in the file. Addresses in the
mini stream are 64-bit words, and an offset that leads beyond them ends the program. An offset within
a short sector never does (`exists_fileOffset`).
-/

namespace CompoundFile

/-- The rounded-up quotient. -/
def ceilDiv (n d : Nat) : Nat := (n + (d - 1)) / d

/-- The MiniFAT and where the mini stream is. -/
structure MiniStream where
  /-- The MiniFAT. -/
  table : AllocationTable
  /-- The sectors of the mini stream, in order. -/
  sectors : Array UInt32
  /-- The size of the mini stream in bytes. -/
  size : UInt64
  deriving DecidableEq, Repr

namespace MiniStream

/-- Whether the header says that there is a MiniFAT. -/
def hasMiniFat (h : Header) : Bool :=
  h.firstMiniFatSector != endOfChainMark && h.firstMiniFatSector != freeMark &&
    h.miniFatSectors != 0

/-- Whether the root says that there is a mini stream. -/
def hasContent (root : Directory.Entry) : Bool :=
  root.size != 0 && root.startSector != endOfChainMark

/-- Load the MiniFAT and find the mini stream of a file. Nothing if the file lacks one or the
other. -/
def load (h : Header) (fat : AllocationTable) (root : Directory.Entry) :
    Fetch (Option MiniStream) := do
  if !(hasMiniFat h && hasContent root) then
    return none
  let needed := ceilDiv root.size.toNat h.sectorSize
  let sectors ← Fetch.ofExcept .chain (fat.resolvePrefix root.startSector needed)
  let chain ← Fetch.ofExcept .chain (fat.resolve h.firstMiniFatSector)
  let data ← h.readChain fat.capacity chain
  return some {
    table := {
      kind := .miniFat
      entries := Bytes.words32 data
      capacity := ceilDiv root.size.toNat h.shortSectorSize }
    sectors := sectors.toArray
    size := root.size }

/-- The address in the mini stream of a byte at an offset from a short sector, if it is a word. -/
def address (h : Header) (short : UInt32) (offset : UInt64) : Except Panic UInt64 :=
  Words.add (.ofNat (short.toNat * h.shortSectorSize)) offset

/-- Where in the file the byte at an address is, if it is in the mini stream. -/
def placeAt (m : MiniStream) (h : Header) (address : UInt64) : Option Nat :=
  if m.size ≤ address then none
  else
    (m.sectors[address.toNat / h.sectorSize]?).map fun sector =>
      h.sectorOffset sector + address.toNat % h.sectorSize

/-- Where in the file a byte at an offset from a short sector is, if it is in the mini stream. -/
def fileOffset (m : MiniStream) (h : Header) (short : UInt32) (offset : UInt64) :
    Except Panic (Option Nat) :=
  (address h short offset).map (m.placeAt h)

theorem toNat_start (h : Header) (short : UInt32) :
    (UInt64.ofNat (short.toNat * h.shortSectorSize)).toNat = short.toNat * h.shortSectorSize := by
  have hshort := short.toNat_lt
  rw [h.shortSectorSize_eq, UInt64.toNat_ofNat_of_lt']
  rw [UInt64.size]
  omega

/-- The address of a byte within a short sector is a word. -/
theorem exists_address (h : Header) (short : UInt32) {within : Nat}
    (hw : within < h.shortSectorSize) :
    ∃ w, address h short (.ofNat within) = .ok w ∧
      w.toNat = short.toNat * h.shortSectorSize + within := by
  have hshort := short.toNat_lt
  have hwithin : (UInt64.ofNat within).toNat = within := by
    rw [h.shortSectorSize_eq] at hw
    refine UInt64.toNat_ofNat_of_lt' ?_
    rw [UInt64.size]
    omega
  have hlt : (UInt64.ofNat (short.toNat * h.shortSectorSize)).toNat +
      (UInt64.ofNat within).toNat < UInt64.size := by
    rw [toNat_start, hwithin, UInt64.size]
    rw [h.shortSectorSize_eq] at hw ⊢
    omega
  obtain ⟨w, hadd, hsum⟩ := Words.exists_add hlt
  rw [toNat_start, hwithin] at hsum
  exact ⟨w, hadd, hsum⟩

theorem exists_fileOffset (m : MiniStream) (h : Header) (short : UInt32) {within : Nat}
    (hw : within < h.shortSectorSize) : ∃ place, m.fileOffset h short (.ofNat within) = .ok place := by
  obtain ⟨w, haddress, -⟩ := exists_address h short hw
  exact ⟨m.placeAt h w, by rw [fileOffset, haddress]; rfl⟩

end MiniStream

end CompoundFile
