import CompoundFile.Bytes
import CompoundFile.Error

/-!
# Sources of bytes

A source holds a medium, the bytes themselves and perhaps a region that cannot be read, and a
cursor. One low-level read gives some bytes from the cursor on. It may give fewer than asked for,
and it may be interrupted a number of times first; the `Pace` of the source says so for every
read.

**Gathering.** `Source.gather` repeats low-level reads until all bytes are there or the medium
ends. It starts anew after an interruption, so neither short reads nor interruptions show in what
it gives.

`Fetch` is the type of programs that read from a source and may fail.
-/

namespace CompoundFile

/-- A region of a medium that cannot be read. -/
structure BadRegion where
  first : Nat
  /-- The first offset behind the region. -/
  past : Nat
  fault : IoFault
  deriving DecidableEq, Repr

/-- The bytes of a source and what of them cannot be read. -/
structure Medium where
  bytes : ByteArray
  bad : Option BadRegion

namespace Medium

/-- The fault that reading the bytes from `offset` up to `past` meets, if it meets one. -/
def fault? (m : Medium) (offset past : Nat) : Option IoFault :=
  match m.bad with
  | none => none
  | some r => if max offset r.first < min past r.past then some r.fault else none

end Medium

/-- How a source delivers: for every successful low-level read, how many interruptions come
before it and how many bytes it gives at most, less one. -/
structure Pace where
  interruptions : Nat → Nat
  limit : Nat → Nat

/-- A pace without interruptions that gives everything at once. -/
def Pace.steady : Pace := ⟨fun _ => 0, fun _ => UInt64.size⟩

/-- A source of bytes with a cursor. -/
structure Source where
  medium : Medium
  pace : Pace
  /-- The offset at which the next read begins. -/
  position : Nat
  /-- The number of low-level reads that succeeded. -/
  served : Nat
  /-- The number of interruptions before the next one succeeds. -/
  pending : Nat

/-- What a low-level read gives. -/
inductive Delivery where
  | interrupted
  | failed (fault : IoFault)
  | bytes (b : ByteArray)

namespace Source

/-- The source of a medium and a pace, at its beginning. -/
def ofMedium (medium : Medium) (pace : Pace) : Source :=
  ⟨medium, pace, 0, 0, pace.interruptions 0⟩

/-- The number of bytes of a source. -/
def size (s : Source) : Nat := s.medium.bytes.size

/-- Move the cursor. -/
def seek (s : Source) (position : Nat) : Source := { s with position }

/-- The number of bytes that the next successful read for `wanted` bytes gives. -/
def share (s : Source) (wanted : Nat) : Nat :=
  min (min wanted (s.pace.limit s.served + 1)) (s.size - s.position)

/-- One low-level read of at most `wanted` bytes. -/
def read (s : Source) (wanted : Nat) : Delivery × Source :=
  if 0 < s.pending then (.interrupted, { s with pending := s.pending - 1 })
  else
    let past := s.position + s.share wanted
    match s.medium.fault? s.position past with
    | some fault => (.failed fault, s)
    | none =>
      (.bytes (s.medium.bytes.extract s.position past),
        { s with
          position := past
          served := s.served + 1
          pending := s.pace.interruptions (s.served + 1) })

theorem pending_of_interrupted {s s' : Source} {wanted : Nat}
    (h : s.read wanted = (.interrupted, s')) : s'.pending < s.pending := by
  unfold read at h
  split at h
  next hp => cases h; exact Nat.sub_lt hp Nat.one_pos
  next =>
    dsimp only at h
    split at h <;> cases h

/-- What a read of at most `wanted` bytes gives once the source no longer interrupts it. -/
def deliver (wanted : Nat) (s : Source) : Except IoFault ByteArray × Source :=
  match _h : s.read wanted with
  | (.interrupted, s) => deliver wanted s
  | (.failed fault, s) => (.error fault, s)
  | (.bytes b, s) => (.ok b, s)
termination_by s.pending
decreasing_by exact pending_of_interrupted _h

/-- Read `wanted` bytes, or as many as there are, and append them to `got`. -/
def gather (got : ByteArray) (wanted : Nat) (s : Source) : Except IoFault ByteArray × Source :=
  if wanted = 0 then (.ok got, s)
  else
    match s.deliver wanted with
    | (.error fault, s) => (.error fault, s)
    | (.ok b, s) =>
      if b.size = 0 then (.ok got, s) else gather (got ++ b) (wanted - b.size) s
termination_by wanted
decreasing_by omega

end Source

/-! ## Programs that read -/

/-- A program that reads from a source and may fail. -/
abbrev Fetch := ExceptT Error (StateM Source)

namespace Fetch

/-- The result of a pure step that fails only for damage. -/
def ofExcept {ε α : Type} (wrap : ε → FormatFault) : Except ε α → Fetch α
  | .ok a => pure a
  | .error e => throw (.format (wrap e))

/-- The number of bytes of the source; the cursor moves behind the last. -/
def size : Fetch Nat := ExceptT.mk fun s => (.ok s.size, s.seek s.size)

/-- The bytes from the cursor on, `wanted` of them or as many as there are. -/
def read (wanted : Nat) : Fetch ByteArray := ExceptT.mk fun s =>
  match s.gather ByteArray.empty wanted with
  | (.ok b, s) => (.ok b, s)
  | (.error fault, s) => (.error (.io fault), s)

/-- The bytes from an offset on, `wanted` of them or as many as there are. -/
def readAt (offset wanted : Nat) : Fetch ByteArray := do
  modify fun s : Source => s.seek offset
  read wanted

/-- The `wanted` bytes from an offset on. -/
def readExactAt (offset wanted : Nat) : Fetch ByteArray := do
  let b ← readAt offset wanted
  if b.size < wanted then
    throw ReadError.unexpectedEof.toError
  return b

end Fetch

/-! ## Sectors -/

namespace Header

/-- Read a sector of a file that has `count` sectors. Bytes that the file lacks read as zero. -/
def readSector (h : Header) (count : Nat) (sector : UInt32) : Fetch ByteArray := do
  if count ≤ sector.toNat then
    throw (.format (.sectorBeyondEnd sector count))
  return Bytes.padTo h.sectorSize (← Fetch.readAt (h.sectorOffset sector) h.sectorSize)

/-- Read the sectors of a chain, one behind the other. -/
def readChain (h : Header) (count : Nat) (chain : List UInt32) : Fetch ByteArray :=
  chain.foldlM (fun data sector => return data ++ (← h.readSector count sector)) ByteArray.empty

/-- Whether a source holds the signature at its beginning. The cursor is at the beginning
afterwards, unless reading fails. -/
def checkSignature : Fetch Bool := do
  let b ← Fetch.readAt 0 8
  modify fun s : Source => s.seek 0
  return hasSignature b

end Header

end CompoundFile
