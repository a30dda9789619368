import CompoundFile.Session

/-!
# Snapshots

A snapshot lists everything below the root, each item before what is below it, and reads every
stream. A stream that cannot be read leaves its error in the list.
-/

namespace CompoundFile

/-- A line of a snapshot. -/
structure SnapshotLine where
  path : String
  entry : Directory.Entry
  /-- The content, for streams. -/
  data : Option (Except Error ByteArray)

namespace Session

/-- The line for an item. -/
def snapshotLine (s : Session) (path : String) (i : Item) : SnapshotLine × Session :=
  if i.isStream then
    match s.readStream (.sid i.sid) with
    | (data, s) => (⟨path, i.entry, some data⟩, s)
  else (⟨path, i.entry, none⟩, s)

/-- The lines for a list of items with their paths. -/
def snapshotLines (s : Session) : List (String × Item) → List SnapshotLine × Session
  | [] => ([], s)
  | (path, i) :: rest =>
    match s.snapshotLine path i with
    | (line, s) =>
      match s.snapshotLines rest with
      | (lines, s) => (line :: lines, s)

/-- List everything below the root. -/
def snapshot (s : Session) : Except Error (List SnapshotLine) × Session :=
  match s.contents with
  | .error e => (.error e, s)
  | .ok c =>
    match s.snapshotLines c.outline with
    | (lines, s) => (.ok lines, s)

end Session

end CompoundFile
