import CompoundFile.Directory.Name
import CompoundFile.Directory.Siblings

/-!
# The storage tree

`Tree.parse` decodes a directory and finds out which entries belong to it: starting from the root,
of which there must be exactly one, it lists the children of every storage that it reaches.
Storages wait on a stack, so the last container found is listed first. Entries that are not
reached stay in the table but are not part of the tree.

**Irregularities.** Siblings out of order, a stream with a child link and a root that is not the
first record do no harm. They are reported as warnings on request, in the order in which they are
met.

**Look-up.** The order of siblings is not trusted: a child is found by trying every child in turn.
A path is a list of names; the empty path leads to where it starts.
-/

namespace CompoundFile.Directory

/-- A harmless irregularity of a directory. -/
inductive Warning where
  /-- Two neighbouring siblings are not in order. -/
  | misordered (parent left right : UInt32)
  /-- A stream has a child link. -/
  | streamWithChildren (sid : UInt32)
  /-- The root is not the first record. -/
  | rootNotFirst (sid : UInt32)
  deriving DecidableEq, Repr

/-- The words for a warning. -/
def Warning.message : Warning → String
  | misordered parent left right =>
    s!"children of entry {parent.toNat} out of order: {left.toNat} sorts after {right.toNat}"
  | streamWithChildren sid => s!"stream entry {sid.toNat} has a child pointer"
  | rootNotFirst sid => s!"root entry found at index {sid.toNat}"

/-! ## Linking -/

/-- A storage and its children in order. -/
structure Family where
  parent : UInt32
  children : List UInt32
  deriving DecidableEq, Repr

/-- Whether an entry number is that of a storage or the root. -/
def isContainer (es : Array Entry) (sid : UInt32) : Bool :=
  (es[sid.toNat]?).any (·.type.isContainer)

/-- The child link of an entry. -/
def childLink (es : Array Entry) (sid : UInt32) : UInt32 :=
  ((es[sid.toNat]?).map (·.child)).getD noEntry

/-- The name of an entry. -/
def nameOf (es : Array Entry) (sid : UInt32) : String :=
  ((es[sid.toNat]?).map (·.name)).getD ""

/-- List the families of the storages that wait, and of all storages found on the way. -/
def link (es : Array Entry) (waiting : List UInt32) (families : Array Family)
    (seen : Marks es.size) : Except Fault (List Family × Marks es.size) :=
  match waiting with
  | [] => .ok (families.toList, seen)
  | parent :: waiting =>
    match _h : siblings es parent (childLink es parent) [] #[] seen with
    | .error fault => .error fault
    | .ok (children, seen') =>
      link es ((children.filter (isContainer es)).reverse ++ waiting)
        (families.push ⟨parent, children⟩) seen'
termination_by seen.room + waiting.length
decreasing_by
  have := room_of_siblings _h
  have := List.length_filter_le (isContainer es) children
  simp only [List.length_append, List.length_reverse, List.length_cons, List.length_nil,
    List.size_toArray] at *
  omega

/-! ## Irregularities -/

/-- Whether a sibling may stand directly before another. -/
def inOrder (es : Array Entry) (left right : UInt32) : Bool :=
  compareNames (nameOf es left) (nameOf es right) == .lt

/-- The irregularities of one family. -/
def Family.warnings (es : Array Entry) (f : Family) : List Warning :=
  ((f.children.zip f.children.tail).filter fun (left, right) => !inOrder es left right).map
      (fun (left, right) => .misordered f.parent left right) ++
    (f.children.filter fun sid => !isContainer es sid && childLink es sid != noEntry).map
      .streamWithChildren

/-- The irregularities of a directory. -/
def irregularities (es : Array Entry) (root : UInt32) (families : List Family) : List Warning :=
  (if root ≠ 0 then [.rootNotFirst root] else []) ++ families.flatMap (Family.warnings es)

/-! ## The tree -/

/-- The entries of a directory and the structure that its links give them. -/
structure Tree where
  /-- All entries, by number. -/
  entries : Array Entry
  /-- The children of every entry, in order. -/
  families : Array (List UInt32)
  /-- The number of the root. -/
  root : UInt32
  /-- The entries that belong to the tree. -/
  reachable : Marks entries.size

namespace Tree

/-- The entries of a directory. -/
def parseEntries (data : ByteArray) (major : UInt16) : Except Fault (List Entry) :=
  (Bytes.chunks Entry.recordSize data).zipIdx.mapM fun (record, i) =>
    Entry.parse record (UInt32.ofNat i) major

/-- The number of the only root. -/
def findRoot (es : List Entry) : Except Fault UInt32 :=
  match es.filter (·.type = .root) with
  | [] => .error .noRoot
  | [e] => .ok e.sid
  | _ => .error .manyRoots

/-- The table of children that a list of families gives. -/
def table (count : Nat) (families : List Family) : Array (List UInt32) :=
  families.foldl (fun t f => t.setIfInBounds f.parent.toNat f.children) (Array.replicate count [])

/-- Decode a directory of a major version. Warnings are given in strict mode only. -/
def parse (data : ByteArray) (major : UInt16) (strict : Bool) :
    Except Fault (Tree × List Warning) := do
  if data.size < Entry.recordSize then
    throw .noRecords
  let list ← parseEntries data major
  let root ← findRoot list
  let entries := list.toArray
  let (families, reachable) ←
    link entries [root] #[] ((Marks.clear entries.size).mark root.toNat)
  let tree : Tree := { entries, families := table entries.size families, root, reachable }
  return (tree, if strict then irregularities entries root families else [])

/-- The entry with a number. -/
def entry? (t : Tree) (sid : UInt32) : Option Entry := t.entries[sid.toNat]?

/-- The children of an entry, in order. -/
def children (t : Tree) (sid : UInt32) : List UInt32 := (t.families[sid.toNat]?).getD []

/-- The name of an entry. -/
def name (t : Tree) (sid : UInt32) : String := nameOf t.entries sid

/-- Whether an entry number belongs to the tree. -/
def isReachable (t : Tree) (sid : UInt32) : Bool := t.reachable.contains sid.toNat

/-- How many entries belong to the tree, the root included. -/
def reachableCount (t : Tree) : Nat := 1 + t.families.toList.flatten.length

/-- The first child with a matching name. -/
def findChild (t : Tree) (parent : UInt32) (name : String) : Option UInt32 :=
  (t.children parent).find? fun sid => namesMatch (t.name sid) name

/-- The entry that a list of names leads to. -/
def descend (t : Tree) (origin : UInt32) (names : List String) : Option UInt32 :=
  names.foldlM t.findChild origin

/-- The entry at a path from the root. -/
def findPath (t : Tree) (path : String) : Option UInt32 := t.descend t.root (segments path)

/-- The entries below an entry with their paths, each before the entries below it. `depth` bounds
the number of levels. -/
def below (t : Tree) : Nat → String → UInt32 → List (String × UInt32)
  | 0, _, _ => []
  | depth + 1, path, sid =>
    (t.children sid).flatMap fun child =>
      let path := path ++ "/" ++ t.name child
      (path, child) :: t.below depth path child

/-- All entries below the root with their paths, each before the entries below it. -/
def outline (t : Tree) : List (String × UInt32) := t.below t.entries.size "" t.root

end Tree

end CompoundFile.Directory
