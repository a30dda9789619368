import CompoundFile.Fat
import CompoundFile.Item
import CompoundFile.Stream

/-!
# The contents of a file

`Contents.load` decodes all of a compound file but its streams: the header, the FAT, the directory
and the MiniFAT, which can be found only when the root is known. The first part that is damaged
decides the error.

Items are looked up by path or by entry number. Entries that are not part of the tree are no items.
-/

namespace CompoundFile

/-- How files are read. -/
structure OpenOptions where
  /-- Whether irregularities of the directory are reported. -/
  strict : Bool
  /-- The codepage of narrow text that declares none. -/
  codepage : Codepage
  deriving DecidableEq, Repr, Inhabited

/-- The text of options. -/
def OpenOptions.toText (o : OpenOptions) : String :=
  s!"OpenOptions \x7b strict: {o.strict}, ascii_codepage: {o.codepage.label} \x7d"

/-- What is known of a file. -/
structure Contents where
  /-- The size of the file in bytes. -/
  size : Nat
  header : Header
  fat : AllocationTable
  mini : Option MiniStream
  tree : Directory.Tree
  /-- The irregularities found in the directory. -/
  warnings : List Directory.Warning

namespace Contents

/-- Read the header of a file of a given size. -/
def loadHeader (size : Nat) : Fetch Header := do
  if size < Header.size then
    throw (.format (.tooSmall size))
  Fetch.ofExcept .header (Header.parse (← Fetch.readExactAt 0 Header.size))

/-- Read the directory of a file. -/
def loadDirectory (h : Header) (fat : AllocationTable) (strict : Bool) :
    Fetch (Directory.Tree × List Directory.Warning) := do
  let chain ← Fetch.ofExcept .chain (fat.resolve h.firstDirectorySector)
  let data ← h.readChain fat.capacity chain
  Fetch.ofExcept .directory (Directory.Tree.parse data h.version.major strict)

/-- The MiniFAT and the mini stream that belong to a tree. -/
def loadMini (h : Header) (fat : AllocationTable) (tree : Directory.Tree) :
    Fetch (Option MiniStream) :=
  match tree.entry? tree.root with
  | none => return none
  | some root => MiniStream.load h fat root

/-- Read everything but the streams. -/
def load (options : OpenOptions) : Fetch Contents := do
  let size ← Fetch.size
  let header ← loadHeader size
  let fat ← Fat.load header (header.sectorCount size)
  let (tree, warnings) ← loadDirectory header fat options.strict
  let mini ← loadMini header fat tree
  return { size, header, fat, mini, tree, warnings }

/-! ## Items -/

/-- The root. -/
def root (c : Contents) : Except Error Item := Item.found c.tree "" (some c.tree.root)

/-- The item at a path. -/
def itemByPath (c : Contents) (path : String) : Except Error Item :=
  Item.found c.tree path (c.tree.findPath path)

/-- The item with an entry number. -/
def itemBySid (c : Contents) (sid : UInt32) : Except Error Item :=
  Item.found c.tree s!"#{sid.toNat}" (if c.tree.isReachable sid then some sid else none)

/-- The number of items, the root included. -/
def itemCount (c : Contents) : Nat := c.tree.reachableCount

/-- The items below the root with their paths, each before the items below it. -/
def outline (c : Contents) : List (String × Item) :=
  c.tree.outline.filterMap fun (path, sid) => (Item.ofSid? c.tree sid).map fun i => (path, i)

/-! ## Streams -/

/-- What is needed to find the content of streams. -/
def allocation (c : Contents) : Allocation := ⟨c.header, c.fat, c.mini⟩

/-- A reader of an item's stream. -/
def stream (c : Contents) (source : Source) (i : Item) : Except Error StreamReader :=
  StreamReader.make source c.allocation i.entry

end Contents

end CompoundFile
