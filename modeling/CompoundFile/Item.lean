import CompoundFile.Directory.Tree
import CompoundFile.Error
import CompoundFile.Text.Quoted

/-!
# Items

An item is an entry of a storage tree together with the tree, so that one can go from an item to
the items below it. The children of an item keep the order of the tree.

**Look-up.** A child is found by its name, an item further down by its path: the names on the way,
separated by slashes. Empty names in a path are skipped, so the empty path leads to the item
itself. A failed look-up reports what was asked for, as it was spelled.
-/

namespace CompoundFile

open Directory (Entry Tree)

/-- An entry of a storage tree. -/
structure Item where
  tree : Tree
  entry : Entry

namespace Item

/-- The item of a tree with an entry number. -/
def ofSid? (t : Tree) (sid : UInt32) : Option Item := (t.entry? sid).map fun entry => ⟨t, entry⟩

/-- The number of the entry. -/
def sid (i : Item) : UInt32 := i.entry.sid

/-- Whether two items of one tree are the same. -/
def same (i j : Item) : Bool := i.sid == j.sid

def isRoot (i : Item) : Bool := i.entry.type = .root

def isStorage (i : Item) : Bool := i.entry.type = .storage

def isStream (i : Item) : Bool := i.entry.type = .stream

/-- The items directly below, in order. -/
def subItems (i : Item) : List Item := (i.tree.children i.sid).filterMap (ofSid? i.tree)

/-- The item directly below at a place in the order. -/
def subItem? (i : Item) (index : Nat) : Option Item :=
  ((i.tree.children i.sid)[index]?).bind (ofSid? i.tree)

/-- The item that a look-up of `name` found. -/
def found (t : Tree) (name : String) (sid : Option UInt32) : Except Error Item :=
  match sid.bind (ofSid? t) with
  | some item => .ok item
  | none => .error (.itemNotFound name)

/-- The item directly below with a name. -/
def subItemByName (i : Item) (name : String) : Except Error Item :=
  found i.tree name (i.tree.findChild i.sid name)

/-- The item below at a path. -/
def subItemByPath (i : Item) (path : String) : Except Error Item :=
  found i.tree path (i.tree.descend i.sid (Directory.segments path))

/-- The text of an item. -/
def toText (i : Item) : String :=
  s!"Item \x7b sid: {i.sid.toNat}, name: " ++ Text.Quoted.encode i.entry.name ++
    s!", type: {i.entry.type.toText}, size: {i.entry.size.toNat} \x7d"

end Item

end CompoundFile
