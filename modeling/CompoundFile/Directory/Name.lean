import CompoundFile.Text.Uppercase
import CompoundFile.Text.Utf16

/-!
# Names of directory entries

Names are compared without regard to case, by their uppercase forms.

**Order.** A name of fewer UTF-16 units comes first; names of equal length are ordered by the
units of their uppercase forms.

**Match.** Two names match when their uppercase forms are the same characters.
-/

namespace CompoundFile.Directory

open Text

/-- The length of a name in UTF-16 units. -/
def unitCount (name : String) : Nat := (Utf16.encode name.toList).length

/-- The uppercase form of a name. -/
def folded (name : String) : List Char := Uppercase.upper name.toList

/-- The uppercase form of a name in UTF-16 units. -/
def foldedUnits (name : String) : List UInt16 := Utf16.encode (folded name)

/-- The order of names in a directory. -/
def compareNames : String → String → Ordering :=
  compareLex (compareOn unitCount) (compareOn foldedUnits)

/-- Whether a look-up by one name finds the other. -/
def namesMatch (a b : String) : Bool := folded a == folded b

/-! ## Paths -/

/-- The pieces of a text between separators, empty ones included. -/
def pieces (separator : Char) : List Char → List (List Char)
  | [] => [[]]
  | c :: cs =>
    match pieces separator cs with
    | [] => [[c]]
    | p :: ps => if c = separator then [] :: p :: ps else (c :: p) :: ps

/-- The names of a path: what stands between its slashes, empty pieces left out. -/
def segments (path : String) : List String :=
  ((pieces '/' path.toList).filter (· ≠ [])).map String.ofList

end CompoundFile.Directory
