import CompoundFile.Contents
import CompoundFile.PropertySet

/-!
# Sessions

A session is open or closed. Opening reads the contents of a source and keeps both; closing
forgets the contents and gives the source back. Options belong to the session, in either state.

**Failing.** An open session is not opened again, and whether it is open is found out before the
source is read. If reading fails, the session stays closed. Every operation that needs contents
fails on a closed session, and no failure changes a session, except that a source which was read
has its cursor elsewhere.

**Streams.** A reader takes the source of the session with it. `withStream` makes a reader, lets
it work and takes the source back.
-/

namespace CompoundFile

/-- A source and its contents. -/
structure OpenFile where
  contents : Contents
  source : Source

/-- A session with one file. -/
structure Session where
  options : OpenOptions
  /-- The file, if one is open. -/
  file? : Option OpenFile

namespace Session

/-- A closed session. -/
def new (options : OpenOptions) : Session := ⟨options, none⟩

/-- Whether a file is open. -/
def isOpen (s : Session) : Bool := s.file?.isSome

/-- The open file. -/
def file (s : Session) : Except Error OpenFile :=
  match s.file? with
  | some f => .ok f
  | none => .error .notOpen

/-- The contents of the open file. -/
def contents (s : Session) : Except Error Contents := s.file.map (·.contents)

/-! ## Opening and closing -/

/-- Read the contents of a source and keep both. -/
def load (s : Session) (source : Source) : Except Error Unit × Session :=
  match (Contents.load s.options).run source with
  | (.ok contents, source) => (.ok (), { s with file? := some ⟨contents, source⟩ })
  | (.error e, _) => (.error e, s)

/-- Open a source. -/
def openSource (s : Session) (source : Source) : Except Error Unit × Session :=
  if s.isOpen then (.error .alreadyOpen, s) else s.load source

/-- Open a source for a use, of which only reading is possible. -/
def openWithFlags (s : Session) (source : Source) (flags : AccessFlags) :
    Except Error Unit × Session :=
  if flags ≠ .read then (.error (.argument (.flags flags)), s) else s.openSource source

/-- Open the file at a path, which is looked up only when it is needed. -/
def openPath (s : Session) (path : String) (lookup : String → Except IoFault Source) :
    Except Error Unit × Session :=
  if path = "" then (.error (.argument .emptyPath), s)
  else if s.isOpen then (.error .alreadyOpen, s)
  else
    match lookup path with
    | .error fault => (.error (.io fault), s)
    | .ok source => s.load source

/-- Forget the contents and give the source back. -/
def close (s : Session) : Except Error Source × Session :=
  match s.file? with
  | some f => (.ok f.source, { s with file? := none })
  | none => (.error .notOpen, s)

/-! ## Options -/

/-- Choose the codepage with a name for narrow text. -/
def setCodepage (s : Session) (name : String) : Except Error Unit × Session :=
  match Codepage.ofName? name with
  | some codepage => (.ok (), { s with options := { s.options with codepage } })
  | none => (.error (.unsupportedCodepage name), s)

/-! ## Items -/

/-- The item at a path. -/
def itemByPath (s : Session) (path : String) : Except Error Item := do
  (← s.contents).itemByPath path

/-- The item with an entry number. -/
def itemBySid (s : Session) (sid : UInt32) : Except Error Item := do
  (← s.contents).itemBySid sid

/-! ## Streams -/

/-- How an item is named. -/
inductive Locator where
  | path (path : String)
  | sid (sid : UInt32)
  deriving DecidableEq, Repr

/-- The item that a locator names. -/
def item (s : Session) : Locator → Except Error Item
  | .path path => s.itemByPath path
  | .sid sid => s.itemBySid sid

/-- A reader of an item's stream. -/
def reader (s : Session) (l : Locator) : Except Error StreamReader := do
  let i ← s.item l
  let f ← s.file
  f.contents.stream f.source i

/-- Put a source in the place of the one that a reader took. -/
def giveBack (s : Session) (source : Source) : Session :=
  { s with file? := s.file?.map fun f => { f with source } }

/-- Let a reader of an item's stream work. -/
def withStream {α : Type} (s : Session) (l : Locator)
    (work : StreamReader → Except Error α × StreamReader) : Except Error α × Session :=
  match s.reader l with
  | .error e => (.error e, s)
  | .ok r =>
    match work r with
    | (result, r) => (result, s.giveBack r.source)

/-- The whole content of an item's stream. -/
def readStream (s : Session) (l : Locator) : Except Error ByteArray × Session :=
  s.withStream l StreamReader.readToEnd

/-- Decode the property set in the stream at a path. -/
def propertySet (s : Session) (path : String) : Except Error PropertySet × Session :=
  match s.readStream (.path path) with
  | (.error e, s) => (.error e, s)
  | (.ok data, s) =>
    ((PropertySet.parse data s.options.codepage).mapError fun fault =>
      .format (.propertySet fault), s)

/-! ## Texts -/

/-- The text of a session. -/
def toText (s : Session) : String :=
  s!"OleFile \x7b options: {s.options.toText}, " ++
    (match s.file? with
    | some f =>
      s!"file_size: {f.contents.size}, version: {f.contents.header.version.major.toNat}, " ++
        s!"items: {f.contents.itemCount} \x7d"
    | none => "open: false \x7d")

end Session

end CompoundFile
