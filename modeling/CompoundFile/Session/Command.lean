import CompoundFile.Session.Snapshot
import CompoundFile.Stream.Script

/-!
# Session commands

Everything that can be done with a session, as one type. A `Question` leaves the session as it is;
a `Command` may open or close it, change its options or move the cursor of its source. What comes
out is an error or a `Reply`.

Items that a reply holds can be followed further without the session.
-/

namespace CompoundFile

namespace Session

/-- What can be asked of a session. -/
inductive Question where
  | isOpen
  | options
  /-- The text of the session. -/
  | text
  | fileSize
  | version
  | sectorSize
  | shortSectorSize
  | header
  | itemCount
  | warnings
  | root
  | item (locator : Locator)
  deriving DecidableEq, Repr

/-- What can be done with a session. -/
inductive Command where
  | openSource (source : Source)
  | openWithFlags (source : Source) (flags : AccessFlags)
  | openPath (path : String) (lookup : String → Except IoFault Source)
  | close
  | setCodepage (name : String)
  | ask (question : Question)
  /-- Run a script on an item's stream. -/
  | stream (locator : Locator) (script : List StreamCommand)
  | readStream (locator : Locator)
  | propertySet (path : String)
  | snapshot

/-- What comes out of a command that succeeds. -/
inductive Reply where
  | done
  | flag (value : Bool)
  | number (value : Nat)
  | text (text : String)
  | options (options : OpenOptions)
  /-- The major and the minor version number. -/
  | version (major minor : UInt16)
  | header (header : Header)
  | warnings (warnings : List Directory.Warning)
  | item (item : Item)
  | source (source : Source)
  | bytes (data : ByteArray)
  | stream (replies : List (StreamReply × Nat))
  | propertySet (set : PropertySet)
  | snapshot (lines : List SnapshotLine)

/-- The answer to a question. -/
def answer (s : Session) : Question → Except Error Reply
  | .isOpen => .ok (.flag s.isOpen)
  | .options => .ok (.options s.options)
  | .text => .ok (.text s.toText)
  | .fileSize => s.contents.map fun c => .number c.size
  | .version => s.contents.map fun c => .version c.header.version.major c.header.minorVersion
  | .sectorSize => s.contents.map fun c => .number c.header.sectorSize
  | .shortSectorSize => s.contents.map fun c => .number c.header.shortSectorSize
  | .header => s.contents.map fun c => .header c.header
  | .itemCount => s.contents.map fun c => .number c.itemCount
  | .warnings => s.contents.map fun c => .warnings c.warnings
  | .root => do return .item (← (← s.contents).root)
  | .item locator => (s.item locator).map .item

/-- The replies for the results of an operation. -/
def replying {α : Type} (reply : α → Reply) :
    Except Error α × Session → Except Error Reply × Session
  | (result, s) => (result.map reply, s)

/-- Carry out a command. -/
def run (s : Session) : Command → Except Error Reply × Session
  | .openSource source => replying (fun _ => .done) (s.openSource source)
  | .openWithFlags source flags => replying (fun _ => .done) (s.openWithFlags source flags)
  | .openPath path lookup => replying (fun _ => .done) (s.openPath path lookup)
  | .close => replying .source s.close
  | .setCodepage name => replying (fun _ => .done) (s.setCodepage name)
  | .ask question => (s.answer question, s)
  | .stream locator script =>
    replying .stream (s.withStream locator fun r =>
      match StreamCommand.runAll script r with
      | (replies, r) => (.ok replies, r))
  | .readStream locator => replying .bytes (s.readStream locator)
  | .propertySet path => replying .propertySet (s.propertySet path)
  | .snapshot => replying .snapshot s.snapshot

/-- Carry out commands one after the other and give the session after them. -/
def runAll (s : Session) (commands : List Command) : Session :=
  commands.foldl (fun s c => (s.run c).2) s

end Session

end CompoundFile
