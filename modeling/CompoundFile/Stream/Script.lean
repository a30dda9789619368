import CompoundFile.Stream

/-!
# Scripts for stream readers

A script is a list of commands to one reader. Running it gives, for each command, what came out of
it and where the reader stood afterwards. A command that fails does not end the script.
-/

namespace CompoundFile

/-- A command to a reader. -/
inductive StreamCommand where
  /-- Read up to a number of bytes. -/
  | read (wanted : Nat)
  /-- Read a number of bytes. -/
  | readExact (wanted : Nat)
  /-- Read the rest of the stream. -/
  | readToEnd
  | seek (target : SeekTarget)
  /-- Describe how the stream is stored. -/
  | layout
  /-- Give the text of the reader. -/
  | text
  deriving DecidableEq, Repr

/-- What comes out of a command to a reader. -/
inductive StreamReply where
  | bytes (data : ByteArray)
  | position (position : Nat)
  | layout (size : Nat) (storage : Storage) (units : Array UInt32)
  | text (text : String)
  /-- Reading or seeking failed. -/
  | refused (error : ReadError)
  /-- Reading the rest of the stream failed. -/
  | failed (error : Error)

namespace StreamCommand

/-- Carry out a command. -/
def run (c : StreamCommand) (r : StreamReader) : StreamReply × StreamReader :=
  match c with
  | .read wanted => (r.read wanted).map (reply .refused .bytes) id
  | .readExact wanted => (r.readExact wanted).map (reply .refused .bytes) id
  | .readToEnd => r.readToEnd.map (reply .failed .bytes) id
  | .seek target => (r.seek target).map (reply .refused .position) id
  | .layout => (.layout r.size r.storage r.units, r)
  | .text => (.text r.toText, r)
where
  /-- The reply for a result. -/
  reply {ε α : Type} (failure : ε → StreamReply) (success : α → StreamReply) :
      Except ε α → StreamReply
    | .error e => failure e
    | .ok a => success a

/-- Carry out a script. Every reply comes with the position after it. -/
def runAll (script : List StreamCommand) (r : StreamReader) :
    List (StreamReply × Nat) × StreamReader :=
  match script with
  | [] => ([], r)
  | c :: rest =>
    match c.run r with
    | (reply, r) =>
      match runAll rest r with
      | (replies, last) => ((reply, r.position) :: replies, last)

end StreamCommand

end CompoundFile
