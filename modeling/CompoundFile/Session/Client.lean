import CompoundFile.Session.Command

/-!
# Clients

A client has a session and carries out steps with it. A step is a command, or it opens again the
source that the session gave back when it was closed. Until then the client keeps that source.
-/

namespace CompoundFile

/-- A session and the source that it gave back. -/
structure Client where
  session : Session
  held : Option Source

namespace Client

open Session (Command Reply)

/-- What a client does. -/
inductive Step where
  | command (command : Command)
  /-- Open the source that was given back. It is given up even if that fails. -/
  | reopen

/-- A client with a closed session. -/
def new (options : OpenOptions) : Client := ⟨.new options, none⟩

/-- The source in a reply, if there is one. -/
def given? : Except Error Reply → Option Source
  | .ok (.source s) => some s
  | _ => none

/-- Carry out a command, and keep the source if one is given back. -/
def run (c : Client) (command : Command) : Except Error Reply × Client :=
  match c.session.run command with
  | (result, session) => (result, ⟨session, (given? result).or c.held⟩)

/-- Carry out a step. Nothing comes out of it when there is no source to open again. -/
def step (c : Client) : Step → Option (Except Error Reply) × Client
  | .command command => (c.run command).map some id
  | .reopen =>
    match c.held with
    | some s => (run { c with held := none } (.openSource s)).map some id
    | none => (none, c)

/-- Carry out steps one after the other. -/
def runAll (c : Client) : List Step → List (Option (Except Error Reply)) × Client
  | [] => ([], c)
  | st :: rest =>
    match c.step st with
    | (result, c) =>
      match c.runAll rest with
      | (results, last) => (result :: results, last)

end Client

end CompoundFile
