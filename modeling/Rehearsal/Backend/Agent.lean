import Rehearsal.Launch.Process
/-!
# Agents

An agent is a program that reads request lines and writes pieces of output in its own time. Nothing
here says that it answers every request, or with one line.
-/

set_option autoImplicit false

namespace Rehearsal

/-- How an agent is found when its output has come to its end. -/
inductive Departure where
  /-- Its process has ended, and nobody reads what it is sent. -/
  | exited (status : ExitStatus)
  /-- Its process is not known to have ended. -/
  | silenced
  deriving DecidableEq, Repr

structure Reaction (α : Type) where
  /-- Pieces of output, each with the time that it takes after the one before. -/
  output : List (Nat × Bytes)
  /-- How the agent takes its leave after that, if it does. -/
  departure : Option Departure
  after : α

structure Agency (α : Type) where
  start : String → List String → Except FileFault α
  receive : Bytes → α → Reaction α

/-- A line of text and its end, as bytes. -/
def lineBytes (text : String) : Bytes := Text.Utf8.encode (text ++ "\n")

/-! ## Scripts

An agent that does not look at its requests and does, for each line that it reads, the next thing in
a script. When the script is over it ends at the next line. -/

inductive Act where
  /-- Writes bytes at once and reads on. -/
  | reply (bytes : Bytes)
  | last (bytes : Bytes) (status : ExitStatus)
  | stall
  deriving DecidableEq, Repr

namespace Act

/-- Follows a script for one line. -/
def react : List Act → Reaction (List Act)
  | [] => ⟨[], some (.exited (.code 0)), []⟩
  | .reply bytes :: rest => ⟨[(0, bytes)], none, rest⟩
  | .last bytes status :: rest => ⟨[(0, bytes)], some (.exited status), rest⟩
  | .stall :: rest => ⟨[], none, rest⟩

end Act

/-- The agency whose every agent follows a script from its start. Programs that are not there are
told by `missing`. -/
def scriptedAgency (missing : String → Option FileFault) (script : List Act) :
    Agency (List Act) where
  start := fun program _ =>
    match missing program with
    | some fault => .error fault
    | none => .ok script
  receive := fun _ => Act.react

end Rehearsal
