import Rehearsal.Backend.Agent
import Rehearsal.Backend.Basic
/-!
# Sessions with an agent

A session sends requests to an agent and takes the next line of its output as the answer. It loses
its connection when an answer does not come in time, when the agent's process or its output has
ended, and when what it writes is not text; every other answer, even one that cannot be made out,
leaves the connection as it is.
-/

set_option autoImplicit false

namespace Rehearsal

open Wire (Request Response)

structure Link (α : Type) where
  agent : α
  /-- How the agent takes its leave when it has done all, if it reads no more. -/
  departure : Option Departure
  /-- When the agent has done all that it has been asked for. -/
  busyUntil : Nat
  /-- Output that has not been read, each piece with the time at which it comes. -/
  pending : List (Nat × Bytes)

/-- A session, connected or not. -/
structure Session (α : Type) where
  command : List String
  /-- How long an answer is waited for, in milliseconds. -/
  readLimit : Nat
  link : Option (Link α)
  /-- The lines that agents have been given, over all connections. -/
  sent : List String

/-- How long an answer is waited for where nothing else is said. -/
def defaultReadLimit : Nat := 30000

namespace Session

variable {α β : Type}

def ofCommand (command : List String) (readLimit : Nat) : Session α :=
  ⟨command, readLimit, none, []⟩

def isConnected (session : Session α) : Bool := session.link.isSome

/-! ## Reading lines -/

def lineEnd : UInt8 := 10

def cutLine : Bytes → Option (Bytes × Bytes)
  | [] => none
  | byte :: rest =>
    if byte = lineEnd then some ([byte], rest)
    else (cutLine rest).map fun (line, after) => (byte :: line, after)

/-- Takes the first line from pieces of output, with the time at which it is complete, or all of
them if they hold no complete line. `held` comes before them. -/
def takeLine (held : Bytes) :
    List (Nat × Bytes) → Except Bytes (Bytes × Nat × List (Nat × Bytes))
  | [] => .error held
  | (time, bytes) :: rest =>
    match cutLine bytes with
    | some (line, []) => .ok (held ++ line, time, rest)
    | some (line, after) => .ok (held ++ line, time, (time, after) :: rest)
    | none => takeLine (held ++ bytes) rest

/-- Gives pieces of output the times at which they come, from a time on. -/
def schedule : Nat → List (Nat × Bytes) → List (Nat × Bytes)
  | _, [] => []
  | time, (delay, bytes) :: rest => (time + delay, bytes) :: schedule (time + delay) rest

/-- The time at which the last piece has come. -/
def finish : Nat → List (Nat × Bytes) → Nat
  | time, [] => time
  | time, (delay, _) :: rest => finish (time + delay) rest

/-- What the agent makes of a line. One that reads no more leaves the line where it is. -/
def reaction (agency : Agency α) (line : String) (link : Link α) : Reaction α :=
  match link.departure with
  | none => agency.receive (Text.Utf8.encode line) link.agent
  | some departure => ⟨[], some departure, link.agent⟩

/-- The connection once a line has been written to the agent. -/
def give (agency : Agency α) (line : String) (now : Nat) (link : Link α) : Link α :=
  let reaction := reaction agency line link
  let begin := max now link.busyUntil
  ⟨reaction.after, reaction.departure, finish begin reaction.output,
    link.pending ++ schedule begin reaction.output⟩

/-- Whether nobody can read a line any more. An agent that takes no more lines has them written to
it for as long as its process runs. -/
def gone (now : Nat) (link : Link α) : Bool :=
  match link.departure with
  | some (.exited _) => link.busyUntil ≤ now
  | _ => false

/-- The connection when a caller stops reading at a time: the output up to then has been taken. -/
def cutOff (time : Nat) (link : Link α) : Link α :=
  { link with pending := link.pending.filter fun (arrival, _) => time < arrival }

/-! ## Exchanging messages -/

def dropped (session : Session α) : Session α := { session with link := none }

def linked (session : Session α) (link : Link α) : Session α := { session with link := some link }

/-- What a line comes to as an answer. An agent's own report of an error is an error. -/
def answerOf (line : String) : Except BackendError Response :=
  match Response.ofLine line with
  | .error fault => .error (.garbled fault)
  | .ok (.error message) => .error (.commandFailed message)
  | .ok response => .ok response

/-- The answer that is read as bytes. The connection is dropped if they are not text. -/
def readAnswer (bytes : Bytes) (link : Link α) (session : Session α) :
    Except BackendError Response × Session α :=
  match Text.Utf8.decode bytes with
  | .error fault => (.error (.io fault.message), session.dropped)
  | .ok line => (answerOf line, session.linked link)

/-- What is said of an agent that a request cannot be written to. -/
def brokenPipe : BackendError := .connectionLost "Broken pipe (os error 32)"

/-- What is said of an agent that has no more output, by what its process is found to be. -/
def outputEnded : Departure → BackendError
  | .exited status => .connectionLost s!"bridge exited with {status.text}"
  | .silenced => .connectionLost "bridge closed its output"

def awaitAnswer (now : Nat) (link : Link α) (session : Session α) : Reply (Session α) Response :=
  let abandoned := fun time => session.linked (cutOff (now + time) link)
  let late : Reply (Session α) Response :=
    ⟨session.readLimit, .error .timedOut, session.dropped, abandoned⟩
  match takeLine [] link.pending with
  | .ok (bytes, time, rest) =>
    if time - now ≤ session.readLimit then
      let (answer, after) := session.readAnswer bytes { link with pending := rest }
      ⟨time - now, answer, after, abandoned⟩
    else late
  | .error bytes =>
    match link.departure with
    | none => late
    | some departure =>
      if link.busyUntil - now ≤ session.readLimit then
        let (answer, after) :=
          if bytes.isEmpty then (.error (outputEnded departure), session.dropped)
          else session.readAnswer bytes { link with pending := [] }
        ⟨link.busyUntil - now, answer, after, abandoned⟩
      else late

def exchange (agency : Agency α) (request : Request) (now : Nat) (session : Session α) :
    Reply (Session α) Response :=
  match session.link with
  | none => .now (.error .notConnected) session
  | some link =>
    if gone now link then .now (.error brokenPipe) session.dropped
    else
      { session with sent := session.sent ++ [request.toJson.compact] }.awaitAnswer now
        (give agency request.line now link)

/-! ## Calls -/

/-- An answer of another kind than the request asks for. -/
def unexpected (response : Response) : BackendError :=
  .commandFailed s!"unexpected response: {response.describe.render}"

/-- Takes what a request asks for from the answer to it. -/
def expecting (expected : Response → Except BackendError β) (reply : Reply (Session α) Response) :
    Reply (Session α) β :=
  ⟨reply.delay, reply.answer.bind expected, reply.after, reply.abandoned⟩

def expectOk : Response → Except BackendError Unit
  | .ok => .ok ()
  | other => .error (unexpected other)

def expectTree : Response → Except BackendError Forest
  | .tree nodes => .ok nodes
  | other => .error (unexpected other)

def expectPicture : Response → Except BackendError Bytes
  | .screenshot data =>
    match Wire.pictureBytes data with
    | .ok bytes => .ok bytes
    | .error fault => .error (.garbled fault)
  | other => .error (unexpected other)

/-- Starts the agent and asks it for a sign of life. The connection is there before the answer is
looked at, so an answer that is refused leaves it. -/
def connect (agency : Agency α) (now : Nat) (session : Session α) : Reply (Session α) Unit :=
  match session.command with
  | [] => .now (.error (.commandFailed "empty bridge command")) session
  | program :: arguments =>
    match agency.start program arguments with
    | .error fault =>
      .now (.error (.connectionLost s!"failed to start {program}: {fault.message}")) session
    | .ok agent =>
      expecting expectOk
        ((session.linked ⟨agent, none, now, []⟩).exchange agency .ping now)

def backend (agency : Agency α) : Backend (Session α) where
  connected := isConnected
  dump := fun app now session =>
    expecting expectTree (session.exchange agency (.dumpTree app) now)
  perform := fun app input now session =>
    expecting expectOk (session.exchange agency (.input app input) now)
  screenshot := fun now session =>
    expecting expectPicture (session.exchange agency .screenshot now)

end Session

end Rehearsal
