import Rehearsal.Files.Volume
/-!
# Processes

What a program does once it has been started, as far as others see it: the files that it writes and
how it ends, each with the time since its start. Whoever has started it may look at it, wait for its
end and kill it, and any of that may fail.
-/

set_option autoImplicit false

namespace Rehearsal

inductive ExitStatus where
  | code (code : Nat)
  | signal (number : Nat)
  deriving DecidableEq, Repr

namespace ExitStatus

/-- The names of signals, by number. -/
def signalNames : List (Nat × String) :=
  [(1, "SIGHUP"), (2, "SIGINT"), (3, "SIGQUIT"), (4, "SIGILL"), (5, "SIGTRAP"), (6, "SIGABRT"),
    (7, "SIGBUS"), (8, "SIGFPE"), (9, "SIGKILL"), (10, "SIGUSR1"), (11, "SIGSEGV"),
    (12, "SIGUSR2"), (13, "SIGPIPE"), (14, "SIGALRM"), (15, "SIGTERM"), (16, "SIGSTKFLT")]

def text : ExitStatus → String
  | .code value => s!"exit status: {value}"
  | .signal number =>
    match signalNames.lookup number with
    | some name => s!"signal: {number} ({name})"
    | none => s!"signal: {number}"

def isSuccess : ExitStatus → Bool
  | .code 0 => true
  | _ => false

end ExitStatus

structure Written where
  time : Nat
  path : String
  contents : Bytes
  deriving Repr

structure Process where
  writes : List Written
  /-- When and how it ends, if it does. -/
  ending : Option (Nat × ExitStatus)
  deriving Repr

structure Invocation where
  program : String
  arguments : List String
  directory : String
  environment : List (String × String)
  deriving DecidableEq, Repr

namespace Process

/-- The shortest time that a process runs. -/
def shortest : Nat := 1

def quiet (time : Nat) (status : ExitStatus) : Process :=
  ⟨[], some (max shortest time, status)⟩

/-- How the process has ended a time after its start, if it has. -/
def statusAt (process : Process) (age : Nat) : Option ExitStatus :=
  match process.ending with
  | some (time, status) => if time ≤ age then some status else none
  | none => none

/-- The files once the process has run for a time. -/
def filesAt (process : Process) (age : Nat) (volume : Volume) : Volume :=
  (process.writes.filter (·.time ≤ age)).foldl (fun volume written =>
    match volume.write written.path written.contents with
    | .ok changed => changed
    | .error _ => volume) volume

end Process

/-- What the system says to whoever looks at a process or kills it so long after its start: nothing,
or why it does not work. -/
structure Supervision where
  lookFault : Nat → Option String
  killFault : Nat → Option String

/-- Nothing goes wrong. -/
def Supervision.untroubled : Supervision := ⟨fun _ => none, fun _ => none⟩

/-- A process that has been started. -/
structure Child where
  begun : Nat
  process : Process
  supervision : Supervision

namespace Child

/-- Looks how the process has ended, if it has. -/
def look (child : Child) (clock : Nat) : Except String (Option ExitStatus) :=
  match child.supervision.lookFault (clock - child.begun) with
  | some fault => .error fault
  | none => .ok (child.process.statusAt (clock - child.begun))

/-- Waits for the end of the process, up to a limit. The process is looked at when the wait begins
and when it ends. -/
def wait (child : Child) (limit clock : Nat) : Except String (Option ExitStatus) × Nat :=
  match child.look clock with
  | .ok none =>
    match child.process.ending with
    | some (time, _) =>
      if child.begun + time ≤ clock + limit then
        (child.look (child.begun + time), child.begun + time)
      else (.ok none, clock + limit)
    | none => (.ok none, clock + limit)
  | told => (told, clock)

/-- Kills the process and looks that it is over. -/
def kill (child : Child) (clock : Nat) : Except String Unit :=
  match child.supervision.killFault (clock - child.begun) with
  | some fault => .error fault
  | none => (child.look clock).map fun _ => ()

end Child

end Rehearsal
