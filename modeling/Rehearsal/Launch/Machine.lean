import Rehearsal.Launch.Shell
/-!
# Machines

A machine has files and a few programs: they end at once, well or badly, after some time, or as a
line of shell commands says. No other file can be run.
-/

set_option autoImplicit false

namespace Rehearsal

structure Machine where
  volume : Volume
  home : String
  supervision : Supervision
  /-- The applications that have been started, oldest first. -/
  started : List Invocation

namespace Machine

/-- A machine on which nothing has been started and nothing goes wrong with processes. -/
def fresh (volume : Volume) (home : String) : Machine := ⟨volume, home, .untroubled, []⟩

def currentDirectory (machine : Machine) : String :=
  "/" ++ "/".intercalate machine.volume.here

/-- The directories in which programs are looked for by their name. -/
def programDirectories : List String := ["/bin", "/usr/bin"]

def programNames : List String := ["true", "false", "sleep", "sh"]

/-- The name of a program, by its name or by its path. -/
def programName? (program : String) : Option String :=
  programNames.find? fun name =>
    program = name || programDirectories.any fun directory => program = Path.join directory name

/-- Why a file that is no program cannot be run from a directory. -/
def refusal (machine : Machine) (directory program : String) : FileFault :=
  if program.toList.contains '/' then
    match machine.volume.item (Path.join directory program) with
    | .ok _ => .denied
    | .error fault => fault
  else .notFound

/-- Looks a program up from a directory. -/
def find (machine : Machine) (directory program : String) : Except FileFault String :=
  if program.toList.contains '\x00' then .error .endMarkInCommand
  else
    match programName? program with
    | some name => .ok name
    | none => .error (machine.refusal directory program)

/-- The commands of a shell and the state in which it begins, if it has commands. -/
def shell? (machine : Machine) (invocation : Invocation) :
    Option (List Shell.Simple × Shell.State) :=
  match invocation.arguments with
  | "-c" :: line :: arguments =>
    some (Shell.commands line, .start arguments invocation machine.volume)
  | path :: arguments =>
    match machine.volume.readText (Path.join invocation.directory path) with
    | .ok script =>
      some (Shell.commands script, .start (path :: arguments) invocation machine.volume)
    | .error _ => none
  | [] => none

def processOf (machine : Machine) (name : String) (invocation : Invocation) : Process :=
  match name with
  | "false" => .quiet 0 (.code 1)
  | "sleep" =>
    match Shell.sleepTime? invocation.arguments with
    | some time => .quiet time (.code 0)
    | none => .quiet 0 (.code 1)
  | "sh" =>
    match machine.shell? invocation with
    | some (commands, begun) => Shell.process commands begun
    | none => .quiet 0 (.code (if invocation.arguments.isEmpty then 0 else 2))
  | _ => .quiet 0 (.code 0)

/-- Whether the words of an invocation hold the character that ends words. -/
def hasEndMark (invocation : Invocation) : Bool :=
  (invocation.program :: invocation.directory :: invocation.arguments ++
    invocation.environment.map Prod.snd).any fun word => word.toList.contains '\x00'

/-- The name of the program that is started. Its directory has to be there. -/
def programOf (machine : Machine) (invocation : Invocation) : Except FileFault String :=
  if hasEndMark invocation then .error .endMarkInCommand
  else do
    let directory ← machine.volume.item invocation.directory
    if directory.isDirectory then machine.find invocation.directory invocation.program
    else throw .notDirectory

def spawn (machine : Machine) (invocation : Invocation) : Except FileFault Process := do
  let name ← machine.programOf invocation
  return machine.processOf name invocation

end Machine

end Rehearsal
