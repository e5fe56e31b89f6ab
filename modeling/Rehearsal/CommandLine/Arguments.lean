import Rehearsal.CommandLine.Reader
/-!
# Arguments

What a command line asks for. An option that stands on both sides of the verb counts as it stands
after it, and the variable that may name a file of settings counts where no option does. Where
nothing can be made of a command line, or it asks for help, a text about its use is printed.
-/

set_option autoImplicit false

namespace Rehearsal.CommandLine

inductive Task where
  | run (scenario : String) (noScreenshot : Bool)
  | list (filter : Option String) (json : Bool)
  | diagnostics (scenario : Option String)
  deriving DecidableEq, Repr

structure Arguments where
  config : Option String
  app : Option String
  bridge : Option String
  fixturesDir : Option String
  diagnosticsDir : Option String
  verbosity : Nat
  task : Task
  deriving DecidableEq, Repr

def configVariable : String := "DOCPROBE_CONFIG"

/-- The greatest number that is counted to. -/
def greatestCount : Nat := 255

namespace Reader

/-- Checks the variable that stands in for the option of a file of settings. -/
def checkVariable (reader : Reader) (file : Option String) : Except UsageFault Unit :=
  if file = some "" && !reader.has .config then .error .badText else .ok ()

/-- Ends a level: settles what is pending and looks at the variable. -/
def finish (reader : Reader) (file : Option String) : Except UsageFault Reader := do
  let settled ← reader.settle
  settled.checkVariable file
  return settled

def task (reader : Reader) : Verb → Except UsageFault Task
  | .run =>
    match reader.operand with
    | some scenario => .ok (.run scenario (reader.has .noScreenshot))
    | none => .error .noOperand
  | .list => .ok (.list (reader.textOf .filter) (reader.has .json))
  | .diagnostics => .ok (.diagnostics (reader.textOf .scenario))

/-- The reader whose options count, of one before and one after the verb. -/
def counting (outer inner : Reader) (key : Key) : Reader :=
  if inner.has key then inner else outer

/-- The text of an option that may stand before and after the verb. -/
def textOfEither (outer inner : Reader) (key : Key) : Option String :=
  (outer.counting inner key).textOf key

def arguments (outer inner : Reader) (file : Option String) (task : Task) : Arguments where
  config := (outer.textOfEither inner .config).or file
  app := outer.textOfEither inner .app
  bridge := outer.textOfEither inner .bridge
  fixturesDir := outer.textOfEither inner .fixturesDir
  diagnosticsDir := outer.textOfEither inner .diagnosticsDir
  verbosity := min greatestCount ((outer.counting inner .verbose).countOf .verbose)
  task := task

end Reader

namespace Arguments

/-- What asking for help comes to. Help can be had about a verb and about help. -/
def help (words : List String) : UsageFault :=
  match words with
  | [] => .help
  | [word] => if (Verb.ofWord? word).isSome || word = "help" then .help else .unknownVerb
  | _ => .unknownVerb

/-- What a command line without a verb comes to. -/
def withoutVerb (reader : Reader) (file : Option String) : Except UsageFault UsageFault := do
  let finished ← reader.finish file
  return if finished.given.isEmpty && file.isNone then .nothing else .noVerb

def ofWords (file : Option String) (words : List String) : Except UsageFault Arguments := do
  let (outer, next) ← Reader.fresh.read .top words
  match next with
  | none => throw (← withoutVerb outer file)
  | some (word, rest) =>
    match Verb.ofWord? word with
    | none => throw (help rest)
    | some verb =>
      let (last, _) ← Reader.fresh.read (.ofVerb verb) rest
      let inner ← last.finish file
      let task ← inner.task verb
      let finished ← outer.finish file
      return finished.arguments inner file task

end Arguments

/-! ## Usage texts -/

def versionText : String := "docprobe 0.1.0\n"

def Parameter.usage (parameter : Parameter) : String :=
  let letter := match parameter.letter with
    | some letter => s!"-{letter}, "
    | none => "    "
  let text := if parameter.kind.takesText then " <TEXT>" else ""
  s!"  {letter}--{parameter.name}{text}\n"

def Verb.usage (verb : Verb) : String :=
  let level := Level.ofVerb verb
  let operand := if level.takesOperand then " <SCENARIO>" else ""
  let own := level.parameters.drop Level.everywhere.length
  s!"  {verb.word}{operand}\n" ++ String.join (own.map fun parameter => "  " ++ parameter.usage)

def helpText : String :=
  "Usage: docprobe [OPTIONS] <COMMAND>\n\nCommands:\n" ++
    String.join (Verb.all.map Verb.usage) ++ "\nOptions:\n" ++
    String.join (Level.top.parameters.map Parameter.usage)

namespace UsageFault

def reason : UsageFault → String
  | .unknownWord => "unexpected argument"
  | .needlessText => "an option takes no value"
  | .badText => "an option needs a value"
  | .repeated => "an option cannot be used twice"
  | .unknownVerb => "unrecognized subcommand"
  | .noVerb => "a subcommand is required"
  | .noOperand => "the scenario is missing"
  | .nothing | .help | .version => ""

def message : UsageFault → String
  | .help | .nothing => helpText
  | .version => versionText
  | fault => s!"error: {fault.reason}\n\n{helpText}"

end UsageFault

end Rehearsal.CommandLine
