/-!
# Parameters of the command line

What may be given on the command line at each level: the options of the whole program, which may
also stand after a verb, and those of the verbs.
-/

set_option autoImplicit false

namespace Rehearsal.CommandLine

inductive Key where
  | config
  | app
  | bridge
  | fixturesDir
  | diagnosticsDir
  | verbose
  | help
  | version
  | noScreenshot
  | filter
  | json
  | scenario
  deriving DecidableEq, Repr

/-- What an option takes, and how often it may stand. -/
inductive Kind where
  /-- Nothing; once. -/
  | flag
  /-- Nothing; any number of times. -/
  | count
  /-- A text; once. -/
  | text
  /-- A text that is not empty; once. -/
  | path
  deriving DecidableEq, Repr

def Kind.takesText : Kind → Bool
  | .text | .path => true
  | .flag | .count => false

structure Parameter where
  key : Key
  /-- The name after two hyphens. -/
  name : String
  letter : Option Char
  kind : Kind
  deriving DecidableEq, Repr

inductive Verb where
  | run
  | list
  | diagnostics
  deriving DecidableEq, Repr

namespace Verb

def word : Verb → String
  | .run => "run"
  | .list => "list"
  | .diagnostics => "diagnostics"

def all : List Verb := [.run, .list, .diagnostics]

def ofWord? (word : String) : Option Verb :=
  all.find? fun verb => verb.word = word

end Verb

structure Level where
  parameters : List Parameter
  /-- Whether a verb, or the word for help, may stand there. -/
  takesVerb : Bool
  /-- Whether one word that is no option may stand there. -/
  takesOperand : Bool

namespace Level

/-- The options that may stand before and after a verb. -/
def everywhere : List Parameter :=
  [⟨.config, "config", some 'c', .path⟩,
    ⟨.app, "app", none, .text⟩,
    ⟨.bridge, "bridge", none, .text⟩,
    ⟨.fixturesDir, "fixtures-dir", none, .path⟩,
    ⟨.diagnosticsDir, "diagnostics-dir", none, .path⟩,
    ⟨.verbose, "verbose", some 'v', .count⟩,
    ⟨.help, "help", some 'h', .flag⟩]

def top : Level :=
  ⟨everywhere ++ [⟨.version, "version", some 'V', .flag⟩], true, false⟩

def ofVerb : Verb → Level
  | .run => ⟨everywhere ++ [⟨.noScreenshot, "no-screenshot", none, .flag⟩], false, true⟩
  | .list =>
    ⟨everywhere ++ [⟨.filter, "filter", some 'f', .text⟩, ⟨.json, "json", none, .flag⟩],
      false, false⟩
  | .diagnostics => ⟨everywhere ++ [⟨.scenario, "scenario", some 's', .text⟩], false, false⟩

def named (level : Level) (name : String) : Option Parameter :=
  level.parameters.find? fun parameter => parameter.name = name

def lettered (level : Level) (letter : Char) : Option Parameter :=
  level.parameters.find? fun parameter => parameter.letter = some letter

end Level

end Rehearsal.CommandLine
