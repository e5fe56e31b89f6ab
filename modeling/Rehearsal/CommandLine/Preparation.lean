import Rehearsal.CommandLine.Arguments
import Rehearsal.Glob.Pattern
import Rehearsal.Settings.Source
/-!
# Preparing a command

The settings that arguments come to. A file of settings comes first, then the variables of the
environment and last the options, each over those before it.
-/

set_option autoImplicit false

namespace Rehearsal.CommandLine

/-- Why a command is not carried out. -/
inductive Complaint where
  | settings (cause : SettingsFault)
  | pattern (cause : Glob.Fault)
  /-- The option for the agent's command has no word in it. -/
  | emptyBridge
  | unknownScenario (name : String)
  deriving DecidableEq, Repr

namespace Complaint

def message : Complaint → String
  | .settings cause => s!"Configuration error: {cause.message}"
  | .pattern cause => s!"Invalid pattern: {cause.message}"
  | .emptyBridge => "--bridge must not be empty"
  | .unknownScenario name =>
    "Unknown scenario '" ++ name ++ "' (run \x60docprobe list\x60 to see available scenarios)"

/-- The exit code of the program for every complaint and for every mistake in its arguments. -/
def exitCode : Nat := 64

end Complaint

namespace Arguments

/-- The settings before the environment: those of the file that is named, which has to be good, or
else of the user's own file. -/
def baseSettings (arguments : Arguments) (volume : Volume) (home : String) :
    Except Complaint Settings :=
  match arguments.config with
  | some path => (Settings.ofFile volume path).mapError .settings
  | none => .ok (Settings.ofHome volume home)

/-- The settings with the environment's variables applied, all of which have to be good. -/
def applyEnvironment (environment : Variables) (settings : Settings) : Except Complaint Settings :=
  match settings.applyVariables environment with
  | (some fault, _) => .error (.settings fault)
  | (none, changed) => .ok changed

def applyOptions (arguments : Arguments) (settings : Settings) : Except Complaint Settings := do
  let bridge ← match arguments.bridge with
    | none => pure settings.bridgeCommand
    | some text =>
      match Settings.command? text with
      | some words => pure words
      | none => throw .emptyBridge
  return { settings with
    app := arguments.app.getD settings.app
    bridgeCommand := bridge
    fixturesDir := arguments.fixturesDir.or settings.fixturesDir
    diagnosticsDir := arguments.diagnosticsDir.or settings.diagnosticsDir }

def settings (arguments : Arguments) (volume : Volume) (home : String) (environment : Variables) :
    Except Complaint Settings := do
  let base ← arguments.baseSettings volume home
  let environed ← applyEnvironment environment base
  arguments.applyOptions environed

end Arguments

end Rehearsal.CommandLine
