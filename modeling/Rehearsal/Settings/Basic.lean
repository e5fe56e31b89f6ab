import Rehearsal.Files.Volume
import Rehearsal.Text.Natural
/-!
# Settings

Everything that is needed to launch and drive an application, its defaults, and the budget of
lookups that a time limit comes to.
-/

set_option autoImplicit false

namespace Rehearsal

structure Settings where
  app : String
  /-- The name under which the application shows itself, if it is not that of the program. -/
  appName : Option String
  /-- Arguments that stand before the document. -/
  appArgs : List String
  locale : String
  fixturesDir : Option String
  bridgeCommand : List String
  launchTimeout : Nat
  /-- The pause between two looks for the main window. -/
  pollInterval : Nat
  /-- How often a widget is looked for. -/
  searchAttempts : Nat
  searchBackoff : Nat
  diagnosticsDir : Option String
  captureScreenshot : Bool
  deriving DecidableEq, Repr

namespace Settings

def default : Settings where
  app := "atril"
  appName := none
  appArgs := []
  locale := "C"
  fixturesDir := none
  bridgeCommand := ["docprobe-a11y-bridge"]
  launchTimeout := 30000
  pollInterval := 250
  searchAttempts := 20
  searchBackoff := 500
  diagnosticsDir := none
  captureScreenshot := true

instance : Inhabited Settings := ⟨default⟩

def shownName (settings : Settings) : String :=
  settings.appName.getD ((Path.fileName? settings.app).getD settings.app)

/-- The directory of the documents, which is the current directory if none is set. -/
def fixtures (settings : Settings) (currentDirectory : String) : String :=
  settings.fixturesDir.getD currentDirectory

/-- The directory of everything kept for a user. -/
def stateDirectory (home : String) : String := Path.join home ".docprobe"

def diagnostics (settings : Settings) (home : String) : String :=
  settings.diagnosticsDir.getD (Path.join (stateDirectory home) "diagnostics")

/-- The number of pauses that fill a time, rounded up, of a pause that is not zero. -/
def roundedUp (total pause : Nat) : Nat := (total + (pause - 1)) / pause

/-- The number of lookups whose pauses fill a time: at least one, and at most what fits 32 bits.
Of the milliseconds of the time, the low 64 bits count. -/
def attemptsFor (total : Elapsed) (backoff : Nat) : Nat :=
  let attempts := max 1 (roundedUp (total.milliseconds % Text.bound64) (max 1 backoff))
  min attempts (Text.bound32 - 1)

def setSearchTimeout (settings : Settings) (total : Elapsed) : Settings :=
  { settings with searchAttempts := attemptsFor total settings.searchBackoff }

end Settings

end Rehearsal
