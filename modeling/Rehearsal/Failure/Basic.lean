import Rehearsal.Text.Natural
import Rehearsal.Tree.Locator
import Rehearsal.Wire.Message
/-!
# Errors

Why a call to an accessibility backend does not succeed, and everything that can end a scenario.
Each kind of error of a run has a name and an exit code.
-/

set_option autoImplicit false

namespace Rehearsal

/-! ## Errors of a backend -/

inductive BackendError where
  | commandFailed (message : String)
  | notConnected
  | connectionLost (message : String)
  | noSuchWidget (locator : Locator)
  | timedOut
  | io (message : String)
  | garbled (fault : Wire.MessageFault)
  deriving DecidableEq, Repr

def BackendError.wording : BackendError → String
  | .commandFailed message => s!"Command failed: {message}"
  | .notConnected => "Not connected to accessibility backend"
  | .connectionLost message => s!"Connection lost: {message}"
  | .noSuchWidget locator => s!"No widget matching {locator.label}"
  | .timedOut => "Operation timed out"
  | .io message => s!"IO error: {message}"
  | .garbled fault => s!"Protocol error: {fault.message}"

/-- Whether the error means that the backend itself is gone, so that asking again is no use. -/
def BackendError.isFatal : BackendError → Bool
  | .notConnected => true
  | .connectionLost _ => true
  | .io _ => true
  | _ => false

/-! ## Errors of a run -/

inductive RunError where
  /-- The application could not be started, or died before it showed a window. -/
  | processLaunch (app reason : String)
  /-- No main window appeared in time. -/
  | launchTimeout (app : String) (timeout : Elapsed)
  /-- A widget was absent for the whole search. -/
  | widgetNotFound (what : String) (waited : Elapsed)
  /-- The application is not in the state that the scenario expects. -/
  | assertionFailed (message : String)
  /-- The document to open does not exist. -/
  | missingFixture (path : String)
  | backend (error : BackendError)
  | io (message : String)
  deriving DecidableEq, Repr

def RunError.message : RunError → String
  | .processLaunch app reason => s!"Failed to launch {app}: {reason}"
  | .launchTimeout app timeout =>
    s!"{app} did not show a main frame within {timeout.milliseconds}ms"
  | .widgetNotFound what waited =>
    s!"Widget not found: {what} (searched for {waited.milliseconds}ms)"
  | .assertionFailed message => s!"Assertion failed: {message}"
  | .missingFixture path => s!"Fixture not found: {path}"
  | .backend error => s!"Driver error: {error.wording}"
  | .io message => s!"IO error: {message}"

def RunError.exitCode : RunError → Nat
  | .assertionFailed _ => 1
  | .widgetNotFound _ _ => 2
  | .launchTimeout _ _ => 3
  | .processLaunch _ _ => 4
  | .missingFixture _ => 4
  | .backend _ => 5
  | .io _ => 6

def RunError.kind : RunError → String
  | .processLaunch _ _ => "ProcessLaunchError"
  | .missingFixture _ => "ProcessLaunchError"
  | .launchTimeout _ _ => "LaunchTimeout"
  | .widgetNotFound _ _ => "WidgetNotFound"
  | .assertionFailed _ => "AssertionFailure"
  | .backend _ => "DriverError"
  | .io _ => "IoError"

end Rehearsal
