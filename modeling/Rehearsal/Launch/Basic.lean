import Rehearsal.Launch.Machine
import Rehearsal.Launch.MainWindow
import Rehearsal.Settings.Basic
/-!
# Launching an application

The program is started in the directory of the documents, with a fixed language and the document as
its last argument, and is launched once its main window is there.
-/

set_option autoImplicit false

namespace Rehearsal

structure App where
  name : String
  mainWindow : String
  child : Child
  /-- Whether the process had been seen to end when the window was there. -/
  ended : Bool

/-- Ends an application: waits for its process for a time and then kills it. A process that has been
seen to end well is not looked at again. Tells how the process ended by itself, if it did, and when
that was over. -/
def App.close (app : App) (grace clock : Nat) : Except RunError (Option ExitStatus) × Nat :=
  if app.ended then (.ok (some (.code 0)), clock)
  else
    match app.child.wait grace clock with
    | (.error fault, finished) => (.error (.io fault), finished)
    | (.ok (some status), finished) => (.ok (some status), finished)
    | (.ok none, finished) =>
      match app.child.kill finished with
      | .error fault => (.error (.io fault), finished)
      | .ok () => (.ok none, finished)

/-- What comes of a launch, with what it leaves behind. -/
structure Launched (σ : Type) where
  result : Except RunError App
  scene : Scene σ
  machine : Machine

namespace Machine

/-- The document of a name, which has to be there. -/
def document (machine : Machine) (settings : Settings) (currentDirectory file : String) :
    Except RunError String :=
  let path := Path.join (settings.fixtures currentDirectory) file
  if machine.volume.has path then .ok path else .error (.missingFixture path)

/-- How the application is started. The variable that would overrule the language is not set. -/
def invocation (machine : Machine) (settings : Settings) (document : Option String) :
    Invocation where
  program := settings.app
  arguments := settings.appArgs ++ document.toList
  directory := settings.fixtures machine.currentDirectory
  environment := [("LANG", settings.locale), ("HOME", machine.home)]

/-- Starts the application, of which the machine keeps a note. -/
def start (machine : Machine) (settings : Settings) (file : Option String) :
    Except RunError Process × Machine :=
  match file.mapM (machine.document settings machine.currentDirectory) with
  | .error error => (.error error, machine)
  | .ok document =>
    let invocation := machine.invocation settings document
    match machine.spawn invocation with
    | .error fault => (.error (.processLaunch settings.app fault.message), machine)
    | .ok process => (.ok process, { machine with started := machine.started ++ [invocation] })

def launch {σ : Type} (machine : Machine) (settings : Settings) (backend : Backend σ)
    (file : Option String) (scene : Scene σ) : Launched σ :=
  match machine.start settings file with
  | (.error error, after) => ⟨.error error, scene, after⟩
  | (.ok process, after) =>
    let child : Child := ⟨scene.clock, process, machine.supervision⟩
    let waited := MainWindow.wait backend settings.shownName child.look settings.launchTimeout
      settings.pollInterval scene
    ⟨waited.1.map fun seen => ⟨settings.shownName, seen.title, child, seen.ended⟩, waited.2, after⟩

end Machine

end Rehearsal
