import Rehearsal.Files.Volume
import Rehearsal.Glob.Walk
import Rehearsal.Procedure.Basic
import Rehearsal.Settings.Source
import Rehearsal.Tree.Codec
/-!
# Reports of failures

A report is a directory of its own with what can be had at the time of a failure: the error, the
application's tree as text and as JSON, a picture of the screen and the trail. What cannot be had
leads to a remark and does not stop the rest. Reports are listed by the names of their directories.
-/

set_option autoImplicit false

namespace Rehearsal

structure Diagnostics where
  /-- The directory of the report, if it could be made. -/
  directory : Option String
  written : List String
  /-- Remarks on what could not be had. -/
  failures : List String
  deriving DecidableEq, Repr

structure Reporter where
  root : String
  captureScreenshot : Bool
  deriving DecidableEq, Repr

structure Draft (τ : Type) where
  store : Store τ
  files : τ
  directory : String
  diagnostics : Diagnostics

namespace Draft

variable {τ : Type}

def note (draft : Draft τ) (what reason : String) : Draft τ :=
  { draft with diagnostics :=
      { draft.diagnostics with failures := draft.diagnostics.failures ++ [s!"{what}: {reason}"] } }

def save (draft : Draft τ) (name : String) (contents : Bytes) : Draft τ :=
  let path := Path.join draft.directory name
  match draft.store.write path contents draft.files with
  | .ok files =>
    { draft with
      files := files
      diagnostics :=
        { draft.diagnostics with written := draft.diagnostics.written ++ [path] } }
  | .error fault => draft.note name fault.message

def saveText (draft : Draft τ) (name text : String) : Draft τ :=
  draft.save name (Text.Utf8.encode text)

/-- Writes what a limited call to the backend has yielded, or remarks that it has not. -/
def saveAnswer {α : Type} (draft : Draft τ) (what : String) (save : α → Draft τ → Draft τ) :
    Option (Except BackendError α) → Draft τ
  | some (.ok value) => save value draft
  | some (.error error) => draft.note what error.wording
  | none => draft.note what "timed out"

end Draft

namespace Reporter

variable {σ τ : Type}

/-- The reporter that settings ask for. -/
def ofSettings (settings : Settings) (home : String) : Reporter :=
  ⟨settings.diagnostics home, settings.captureScreenshot⟩

/-- How long each call for a report may take, in milliseconds. -/
def callLimit : Nat := 10000

def directoryName (scenario : String) (time : Instant) : String := s!"{scenario}-{time.stamp}"

def summary (scenario : String) (error : RunError) (failed : Option Entry) : String :=
  s!"scenario: {scenario}\nkind: {error.kind}\nerror: {error.message}\n" ++
    s!"exit code: {error.exitCode}\n" ++
    match failed with
    | some entry => s!"failed action: {entry.action.describe.render}\n"
    | none => ""

def saveTree (forest : Forest) (draft : Draft τ) : Draft τ :=
  (draft.saveText "tree.txt" forest.outline).saveText "tree.json" forest.toJson.pretty

/-- Asks the backend for the tree, and for a picture if that is wanted, and writes them. -/
def captureScreen (reporter : Reporter) (procedure : Procedure σ) (draft : Draft τ) :
    Draft τ × Scene σ :=
  let backend := procedure.backend
  if backend.connected procedure.scene.state then
    let tree := procedure.scene.awaitWithin callLimit (backend.dump procedure.app)
    let withTree := draft.saveAnswer "tree.txt" saveTree tree.1
    if reporter.captureScreenshot then
      let picture := tree.2.awaitWithin callLimit backend.screenshot
      (withTree.saveAnswer "screenshot.png" (fun bytes draft => draft.save "screenshot.png" bytes)
        picture.1, picture.2)
    else (withTree, tree.2)
  else (draft.note "tree.txt" "driver not connected", procedure.scene)

def captureContext (reporter : Reporter) (procedure : Procedure σ) (draft : Draft τ) :
    Draft τ × Procedure σ :=
  let (drafted, scene) := reporter.captureScreen procedure draft
  (drafted.saveText "actions.jsonl" procedure.trail.lines, procedure.on scene)

/-- Writes a report of an error at some time. Without a procedure it holds the error alone. -/
def capture (reporter : Reporter) (store : Store τ) (scenario : String) (error : RunError)
    (time : Instant) (context : Option (Procedure σ)) (files : τ) :
    Diagnostics × τ × Option (Procedure σ) :=
  let directory := Path.join reporter.root (directoryName scenario time)
  match store.makeDirectories directory files with
  | .error fault => (⟨none, [], [s!"diagnostics directory: {fault.message}"]⟩, files, context)
  | .ok made =>
    let failed := context.bind fun procedure => procedure.trail.lastFailure?
    let draft : Draft τ := ⟨store, made, directory, ⟨some directory, [], []⟩⟩
    let begun := draft.saveText "error.txt" (summary scenario error failed)
    match context with
    | none => (begun.diagnostics, begun.files, none)
    | some procedure =>
      let (done, after) := reporter.captureContext procedure begun
      (done.diagnostics, done.files, some after)

end Reporter

/-! ## Listing

The directories of reports, all of them or those of one scenario. A scenario's reports are those
whose name goes on with a hyphen after the scenario's name, whatever characters that has. -/

namespace Listing

/-- What the name of a report begins with. -/
def opening (scenario : Option String) : String :=
  match scenario with
  | some name => Glob.escape name ++ "-"
  | none => ""

def pattern (root : String) (scenario : Option String) : String :=
  Path.join (Glob.escape root) (opening scenario ++ "*")

/-- The directories of reports under a directory, in order. -/
def reports (volume : Volume) (root : String) (scenario : Option String) :
    Except Glob.Fault (List String) := do
  let found ← Glob.find volume (pattern root scenario)
  return (found.filter volume.hasDirectory).mergeSort fun a b => decide (a ≤ b)

end Listing

end Rehearsal
