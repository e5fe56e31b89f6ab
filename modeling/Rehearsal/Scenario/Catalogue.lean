import Rehearsal.Backend.Viewer
import Rehearsal.Glob.Pattern
import Rehearsal.Json.Value
import Rehearsal.Procedure.Step
/-!
# Scenarios

A scenario is a script of steps, possibly with a document to open first, and a verdict over the
texts that the script has read. The first step that fails ends it. There are ten for a document
viewer: walks through its menus, and scenarios for documents that are special in some way.
-/

set_option autoImplicit false

namespace Rehearsal

structure Scenario where
  name : String
  description : String
  fixture : Option String
  /-- The steps, for an application of a name. -/
  script : String → List Step
  /-- Why the texts that were read are not those of a good run. -/
  verdict : List String → Option RunError

namespace Scenario

def run {σ : Type} (scenario : Scenario) (procedure : Procedure σ) : Outgo σ Unit :=
  match Step.runAll (scenario.script procedure.app) procedure with
  | (.error error, after) => (.error error, after)
  | (.ok texts, after) =>
    match scenario.verdict texts with
    | some error => (.error error, after)
    | none => (.ok (), after)

end Scenario

namespace Catalogue

open Step (focusFrame focusDialog)

/-! ## Pieces of scripts -/

def menuItem (menu item : String) : List Step :=
  [.click menu Role.menu, .click item Role.menuItem]

def press (name : String) : Step := .click name Role.pushButton

def closeWindow : List Step := menuItem "File" "Close"

def openFromChooser (file : String) : List Step :=
  menuItem "File" "Open…" ++ [.click file Role.tableCell, press "Open"]

/-- The verdict of a scenario that reads no text: every step having succeeded, it passes. -/
def always : List String → Option RunError := fun _ => none

/-! ## The scenarios -/

def bookmarksMenu : Scenario where
  name := "bookmarks-menu"
  description := "Add a bookmark and jump back to it"
  fixture := none
  script := fun _ =>
    openFromChooser Document.links ++ [focusFrame Document.links] ++
      menuItem "Bookmarks" "Add Bookmark" ++ menuItem "Bookmarks" "Page 1" ++ closeWindow
  verdict := always

def editMenu : Scenario where
  name := "edit-menu"
  description := "Select, search, rotate and open preferences from the Edit menu"
  fixture := some Document.links
  script := fun _ =>
    [focusFrame Document.links] ++ menuItem "Edit" "Select All" ++ menuItem "Edit" "Find…" ++
      [focusFrame Document.links, .typeText "link", press "Find Previous"] ++
      ["Find Next", "Find Previous", "Rotate Left", "Rotate Right",
        "Save Current Settings as Default", "Preferences"].flatMap (menuItem "Edit") ++
      [focusFrame "Preferences", press "Close", focusFrame Document.links] ++ closeWindow
  verdict := always

def encryptedFile : Scenario where
  name := "encrypted-file"
  description := "Unlock an encrypted PDF after a failed attempt"
  fixture := some Document.encrypted
  script := fun _ =>
    [focusDialog "Enter password", .typeText "wrong password", press "Unlock Document",
      focusDialog "Enter password", press "Cancel",
      focusFrame (Document.lockedTitle Document.encrypted), press "Unlock Document",
      .typeText Document.password, focusDialog "Enter password", press "Unlock Document",
      .waitForClosed (.dialog "Enter password"), focusFrame Document.unlockedTitle] ++ closeWindow
  verdict := always

def fileMenu : Scenario where
  name := "file-menu"
  description := "Open and dismiss every dialog in the File menu"
  fixture := some Document.links
  script := fun _ =>
    menuItem "File" "Open…" ++ [press "Cancel", focusFrame Document.links] ++
      menuItem "File" "Save a Copy…" ++ [press "Cancel", focusFrame Document.links] ++
      menuItem "File" "Print…" ++
      [focusDialog "Print", press "Cancel", focusFrame Document.links] ++
      menuItem "File" "Properties" ++
      [.click "Fonts" Role.pageTab, .click "General" Role.pageTab, focusDialog "Properties",
        press "Close", focusFrame Document.links] ++
      menuItem "File" "Close All Windows"
  verdict := always

/-- The label that the entry has to show once it has been left. -/
def properLabel : String := "III"

def fileReloading : Scenario where
  name := "file-reloading"
  description := "Page label entry normalizes 'iii' to 'III'"
  fixture := some Document.pageLabels
  script := fun _ =>
    [.focusWidget "page-label-entry", .setWidgetText "iii", .activate, .widgetText] ++ closeWindow
  verdict := fun texts =>
    match texts with
    | shown :: _ =>
      if shown = properLabel then none
      else
        some <| .assertionFailed <|
          s!"page label entry shows {Text.quote shown} after entering \"iii\", " ++
            s!"expected \"{properLabel}\""
    | [] => none

def goMenu : Scenario where
  name := "go-menu"
  description := "Page through a document with the Go menu"
  fixture := none
  script := fun _ =>
    openFromChooser Document.links ++ [focusFrame Document.links] ++
      ["Next Page", "Previous Page", "Last Page", "First Page"].flatMap (menuItem "Go") ++
      closeWindow
  verdict := always

def helpMenu : Scenario where
  name := "help-menu"
  description := "Show the About dialog and the help contents"
  fixture := none
  script := fun app =>
    menuItem "Help" "About" ++
      [focusDialog (Document.aboutTitle app), .click "License" Role.toggleButton, press "Close",
        focusFrame Document.recent] ++
      menuItem "Help" "Contents" ++ [.keyCombo "<Control>w", focusFrame Document.recent] ++
      closeWindow
  verdict := always

def reloadCount : Nat := 5

def reload : Scenario where
  name := "reload"
  description := "Reload the open document five times"
  fixture := some Document.links
  script := fun _ =>
    [focusFrame Document.links] ++
      (List.replicate reloadCount (menuItem "View" "Reload" ++ [focusFrame Document.links])).flatten ++
      closeWindow
  verdict := always

def wrongFileExtension : Scenario where
  name := "wrong-file-extension"
  description := "Open a PDF named with a .bin extension"
  fixture := some Document.misnamed
  script := fun _ => closeWindow
  verdict := always

def zoom : Scenario where
  name := "zoom"
  description := "Zoom in and back out"
  fixture := none
  script := fun _ =>
    openFromChooser Document.links ++ [focusFrame Document.links] ++ menuItem "View" "Zoom In" ++
      menuItem "View" "Zoom Out" ++ closeWindow
  verdict := always

def all : List Scenario :=
  [bookmarksMenu, editMenu, encryptedFile, fileMenu, fileReloading, goMenu, helpMenu, reload,
    wrongFileExtension, zoom]

def find? (name : String) : Option Scenario := all.find? (·.name == name)

/-- The patience with which scenarios are rehearsed on a viewer that answers at once. -/
def rehearsalPatience : Patience := ⟨2, 1⟩

/-! ## The index

The scenarios whose names a pattern matches, as a table for people or as JSON for programs. Both
forms hold the same scenarios in the order of the catalogue. -/

/-- The scenarios whose names match a pattern; all of them where there is none. -/
def selected (filter : Option String) : Except Glob.Fault (List Scenario) :=
  match filter with
  | none => .ok all
  | some text => do
    let pattern ← Glob.ofText text
    return all.filter fun scenario => pattern.accepts scenario.name

def filled (width : Nat) (name : String) : String :=
  name ++ String.ofList (List.replicate (width - name.length) ' ')

/-- A table with a line for each scenario; the descriptions stand below each other. -/
def table (scenarios : List Scenario) : String :=
  let width := (scenarios.map (·.name.length)).foldl max 0
  String.join (scenarios.map fun scenario =>
    s!"{filled width scenario.name}  {scenario.description}\n")

def entryJson (scenario : Scenario) : Json.Value :=
  .object [("description", .string scenario.description),
    ("fixture", .ofText? scenario.fixture), ("name", .string scenario.name)]

def jsonIndex (scenarios : List Scenario) : String :=
  (Json.Value.array (scenarios.map entryJson)).compact ++ "\n"

def index (filter : Option String) (json : Bool) : Except Glob.Fault String := do
  let scenarios ← selected filter
  return if json then jsonIndex scenarios else table scenarios

end Catalogue

end Rehearsal
