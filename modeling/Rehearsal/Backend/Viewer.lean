import Rehearsal.Backend.Basic
import Rehearsal.Text.Unicode
/-!
# A document viewer

A viewer as a state machine that scenarios can be rehearsed on. Its tree is a function of its state,
and input changes the state in the way of a real viewer. Its habits are the ways in which a viewer
may misbehave.
-/

set_option autoImplicit false

namespace Rehearsal

/-! ## Documents

The documents that scenarios open, and the titles under which a viewer shows its windows. -/

namespace Document

def links : String := "test-links.pdf"

def encrypted : String := "test-encrypt.pdf"

def password : String := "Foo"

/-- A document whose first pages have Roman numerals in lower case as labels. -/
def pageLabels : String := "test-page-labels.pdf"

def misnamed : String := "test-mime.bin"

/-- The title of a window without a document. -/
def recent : String := "Recent Documents"

/-- The title of the window of a document whose password has not been given. -/
def lockedTitle (document : String) : String := s!"{document} — Password Required"

/-- The title of the window of the encrypted document once it is open. -/
def unlockedTitle : String := s!"{encrypted} — Dokument1"

/-- The title of the dialog about an application: its name with a capital. -/
def aboutTitle (app : String) : String :=
  match app.toList with
  | [] => "About"
  | first :: rest => "About " ++ String.ofList (Text.upperChar first ++ rest)

end Document

/-! ## The state of a viewer -/

structure Habits where
  /-- Whether an entered page label is replaced by the label in its proper case. -/
  normalizesLabels : Bool
  acceptsAnyPassword : Bool
  keepsPasswordDialog : Bool
  dropsOnReload : Bool
  /-- The title of a dialog that never shows. -/
  missingDialog : Option String
  deriving DecidableEq, Repr

/-- The habits of a viewer that has no defect. -/
def Habits.good : Habits := ⟨true, false, false, false, none⟩

structure Viewer where
  app : String
  document : Option String
  locked : Bool
  dialog : Option String
  selectedFile : Option String
  preferences : Bool
  findBar : Bool
  helpOpen : Bool
  licenseShown : Bool
  /-- What has been typed since the last attempt to unlock. -/
  typed : String
  /-- How often a password was refused. A count without bound, where the viewer that is modelled
  keeps an unsigned number of 32 bits. -/
  failedUnlocks : Nat
  page : Nat
  pageLabel : String
  /-- Steps of magnification above, or below, that at the start. They have no bound here, where the
  viewer that is modelled keeps a signed number of 32 bits. -/
  zoom : Int
  /-- How often the document was loaded again; without bound here, and an unsigned number of 32 bits
  in the viewer that is modelled. -/
  reloads : Nat
  bookmarks : List String
  closed : Bool
  /-- The names of the selectors that have been clicked by, oldest first. -/
  clicks : List String
  deriving DecidableEq, Repr

inductive Command where
  | showDialog (title : String)
  | showAbout
  | select (file : String)
  | openSelected
  | cancel
  | closeTop
  | unlock
  | toggleLicense
  | quit
  | reload
  | zoomIn
  | zoomOut
  | nextPage
  | previousPage
  | firstPage
  | lastPage
  | addBookmark
  | showFindBar
  | showPreferences
  | showHelp
  deriving DecidableEq, Repr

namespace Viewer

/-! ## What it shows -/

/-- The number of pages of every document. -/
def pageCount : Nat := 3

def passwordDialog : String := "Enter password"

def openDialog : String := "Open Document"

def labelEntry : String := "page-label-entry"

def menu (name : String) (items : List String) : Node :=
  Node.of name Role.menu (items.map fun item => Node.leaf item Role.menuItem)

def button (name : String) : Node := Node.leaf name Role.pushButton

def title (viewer : Viewer) : String :=
  match viewer.document with
  | none => Document.recent
  | some document =>
    if viewer.locked then Document.lockedTitle document
    else if document = Document.encrypted then Document.unlockedTitle
    else document

def menus (viewer : Viewer) : List Node :=
  [menu "File"
      ["Open…", "Save a Copy…", "Print…", "Properties", "Close", "Close All Windows"],
    menu "Edit"
      ["Select All", "Find…", "Find Next", "Find Previous", "Rotate Left", "Rotate Right",
        "Save Current Settings as Default", "Preferences"],
    menu "View" ["Zoom In", "Zoom Out", "Reload"],
    menu "Go" ["Next Page", "Previous Page", "First Page", "Last Page"],
    menu "Bookmarks" ("Add Bookmark" :: viewer.bookmarks),
    menu "Help" ["Contents", "About"]]

def mainWindow (viewer : Viewer) : Node :=
  Node.of viewer.title Role.frame <|
    viewer.menus ++ [Node.bearing labelEntry Role.text viewer.pageLabel] ++
      (if viewer.findBar then [button "Find Previous"] else []) ++
      (if viewer.locked then [button "Unlock Document"] else [])

def dialogItems (viewer : Viewer) (title : String) : List Node :=
  if title = passwordDialog then
    [Node.bearing "" Role.text viewer.typed, button "Cancel", button "Unlock Document"]
  else if title = openDialog then
    [Node.leaf Document.links Role.tableCell, button "Cancel", button "Open"]
  else if title = "Properties" then
    [Node.leaf "General" Role.pageTab, Node.leaf "Fonts" Role.pageTab, button "Close"]
  else if "About".toList.isPrefixOf title.toList then
    [Node.leaf "License" Role.toggleButton, button "Close"]
  else [button "Cancel"]

/-- The windows of a viewer, its main window first; none once it is closed. -/
def tree (viewer : Viewer) : Forest :=
  if viewer.closed then []
  else
    viewer.mainWindow ::
      ((if viewer.preferences then [Node.of "Preferences" Role.frame [button "Close"]] else []) ++
        (if viewer.helpOpen then [Node.leaf "Help" Role.frame] else []) ++
        (viewer.dialog.map fun title =>
          Node.of title Role.dialog (viewer.dialogItems title)).toList)

/-! ## What it does -/

def launched (app : String) (file : Option String) : Viewer :=
  let locked := file == some Document.encrypted
  { app := app
    document := file
    locked := locked
    dialog := if locked then some passwordDialog else none
    selectedFile := none
    preferences := false
    findBar := false
    helpOpen := false
    licenseShown := false
    typed := ""
    failedUnlocks := 0
    page := 1
    pageLabel := "1"
    zoom := 0
    reloads := 0
    bookmarks := []
    closed := false
    clicks := [] }

def menuCommands : List (String × Command) :=
  [("Open…", .showDialog openDialog), ("Save a Copy…", .showDialog "Save a Copy"),
    ("Print…", .showDialog "Print"), ("Properties", .showDialog "Properties"),
    ("About", .showAbout), ("Close", .quit), ("Close All Windows", .quit), ("Reload", .reload),
    ("Zoom In", .zoomIn), ("Zoom Out", .zoomOut), ("Next Page", .nextPage),
    ("Previous Page", .previousPage), ("First Page", .firstPage), ("Last Page", .lastPage),
    ("Add Bookmark", .addBookmark), ("Find…", .showFindBar), ("Preferences", .showPreferences),
    ("Contents", .showHelp)]

def buttonCommands : List (String × Command) :=
  [("Open", .openSelected), ("Cancel", .cancel), ("Close", .closeTop),
    ("Unlock Document", .unlock)]

/-- What a click by a selector makes a viewer do. The name counts as it is written in the
selector. -/
def command? (selector : Selector) : Option Command :=
  match selector.role with
  | none => none
  | some role =>
    if role = Role.menuItem then menuCommands.lookup selector.name
    else if role = Role.tableCell then some (.select selector.name)
    else if role = Role.pushButton then buttonCommands.lookup selector.name
    else if role = Role.toggleButton && selector.name = "License" then some .toggleLicense
    else none

def showDialog (habits : Habits) (title : String) (viewer : Viewer) : Viewer :=
  if habits.missingDialog = some title then viewer else { viewer with dialog := some title }

def tryPassword (habits : Habits) (viewer : Viewer) : Viewer :=
  if habits.acceptsAnyPassword || viewer.typed = Document.password then
    { viewer with
      locked := false
      dialog := if habits.keepsPasswordDialog then viewer.dialog else none }
  else { viewer with failedUnlocks := viewer.failedUnlocks + 1 }

/-- The button to unlock tries the password in the dialog, and asks for it elsewhere. What has been
typed is gone afterwards. -/
def unlock (habits : Habits) (inDialog : Bool) (viewer : Viewer) : Viewer :=
  let tried := if inDialog then viewer.tryPassword habits
    else { viewer with dialog := some passwordDialog }
  { tried with typed := "" }

def obey (habits : Habits) (inDialog : Bool) (viewer : Viewer) : Command → Viewer
  | .showDialog title => viewer.showDialog habits title
  | .showAbout => viewer.showDialog habits (Document.aboutTitle viewer.app)
  | .select file => { viewer with selectedFile := some file }
  | .openSelected =>
    { viewer with document := viewer.selectedFile, selectedFile := none, dialog := none }
  | .cancel => { viewer with dialog := none }
  | .closeTop =>
    if viewer.dialog.isSome then { viewer with dialog := none }
    else { viewer with preferences := false }
  | .unlock => viewer.unlock habits inDialog
  | .toggleLicense => { viewer with licenseShown := !viewer.licenseShown }
  | .quit => { viewer with closed := true }
  | .reload =>
    { viewer with
      reloads := viewer.reloads + 1
      document := if habits.dropsOnReload then none else viewer.document }
  | .zoomIn => { viewer with zoom := viewer.zoom + 1 }
  | .zoomOut => { viewer with zoom := viewer.zoom - 1 }
  | .nextPage => { viewer with page := min (viewer.page + 1) pageCount }
  | .previousPage => { viewer with page := max (viewer.page - 1) 1 }
  | .firstPage => { viewer with page := 1 }
  | .lastPage => { viewer with page := pageCount }
  | .addBookmark => { viewer with bookmarks := viewer.bookmarks ++ [s!"Page {viewer.page}"] }
  | .showFindBar => { viewer with findBar := true }
  | .showPreferences => { viewer with preferences := true }
  | .showHelp => { viewer with helpOpen := true }

def isInDialog (target : Locator) : Bool :=
  match target.window with
  | some window => window.kind == .dialog
  | none => false

def click (habits : Habits) (target : Locator) (viewer : Viewer) : Viewer :=
  let clicked := { viewer with clicks := viewer.clicks ++ [target.selector.name] }
  match command? target.selector with
  | some command => clicked.obey habits (isInDialog target) command
  | none => clicked

def activate (habits : Habits) (target : Locator) (viewer : Viewer) : Viewer :=
  if target.selector.name = labelEntry && habits.normalizesLabels then
    { viewer with pageLabel := Text.upper viewer.pageLabel }
  else viewer

def setText (target : Locator) (text : String) (viewer : Viewer) : Viewer :=
  if target.selector.name = labelEntry then { viewer with pageLabel := text } else viewer

/-- A combination of keys: one of them closes the window in front. -/
def press (combo : String) (viewer : Viewer) : Viewer :=
  if combo = "<Control>w" then
    if viewer.helpOpen then { viewer with helpOpen := false } else { viewer with closed := true }
  else viewer

def take (habits : Habits) (viewer : Viewer) : Input → Viewer
  | .click target => viewer.click habits target
  | .activate target => viewer.activate habits target
  | .setText target text => viewer.setText target text
  | .typeText text => { viewer with typed := viewer.typed ++ text }
  | .keyCombo combo => viewer.press combo

/-- Answers input. It fails, and nothing changes, when its widget is not there. -/
def perform (habits : Habits) (viewer : Viewer) (input : Input) :
    Except BackendError Unit × Viewer :=
  match input.target? with
  | some target =>
    if (viewer.tree.locate? target).isSome then (.ok (), viewer.take habits input)
    else (.error (.noSuchWidget target), viewer)
  | none => (.ok (), viewer.take habits input)

/-- Viewers of some habits as a backend. There is no picture of them. -/
def backend (habits : Habits) : Backend Viewer where
  connected := fun _ => true
  dump := fun _ _ viewer => .now (.ok viewer.tree) viewer
  perform := fun _ input _ viewer =>
    let (answer, after) := viewer.perform habits input
    .now answer after
  screenshot := fun _ viewer => .now (.error (.commandFailed "no display")) viewer

end Viewer

end Rehearsal
