import Rehearsal.Proofs.Viewer.Following
import Rehearsal.Proofs.Viewer.Unlocking
import Rehearsal.Proofs.Viewer.Widgets
import Rehearsal.Scenario.Catalogue
/-!
# The moves of a script on an open viewer

What the steps and the pieces of scripts come to on a viewer: a click goes through when a widget of
its role is named as it asks, and does what it would do in any window unless it is on the button to
unlock.
-/

set_option autoImplicit false

namespace Rehearsal.Viewer

variable {habits : Habits} {viewer after : Viewer} {focus : Focus} {step : Step} {rest : List Step}

theorem follow?_cons_of_quietly
    (carried : viewer.carryOut? habits focus step = quietly (some after)) :
    follow? habits (step :: rest) focus viewer =
      follow? habits rest (step.refocus focus) after := by
  rw [follow?, carried, quietly, Option.map_some]
  dsimp only
  cases follow? habits rest (step.refocus focus) after <;> rfl

theorem follow?_cons_of_none (failed : viewer.carryOut? habits focus step = none) :
    follow? habits (step :: rest) focus viewer = none := by
  rw [follow?, failed]

/-! ## Pieces of scripts -/

/-- Whether a piece of a script goes through on a viewer, whatever comes after it, and leaves a
focus and a viewer with some property. -/
def Brings (habits : Habits) (piece : List Step) (focus : Focus) (viewer : Viewer) (next : Focus)
    (goal : Viewer → Prop) : Prop :=
  ∃ after, goal after ∧
    ∀ rest, follow? habits (piece ++ rest) focus viewer = follow? habits rest next after

/-- Whether a script fails within a piece that it begins with. -/
def Stops (habits : Habits) (piece : List Step) (focus : Focus) (viewer : Viewer) : Prop :=
  ∀ rest, follow? habits (piece ++ rest) focus viewer = none

section

variable {first second : List Step} {next last : Focus} {goal final : Viewer → Prop}

theorem Brings.trans (brings : Brings habits first focus viewer next goal)
    (goesOn : ∀ after, goal after → Brings habits second next after last final) :
    Brings habits (first ++ second) focus viewer last final := by
  obtain ⟨middle, reached, followed⟩ := brings
  obtain ⟨after, ended, goneOn⟩ := goesOn middle reached
  refine ⟨after, ended, fun rest => ?_⟩
  rw [List.append_assoc, followed, goneOn]

theorem Brings.stops (brings : Brings habits first focus viewer next goal)
    (stuck : ∀ after, goal after → Stops habits second next after) :
    Stops habits (first ++ second) focus viewer := by
  obtain ⟨middle, reached, followed⟩ := brings
  intro rest
  rw [List.append_assoc, followed, stuck middle reached]

theorem Stops.append (stops : Stops habits first focus viewer) (second : List Step) :
    Stops habits (first ++ second) focus viewer := by
  intro rest
  rw [List.append_assoc]
  exact stops _

end

/-! ## Looking -/

theorem isSome_seek?_iff {selector : Selector} :
    (viewer.seek? focus selector).isSome = true ↔
      (Forest.search? selector viewer.tree).isSome = true := by
  rw [seek?, Forest.isSome_firstOf_iff]
  constructor
  · rintro ⟨locator, member, found⟩
    rw [← Procedure.selector_of_mem_candidates member]
    exact Forest.isSome_search?_of_locate? found
  · intro found
    refine ⟨.anywhere selector, ?_, found⟩
    obtain ⟨_ | window, widget⟩ := focus <;> simp [Focus.candidates]

theorem follow?_focusWindow {window : Window}
    (member : window.name ∈ viewer.tree.names window.kind.role) :
    follow? habits (.focusWindow window :: rest) focus viewer =
      follow? habits rest ⟨some window, none⟩ viewer := by
  obtain ⟨node, found⟩ := Option.isSome_iff_exists.mp (Forest.isSome_search?_of_mem member)
  refine follow?_cons_of_quietly ?_
  rw [carryOut?, Forest.locate?_anywhere, Window.selector, found]
  rfl

theorem follow?_focusWindow_none {window : Window}
    (missing : ∀ own ∈ viewer.tree.names window.kind.role,
      NamePattern.accepts window.name own = false) :
    follow? habits (.focusWindow window :: rest) focus viewer = none := by
  refine follow?_cons_of_none ?_
  rw [carryOut?, Forest.locate?_anywhere, Window.selector, Forest.search?_eq_none_iff.mpr missing]
  rfl

theorem follow?_focusFrame (title : String) (opened : viewer.closed = false)
    (titled : viewer.title = title) :
    follow? habits (Step.focusFrame title :: rest) focus viewer =
      follow? habits rest ⟨some (.frame title), none⟩ viewer := by
  refine follow?_focusWindow ?_
  rw [Window.frame, WindowKind.role, names_frame opened, titled]
  exact List.mem_cons_self

theorem follow?_focusFrame_none {title : String}
    (plain : NamePattern.hasWildcard title.toList = false)
    (opened : viewer.closed = false) (untitled : viewer.title ≠ title)
    (alone : viewer.preferences = false ∧ viewer.helpOpen = false) :
    follow? habits (Step.focusFrame title :: rest) focus viewer = none := by
  refine follow?_focusWindow_none ?_
  rw [Window.frame, WindowKind.role, names_frame opened, alone.1, alone.2]
  intro own member
  obtain rfl : own = viewer.title := by simpa using member
  rw [Bool.eq_false_iff, ne_eq, NamePattern.accepts_iff_eq plain]
  exact untitled.symm

theorem follow?_focusPreferences (opened : viewer.closed = false)
    (shown : viewer.preferences = true) :
    follow? habits (Step.focusFrame "Preferences" :: rest) focus viewer =
      follow? habits rest ⟨some (.frame "Preferences"), none⟩ viewer := by
  refine follow?_focusWindow ?_
  rw [Window.frame, WindowKind.role, names_frame opened]
  simp [shown]

theorem follow?_focusDialog (title : String) (opened : viewer.closed = false)
    (shown : viewer.dialog = some title) :
    follow? habits (Step.focusDialog title :: rest) focus viewer =
      follow? habits rest ⟨some (.dialog title), none⟩ viewer :=
  follow?_focusWindow (dialog_mem_names opened shown)

theorem follow?_focusDialog_none (title : String) (opened : viewer.closed = false)
    (bare : viewer.dialog = none) :
    follow? habits (Step.focusDialog title :: rest) focus viewer = none := by
  refine follow?_focusWindow_none ?_
  rw [Window.dialog, WindowKind.role, names_eq_nil_of_bare opened bare (by decide)]
  exact nofun

/-! ## Clicking -/

def clicked (habits : Habits) (name role : String) (viewer : Viewer) : Viewer :=
  viewer.click habits (.anywhere (.of name role))

theorem obey_of_ne_unlock {command : Command} (other : command ≠ .unlock) (habits : Habits)
    (inDialog : Bool) (viewer : Viewer) :
    viewer.obey habits inDialog command = viewer.obey habits false command := by
  cases command with
  | unlock => exact absurd rfl other
  | _ => rfl

theorem click_eq_clicked {target : Locator} {name role : String}
    (same : target.selector = .of name role) (other : Selector.of name role ≠ unlockButton) :
    viewer.click habits target = viewer.clicked habits name role := by
  rw [clicked, click, click, same]
  dsimp only [Locator.anywhere]
  cases known : command? (.of name role) with
  | none => rfl
  | some command =>
      refine obey_of_ne_unlock ?_ habits _ _
      rintro rfl
      exact other ((command?_eq_unlock_iff _).mp known)

theorem follow?_click {name role : String} (member : name ∈ viewer.tree.names role)
    (other : Selector.of name role ≠ unlockButton) :
    follow? habits (.click name role :: rest) focus viewer =
      follow? habits rest focus (viewer.clicked habits name role) := by
  -- Which of its places the widget is found at matters to the button to unlock alone.
  obtain ⟨found, sought⟩ := Option.isSome_iff_exists.mp
    (isSome_seek?_iff.mpr (Forest.isSome_search?_of_mem member) : (viewer.seek? focus _).isSome)
  have same : found.1.selector = .of name role :=
    Procedure.selector_of_mem_candidates (Forest.of_firstOf_eq_some sought).1
  refine follow?_cons_of_quietly ?_
  rw [carryOut?, act?, sought, ← click_eq_clicked same other]
  rfl

theorem follow?_click_none {name role : String}
    (missing : ∀ own ∈ viewer.tree.names role, NamePattern.accepts name own = false) :
    follow? habits (.click name role :: rest) focus viewer = none := by
  have sought : viewer.seek? focus (.of name role) = none := by
    rw [← Option.not_isSome_iff_eq_none, isSome_seek?_iff, Forest.search?_eq_none_iff.mpr missing]
    simp
  refine follow?_cons_of_none ?_
  rw [carryOut?, act?, sought]
  rfl

/-! ## Menus -/

def offers (viewer : Viewer) (name item : String) : Bool :=
  viewer.menus.any fun node =>
    node.name = some name && node.children.any fun leaf => leaf.name = some item

theorem mem_names_of_offers (opened : viewer.closed = false) {name item : String}
    (offered : viewer.offers name item = true) :
    name ∈ viewer.tree.names Role.menu ∧ item ∈ viewer.tree.names Role.menuItem := by
  obtain ⟨node, listed, fits⟩ := List.any_eq_true.mp offered
  obtain ⟨own, items, rfl⟩ : ∃ own items, node = menu own items := by
    simp only [menus, List.mem_cons, List.not_mem_nil, or_false] at listed
    rcases listed with rfl | rfl | rfl | rfl | rfl | rfl <;> exact ⟨_, _, rfl⟩
  have found : own = name ∧ item ∈ items := by
    simpa [menu, Node.of, Node.leaf] using fits
  obtain ⟨rfl, member⟩ := found
  exact ⟨mem_names_menu opened listed, mem_names_menuItem opened listed member⟩

theorem offers_bookmark {name : String} (marked : name ∈ viewer.bookmarks) :
    viewer.offers "Bookmarks" name = true := by
  simp [offers, menus, menu, Node.of, Node.leaf, marked]

theorem clicked_menu (habits : Habits) (name : String) (viewer : Viewer) :
    viewer.clicked habits name Role.menu = { viewer with clicks := viewer.clicks ++ [name] } :=
  rfl

def choose (habits : Habits) (name item : String) (viewer : Viewer) : Viewer :=
  (viewer.clicked habits name Role.menu).clicked habits item Role.menuItem

theorem follow?_menuItem (opened : viewer.closed = false) {name item : String}
    (offered : viewer.offers name item = true) :
    follow? habits (Catalogue.menuItem name item ++ rest) focus viewer =
      follow? habits rest focus (viewer.choose habits name item) := by
  obtain ⟨there, below⟩ := mem_names_of_offers opened offered
  have apart (own : String) : Selector.of own Role.menu ≠ unlockButton := by
    simp [unlockButton, Selector.of, Role.menu, Role.pushButton]
  have apartItem (own : String) : Selector.of own Role.menuItem ≠ unlockButton := by
    simp [unlockButton, Selector.of, Role.menuItem, Role.pushButton]
  rw [Catalogue.menuItem, List.cons_append, follow?_click there (apart name), List.cons_append,
    follow?_click (by exact below) (apartItem item)]
  rfl

theorem choose_showDialog {name item title : String}
    (known : command? (.of item Role.menuItem) = some (.showDialog title)) :
    viewer.choose habits name item =
      { viewer with clicks := viewer.clicks ++ [name] ++ [item] }.showDialog habits title := by
  rw [choose, clicked_menu, clicked, click]
  dsimp only [Locator.anywhere]
  rw [known]
  rfl

theorem choose_showAbout (name : String) :
    viewer.choose habits name "About" =
      { viewer with clicks := viewer.clicks ++ [name] ++ ["About"] }.showDialog habits
        (Document.aboutTitle viewer.app) :=
  rfl

theorem showDialog_of_present {title : String} (present : habits.missingDialog ≠ some title) :
    viewer.showDialog habits title = { viewer with dialog := some title } :=
  if_neg present

theorem showDialog_of_missing {title : String} (missing : habits.missingDialog = some title) :
    viewer.showDialog habits title = viewer :=
  if_pos missing

theorem follow?_quit (opened : viewer.closed = false) (item : String)
    (known : command? (.of item Role.menuItem) = some .quit)
    (offered : viewer.offers "File" item = true) :
    follow? habits (Catalogue.menuItem "File" item) focus viewer =
      some ([],
        { viewer with closed := true, clicks := viewer.clicks ++ ["File"] ++ [item] }) := by
  rw [← List.append_nil (Catalogue.menuItem _ _), follow?_menuItem opened offered, follow?, choose,
    clicked_menu, clicked, click]
  dsimp only [Locator.anywhere]
  rw [known]
  rfl

/-! ## Dialogs -/

theorem dialogItems_openDialog (viewer : Viewer) :
    viewer.dialogItems openDialog =
      [Node.leaf Document.links Role.tableCell, button "Cancel", button "Open"] :=
  rfl

theorem dialogItems_properties (viewer : Viewer) :
    viewer.dialogItems "Properties" =
      [Node.leaf "General" Role.pageTab, Node.leaf "Fonts" Role.pageTab, button "Close"] :=
  rfl

/-- The dialog about an application is told by how its title begins. -/
theorem dialogItems_aboutTitle (app : String) (viewer : Viewer) :
    viewer.dialogItems (Document.aboutTitle app) =
      [Node.leaf "License" Role.toggleButton, button "Close"] := by
  have begins : "About".toList.isPrefixOf (Document.aboutTitle app).toList = true := by
    rw [Document.aboutTitle]
    split
    · rfl
    · rw [String.toList_append, List.isPrefixOf_iff_prefix]
      exact List.IsPrefix.trans (by decide) (List.prefix_append _ _)
  have differs {title : String} (unlike : "About".toList.isPrefixOf title.toList = false) :
      Document.aboutTitle app ≠ title := by
    rintro rfl
    cases unlike.symm.trans begins
  rw [dialogItems, if_neg (differs rfl), if_neg (differs rfl), if_neg (differs rfl), if_pos begins]

theorem follow?_press {name : String} (member : name ∈ viewer.tree.names Role.pushButton)
    (other : name ≠ "Unlock Document") :
    follow? habits (Catalogue.press name :: rest) focus viewer =
      follow? habits rest focus (viewer.clicked habits name Role.pushButton) :=
  follow?_click member (by simp [unlockButton, Selector.of, other])

theorem follow?_openFromChooser (opened : viewer.closed = false)
    (present : habits.missingDialog ≠ some openDialog) :
    follow? habits (Catalogue.openFromChooser Document.links ++ rest) focus viewer =
      follow? habits rest focus
        { viewer with
          document := some Document.links
          selectedFile := none
          dialog := none
          clicks := viewer.clicks ++ ["File"] ++ ["Open…"] ++ [Document.links] ++ ["Open"] } := by
  have offered : viewer.offers "File" "Open…" = true := rfl
  have cell : Node.leaf Document.links Role.tableCell ∈ viewer.dialogItems openDialog := by
    simp [dialogItems_openDialog]
  have apart : Selector.of Document.links Role.tableCell ≠ unlockButton := by decide
  have confirm : button "Open" ∈ viewer.dialogItems openDialog := by simp [dialogItems_openDialog]
  rw [Catalogue.openFromChooser, List.append_assoc, follow?_menuItem opened offered,
    choose_showDialog rfl, showDialog_of_present present, List.cons_append,
    follow?_click (mem_names_of_dialog (by exact opened) rfl (by exact cell)) apart,
    List.cons_append, follow?_press (mem_names_of_dialog (by exact opened) rfl (by exact confirm))
      (by decide)]
  rfl

theorem follow?_openFromChooser_none (opened : viewer.closed = false)
    (bare : viewer.dialog = none) (missing : habits.missingDialog = some openDialog)
    (file : String) :
    follow? habits (Catalogue.openFromChooser file ++ rest) focus viewer = none := by
  have offered : viewer.offers "File" "Open…" = true := rfl
  rw [Catalogue.openFromChooser, List.append_assoc, follow?_menuItem opened offered,
    choose_showDialog rfl, showDialog_of_missing missing, List.cons_append]
  refine follow?_click_none ?_
  rw [names_eq_nil_of_bare (by exact opened) (by exact bare) (by decide)]
  exact nofun

/-! ## Keys -/

theorem follow?_typeText (text : String) :
    follow? habits (.typeText text :: rest) focus viewer =
      follow? habits rest focus { viewer with typed := viewer.typed ++ text } :=
  follow?_cons_of_quietly rfl

theorem follow?_keyCombo (combo : String) :
    follow? habits (.keyCombo combo :: rest) focus viewer =
      follow? habits rest focus (viewer.press combo) :=
  follow?_cons_of_quietly rfl

/-! ## The lock -/

theorem unlock_accepted
    (accepted : habits.acceptsAnyPassword = true ∨ viewer.typed = Document.password) :
    viewer.unlock habits true =
      { viewer with
        locked := false
        dialog := if habits.keepsPasswordDialog then viewer.dialog else none
        typed := "" } := by
  rw [unlock, tryPassword]
  simp [accepted]

theorem unlock_refused (strict : habits.acceptsAnyPassword = false)
    (wrong : viewer.typed ≠ Document.password) :
    viewer.unlock habits true =
      { viewer with failedUnlocks := viewer.failedUnlocks + 1, typed := "" } := by
  rw [unlock, tryPassword]
  simp [strict, wrong]

/-- The button to unlock is looked for in the window that has focus first. -/
theorem follow?_unlock {window : Window} {widget : Option Selector}
    (there : (viewer.tree.locate? (.within window unlockButton)).isSome = true) :
    follow? habits (Catalogue.press "Unlock Document" :: rest) ⟨some window, widget⟩ viewer =
      follow? habits rest ⟨some window, widget⟩
        ({ viewer with clicks := viewer.clicks ++ ["Unlock Document"] }.unlock habits
          (isInDialog (.within window unlockButton))) := by
  obtain ⟨node, found⟩ := Option.isSome_iff_exists.mp there
  have sought : viewer.seek? ⟨some window, widget⟩ unlockButton =
      some (.within window unlockButton, node) := by
    rw [seek?, Focus.candidates, Forest.firstOf, List.findSome?_cons, found]
    rfl
  refine follow?_cons_of_quietly ?_
  rw [Catalogue.press, carryOut?, act?, ← unlockButton, sought, Option.map_some, take,
    click_unlock rfl]
  rfl

theorem follow?_unlock_in_dialog (opened : viewer.closed = false)
    (asks : viewer.dialog = some passwordDialog) {widget : Option Selector} :
    follow? habits (Catalogue.press "Unlock Document" :: rest)
        ⟨some (.dialog "Enter password"), widget⟩ viewer =
      follow? habits rest ⟨some (.dialog "Enter password"), widget⟩
        ({ viewer with clicks := viewer.clicks ++ ["Unlock Document"] }.unlock habits true) := by
  have button : Viewer.button "Unlock Document" ∈ viewer.dialogItems passwordDialog := by
    simp [dialogItems]
  have fits : NamePattern.accepts "Enter password" passwordDialog = true :=
    NamePattern.accepts_self passwordDialog
  refine follow?_unlock ?_
  rw [Forest.locate?_within, Window.selector, Window.dialog, WindowKind.role,
    search?_dialog opened asks fits, Option.bind_some]
  exact Forest.isSome_search?_of_mem (Forest.mem_names (Forest.mem_preorder_of_mem button) rfl rfl)

theorem follow?_unlock_in_frame (opened : viewer.closed = false) (locked : viewer.locked = true)
    {title : String} (titled : viewer.title = title) {widget : Option Selector} :
    follow? habits (Catalogue.press "Unlock Document" :: rest)
        ⟨some (.frame title), widget⟩ viewer =
      follow? habits rest ⟨some (.frame title), widget⟩
        ({ viewer with clicks := viewer.clicks ++ ["Unlock Document"] }.unlock habits false) := by
  have button : Viewer.button "Unlock Document" ∈ viewer.mainWindow.children := by
    simp [mainWindow, Node.of, locked]
  refine follow?_unlock ?_
  rw [Forest.locate?_within, Window.selector, Window.frame, WindowKind.role,
    search?_mainWindow opened (titled ▸ NamePattern.accepts_self _), Option.bind_some]
  exact Forest.isSome_search?_of_mem (Forest.mem_names (Forest.mem_preorder_of_mem button) rfl rfl)

theorem follow?_waitForClosed (title : String) (opened : viewer.closed = false)
    (bare : viewer.dialog = none) :
    follow? habits (.waitForClosed (.dialog title) :: rest) focus viewer =
      follow? habits rest (Step.refocus focus (.waitForClosed (.dialog title))) viewer := by
  have gone : Forest.search? (.of title Role.dialog) viewer.tree = none := by
    rw [Forest.search?_eq_none_iff, names_eq_nil_of_bare opened bare (by decide)]
    exact nofun
  refine follow?_cons_of_quietly ?_
  rw [carryOut?, Forest.locate?_anywhere, Window.selector, Window.dialog, WindowKind.role, gone]
  rfl

theorem follow?_waitForClosed_none (title : String) (opened : viewer.closed = false)
    (shown : viewer.dialog = some title) :
    follow? habits (.waitForClosed (.dialog title) :: rest) focus viewer = none := by
  refine follow?_cons_of_none ?_
  rw [carryOut?, Forest.locate?_anywhere, Window.selector, Window.dialog, WindowKind.role,
    if_pos (Forest.isSome_search?_of_mem (dialog_mem_names opened shown))]
  rfl

/-! ## A focused widget -/

section

variable {selector : Selector} {found : Locator × Node}

theorem follow?_focusWidget {name : String}
    (sought : viewer.seek? focus (.named name) = some found) :
    follow? habits (.focusWidget name :: rest) focus viewer =
      follow? habits rest ⟨focus.window, some (.named name)⟩ viewer := by
  refine follow?_cons_of_quietly ?_
  rw [carryOut?, sought]
  rfl

variable (focused : focus.widget = some selector)
  (sought : viewer.seek? focus selector = some found)

include focused sought

theorem follow?_setWidgetText (text : String) :
    follow? habits (.setWidgetText text :: rest) focus viewer =
      follow? habits rest focus (viewer.setText found.1 text) := by
  refine follow?_cons_of_quietly ?_
  rw [carryOut?, focused, Option.bind_some, act?, sought]
  rfl

theorem follow?_activate :
    follow? habits (.activate :: rest) focus viewer =
      follow? habits rest focus (viewer.activate habits found.1) := by
  refine follow?_cons_of_quietly ?_
  rw [carryOut?, focused, Option.bind_some, act?, sought]
  rfl

theorem follow?_widgetText :
    follow? habits (.widgetText :: rest) focus viewer =
      (follow? habits rest focus viewer).map fun ended =>
        (found.2.text.getD "" :: ended.1, ended.2) := by
  rw [follow?, carryOut?, readText?, focused, Option.bind_some, sought]
  rfl

end

/-! ## The entry for the label of the page -/

/-- The label after the default action of its entry. -/
def settledLabel (habits : Habits) (text : String) : String :=
  if habits.normalizesLabels then Text.upper text else text

section

variable {target : Locator} (named : target.selector = .named labelEntry)

include named

theorem setText_labelEntry (text : String) :
    viewer.setText target text = { viewer with pageLabel := text } := by
  rw [setText, named]
  rfl

theorem activate_labelEntry :
    viewer.activate habits target =
      { viewer with pageLabel := settledLabel habits viewer.pageLabel } := by
  rw [activate, named, settledLabel]
  cases habits.normalizesLabels <;> rfl

end

def entryFocus : Focus := ⟨none, some (.named labelEntry)⟩

section

variable (opened : viewer.closed = false) (titled : viewer.title ≠ labelEntry)
  (unmarked : labelEntry ∉ viewer.bookmarks)

include opened titled unmarked

theorem seek?_labelEntry {widget : Option Selector} :
    viewer.seek? ⟨none, widget⟩ (.named labelEntry) =
      some (.anywhere (.named labelEntry), Node.bearing labelEntry Role.text viewer.pageLabel) := by
  rw [seek?, Focus.candidates, Forest.firstOf_singleton, Forest.locate?_anywhere,
    search?_labelEntry opened titled unmarked]
  rfl

theorem follow?_focusEntry :
    follow? habits (.focusWidget "page-label-entry" :: rest) .none viewer =
      follow? habits rest entryFocus viewer :=
  follow?_focusWidget (seek?_labelEntry opened titled unmarked)

theorem follow?_setEntry (text : String) :
    follow? habits (.setWidgetText text :: rest) entryFocus viewer =
      follow? habits rest entryFocus { viewer with pageLabel := text } := by
  refine (follow?_setWidgetText rfl (seek?_labelEntry opened titled unmarked) text).trans ?_
  rw [setText_labelEntry rfl]
  rfl

theorem follow?_activateEntry :
    follow? habits (.activate :: rest) entryFocus viewer =
      follow? habits rest entryFocus
        { viewer with
          pageLabel :=
            if habits.normalizesLabels then Text.upper viewer.pageLabel
            else viewer.pageLabel } := by
  refine (follow?_activate rfl (seek?_labelEntry opened titled unmarked)).trans ?_
  rw [activate_labelEntry rfl]
  rfl

theorem follow?_readEntry :
    follow? habits (.widgetText :: rest) entryFocus viewer =
      (follow? habits rest entryFocus viewer).map fun ended =>
        (viewer.pageLabel :: ended.1, ended.2) :=
  follow?_widgetText rfl (seek?_labelEntry opened titled unmarked)

end

end Rehearsal.Viewer
