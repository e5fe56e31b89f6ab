import Rehearsal.Proofs.Scenario.Walks
/-!
# Rehearsals of scenarios

What the script of a scenario comes to on a viewer of some habits that was launched for it: whether
it gets to its end and closes the viewer, or fails on the way because a dialog or a document that it
looks for is not there.
-/

set_option autoImplicit false

namespace Rehearsal

open Viewer Catalogue

/-- What a scenario comes to on a viewer of some habits that was launched for it. -/
def Scenario.rehearse (scenario : Scenario) (habits : Habits) (app : String) :
    Option (List String × Viewer) :=
  follow? habits (scenario.script app) .none (launched app scenario.fixture)

/-- Whether a script has come to its end with some texts and has closed its viewer. -/
def EndsClosed (texts : List String) (ended : Option (List String × Viewer)) : Prop :=
  ∃ after, ended = some (texts, after) ∧ after.closed = true

theorem EndsClosed.read {texts : List String} {ended : Option (List String × Viewer)}
    (ends : EndsClosed texts ended) (text : String) :
    EndsClosed (text :: texts) (ended.map fun rest => (text :: rest.1, rest.2)) := by
  obtain ⟨after, rfl, closed⟩ := ends
  exact ⟨after, rfl, closed⟩

variable {habits : Habits} {viewer : Viewer} {focus : Focus}

theorem EndsClosed.of_brings {piece rest : List Step} {next : Focus} {goal : Viewer → Prop}
    {texts : List String} (brings : Brings habits piece focus viewer next goal)
    (ends : ∀ after, goal after → EndsClosed texts (follow? habits rest next after)) :
    EndsClosed texts (follow? habits (piece ++ rest) focus viewer) := by
  obtain ⟨after, reached, followed⟩ := brings
  rw [followed]
  exact ends after reached

namespace Catalogue

theorem endsClosed_closeWindow (opened : viewer.closed = false) :
    EndsClosed [] (follow? habits closeWindow focus viewer) :=
  ⟨_, follow?_quit opened "Close" rfl rfl, rfl⟩

/-! ## Walks that need the chooser at most -/

theorem zoom_passes (present : habits.missingDialog ≠ some openDialog) (app : String) :
    EndsClosed [] (zoom.rehearse habits app) := by
  obtain ⟨_, walks⟩ : ∃ clicks, zoom.rehearse habits app =
      some ([], walked (launched app none) 1 clicks) := follow?_zoom present rfl rfl app
  exact ⟨_, walks, rfl⟩

theorem goMenu_passes (present : habits.missingDialog ≠ some openDialog) (app : String) :
    EndsClosed [] (goMenu.rehearse habits app) := by
  obtain ⟨_, walks⟩ : ∃ clicks, goMenu.rehearse habits app =
      some ([], walked (launched app none) 1 clicks) := follow?_goMenu present rfl rfl app
  exact ⟨_, walks, rfl⟩

theorem bookmarksMenu_passes (present : habits.missingDialog ≠ some openDialog) (app : String) :
    EndsClosed [] (bookmarksMenu.rehearse habits app) := by
  have marked {viewer : Viewer} (first : viewer.page = 1) :
      "Page 1" ∈ (viewer.choose habits "Bookmarks" "Add Bookmark").bookmarks := by
    have added : (viewer.choose habits "Bookmarks" "Add Bookmark").bookmarks =
      viewer.bookmarks ++ [s!"Page {viewer.page}"] := rfl
    rw [added, first]
    exact List.mem_append_right _ (List.mem_singleton.mpr rfl)
  rw [Scenario.rehearse, bookmarksMenu]
  simp only [List.append_assoc, List.cons_append, List.nil_append]
  rw [follow?_openFromChooser rfl present, follow?_focusFrame Document.links rfl rfl,
    follow?_menuItem rfl rfl, follow?_menuItem rfl (offers_bookmark (marked rfl))]
  exact endsClosed_closeWindow rfl

theorem chooser_stops {scenario : Scenario}
    (chooses : scenario ∈ [bookmarksMenu, goMenu, zoom])
    (missing : habits.missingDialog = some openDialog) (app : String) :
    scenario.rehearse habits app = none := by
  simp only [List.mem_cons, List.not_mem_nil, or_false] at chooses
  rcases chooses with rfl | rfl | rfl
  all_goals
    simp only [Scenario.rehearse, bookmarksMenu, goMenu, zoom, List.append_assoc]
    exact follow?_openFromChooser_none rfl rfl missing _

theorem wrongFileExtension_passes (habits : Habits) (app : String) :
    EndsClosed [] (wrongFileExtension.rehearse habits app) :=
  endsClosed_closeWindow rfl

theorem editMenu_passes (habits : Habits) (app : String) :
    EndsClosed [] (editMenu.rehearse habits app) := by
  rw [Scenario.rehearse, editMenu]
  simp only [List.append_assoc, List.cons_append, List.nil_append, List.flatMap_cons,
    List.flatMap_nil]
  rw [follow?_focusFrame Document.links rfl rfl, follow?_menuItem rfl rfl,
    follow?_menuItem rfl rfl, follow?_focusFrame Document.links rfl rfl, follow?_typeText,
    follow?_press (findPrevious_mem_names rfl rfl) (by decide)]
  rw [follow?_menuItem rfl rfl, follow?_menuItem rfl rfl, follow?_menuItem rfl rfl,
    follow?_menuItem rfl rfl, follow?_menuItem rfl rfl, follow?_menuItem rfl rfl]
  rw [follow?_focusPreferences rfl rfl, follow?_press (close_mem_names rfl rfl) (by decide),
    follow?_focusFrame Document.links rfl rfl]
  exact endsClosed_closeWindow rfl

/-! ## The Help menu -/

theorem helpMenu_passes {app : String}
    (present : habits.missingDialog ≠ some (Document.aboutTitle app)) :
    EndsClosed [] (helpMenu.rehearse habits app) := by
  have items (viewer : Viewer) :
      Node.leaf "License" Role.toggleButton ∈ viewer.dialogItems (Document.aboutTitle app) ∧
        button "Close" ∈ viewer.dialogItems (Document.aboutTitle app) := by
    simp [dialogItems_aboutTitle]
  have apart : Selector.of "License" Role.toggleButton ≠ unlockButton := by decide
  rw [Scenario.rehearse, helpMenu]
  simp only [List.append_assoc, List.cons_append, List.nil_append]
  rw [follow?_menuItem rfl rfl, choose_showAbout, showDialog_of_present (by exact present),
    follow?_focusDialog (Document.aboutTitle app) rfl rfl,
    follow?_click (mem_names_of_dialog rfl rfl (items _).1) apart,
    follow?_press (mem_names_of_dialog rfl rfl (items _).2) (by decide),
    follow?_focusFrame Document.recent rfl rfl, follow?_menuItem rfl rfl, follow?_keyCombo,
    follow?_focusFrame Document.recent rfl rfl]
  exact endsClosed_closeWindow rfl

theorem helpMenu_stops {app : String}
    (missing : habits.missingDialog = some (Document.aboutTitle app)) :
    helpMenu.rehearse habits app = none := by
  rw [Scenario.rehearse, helpMenu]
  simp only [List.append_assoc, List.cons_append, List.nil_append]
  rw [follow?_menuItem rfl rfl, choose_showAbout, showDialog_of_missing (by exact missing)]
  exact follow?_focusDialog_none (Document.aboutTitle app) rfl rfl

/-! ## The page label -/

/-- Whatever the viewer does to the label, the scenario comes to its end with what it shows then. -/
theorem fileReloading_ends (habits : Habits) (app : String) :
    EndsClosed [if habits.normalizesLabels then properLabel else "iii"]
      (fileReloading.rehearse habits app) := by
  have titled : (launched app (some Document.pageLabels)).title ≠ labelEntry := by
    change Document.pageLabels ≠ labelEntry
    decide
  have unmarked : labelEntry ∉ (launched app (some Document.pageLabels)).bookmarks := nofun
  have upper : Text.upper "iii" = properLabel := by
    have one : Text.upperChar 'i' = ['I'] := by decide +kernel
    simp [Text.upper, one, properLabel]
  rw [Scenario.rehearse, fileReloading]
  simp only [List.cons_append, List.nil_append]
  rw [follow?_focusEntry rfl (by exact titled) (by exact unmarked),
    follow?_setEntry rfl (by exact titled) (by exact unmarked),
    follow?_activateEntry rfl (by exact titled) (by exact unmarked),
    follow?_readEntry rfl (by exact titled) (by exact unmarked), ← upper]
  exact (endsClosed_closeWindow rfl).read _

/-! ## Viewers with the document that has links -/

/-- Whether a viewer has a title and shows no window but a dialog, if any. -/
structure Displays (title : String) (dialog : Option String) (viewer : Viewer) : Prop where
  opened : viewer.closed = false
  titled : viewer.title = title
  dialog : viewer.dialog = dialog
  alone : viewer.preferences = false ∧ viewer.helpOpen = false

abbrev ShowsLinks : Option String → Viewer → Prop := Displays Document.links

theorem showsLinks_launched (app : String) : ShowsLinks none (launched app (some Document.links)) :=
  ⟨rfl, rfl, rfl, rfl, rfl⟩

def linksFocus : Focus := ⟨some (.frame Document.links), none⟩

theorem brings_focusFrame {dialog : Option String} (shows : ShowsLinks dialog viewer)
    (focus : Focus) :
    Brings habits [Step.focusFrame Document.links] focus viewer linksFocus (ShowsLinks dialog) :=
  ⟨viewer, shows, fun _ => follow?_focusFrame Document.links shows.opened shows.titled⟩

/-! ### Reloading -/

def reloadOnce : List Step := menuItem "View" "Reload" ++ [Step.focusFrame Document.links]

def reloaded (habits : Habits) (viewer : Viewer) : Viewer :=
  { viewer with
    reloads := viewer.reloads + 1
    document := if habits.dropsOnReload then none else viewer.document
    clicks := viewer.clicks ++ ["View"] ++ ["Reload"] }

theorem follow?_reload (opened : viewer.closed = false) (rest : List Step) :
    follow? habits (menuItem "View" "Reload" ++ rest) focus viewer =
      follow? habits rest focus (reloaded habits viewer) :=
  follow?_menuItem opened rfl

theorem brings_reloadOnce (keeps : habits.dropsOnReload = false) (shows : ShowsLinks none viewer) :
    Brings habits reloadOnce linksFocus viewer linksFocus (ShowsLinks none) := by
  have kept : ShowsLinks none (reloaded habits viewer) := by
    rw [reloaded, keeps]
    exact ⟨shows.opened, shows.titled, shows.dialog, shows.alone⟩
  have chosen :
      Brings habits (menuItem "View" "Reload") linksFocus viewer linksFocus (ShowsLinks none) :=
    ⟨_, kept, fun rest => follow?_reload shows.opened rest⟩
  exact chosen.trans fun _ shown => brings_focusFrame shown _

theorem stops_reloadOnce (drops : habits.dropsOnReload = true) (shows : ShowsLinks none viewer) :
    Stops habits reloadOnce linksFocus viewer := by
  have lost : (reloaded habits viewer).title ≠ Document.links := by
    rw [reloaded, drops]
    change Document.recent ≠ Document.links
    decide
  intro rest
  rw [reloadOnce, List.append_assoc, follow?_reload shows.opened]
  exact follow?_focusFrame_none rfl (by exact shows.opened) lost (by exact shows.alone)

theorem brings_reloads (keeps : habits.dropsOnReload = false) (times : Nat)
    (shows : ShowsLinks none viewer) :
    Brings habits (List.replicate times reloadOnce).flatten linksFocus viewer linksFocus
      (ShowsLinks none) := by
  induction times generalizing viewer with
  | zero => exact ⟨viewer, shows, fun _ => rfl⟩
  | succ times ih =>
      rw [List.replicate_succ, List.flatten_cons]
      exact (brings_reloadOnce keeps shows).trans fun _ shown => ih shown

theorem script_reload (app : String) :
    reload.script app =
      [Step.focusFrame Document.links] ++ (List.replicate reloadCount reloadOnce).flatten ++
        closeWindow :=
  rfl

theorem reload_passes (keeps : habits.dropsOnReload = false) (app : String) :
    EndsClosed [] (reload.rehearse habits app) := by
  rw [Scenario.rehearse, script_reload]
  have looks : Brings habits [Step.focusFrame Document.links] .none _ _ _ :=
    brings_focusFrame (showsLinks_launched app) .none
  have reloads := looks.trans fun _ shows => brings_reloads keeps reloadCount shows
  exact .of_brings reloads fun _ shown => endsClosed_closeWindow shown.opened

theorem reload_stops (drops : habits.dropsOnReload = true) (app : String) :
    reload.rehearse habits app = none := by
  rw [Scenario.rehearse, script_reload, reloadCount, List.replicate_succ, List.flatten_cons]
  refine ((brings_focusFrame (showsLinks_launched app) .none).stops fun _ shown => ?_) closeWindow
  exact (stops_reloadOnce drops shown).append _

/-! ### The dialogs of the File menu -/

section

variable (shows : ShowsLinks none viewer) (item : String) {title : String}
  (known : command? (.of item Role.menuItem) = some (.showDialog title))
  (offered : viewer.offers "File" item = true)

include shows known offered

theorem brings_showDialog (present : habits.missingDialog ≠ some title) (focus : Focus) :
    Brings habits (menuItem "File" item) focus viewer focus (ShowsLinks (some title)) := by
  refine ⟨{ viewer with
      dialog := some title
      clicks := viewer.clicks ++ ["File"] ++ [item] },
    ⟨shows.opened, shows.titled, rfl, shows.alone⟩, fun rest => ?_⟩
  rw [follow?_menuItem shows.opened offered, choose_showDialog known, showDialog_of_present present]

theorem brings_missingDialog (missing : habits.missingDialog = some title) (focus : Focus) :
    Brings habits (menuItem "File" item) focus viewer focus (ShowsLinks none) := by
  refine ⟨{ viewer with clicks := viewer.clicks ++ ["File"] ++ [item] },
    ⟨shows.opened, shows.titled, shows.dialog, shows.alone⟩, fun rest => ?_⟩
  rw [follow?_menuItem shows.opened offered, choose_showDialog known, showDialog_of_missing missing]

end

section

variable {title : String} (shows : ShowsLinks (some title) viewer)

include shows

theorem brings_focusDialog (focus : Focus) :
    Brings habits [Step.focusDialog title] focus viewer ⟨some (.dialog title), none⟩
      (ShowsLinks (some title)) :=
  ⟨viewer, shows, fun _ => follow?_focusDialog title shows.opened shows.dialog⟩

theorem brings_pageTab {name : String}
    (tab : Node.leaf name Role.pageTab ∈ viewer.dialogItems title) (focus : Focus) :
    Brings habits [.click name Role.pageTab] focus viewer focus (ShowsLinks (some title)) := by
  have apart : Selector.of name Role.pageTab ≠ unlockButton := by
    simp [unlockButton, Selector.of, Role.pageTab, Role.pushButton]
  refine ⟨{ viewer with clicks := viewer.clicks ++ [name] },
    ⟨shows.opened, shows.titled, shows.dialog, shows.alone⟩, fun rest => ?_⟩
  exact follow?_click (mem_names_of_dialog shows.opened shows.dialog tab) apart

theorem brings_dismissed {name : String} (dismisses : name = "Cancel" ∨ name = "Close")
    (listed : button name ∈ viewer.dialogItems title) (focus : Focus) :
    Brings habits [press name, Step.focusFrame Document.links] focus viewer linksFocus
      (ShowsLinks none) := by
  have dismissed : viewer.clicked habits name Role.pushButton =
      { viewer with dialog := none, clicks := viewer.clicks ++ [name] } := by
    rcases dismisses with rfl | rfl
    · rfl
    · change obey habits false { viewer with clicks := _ } .closeTop = _
      rw [obey, shows.dialog]
      rfl
  have apart : name ≠ "Unlock Document" := by
    rcases dismisses with rfl | rfl <;> decide
  have pressed : Brings habits [press name] focus viewer focus (ShowsLinks none) := by
    refine ⟨{ viewer with dialog := none, clicks := viewer.clicks ++ [name] },
      ⟨shows.opened, shows.titled, rfl, shows.alone⟩, fun rest => ?_⟩
    exact dismissed ▸ follow?_press (mem_names_of_dialog shows.opened shows.dialog listed) apart
  exact pressed.trans fun _ shown => brings_focusFrame shown focus

end

theorem stops_cancel (shows : ShowsLinks none viewer) (focus : Focus) :
    Stops habits [press "Cancel", Step.focusFrame Document.links] focus viewer := by
  refine fun rest => follow?_click_none fun own member => ?_
  rw [Bool.eq_false_iff, ne_eq, NamePattern.accepts_iff_eq rfl]
  rintro rfl
  exact cancel_not_mem_names shows.opened shows.dialog member

theorem stops_pageTab (shows : ShowsLinks none viewer) (name : String) (focus : Focus) :
    Stops habits [.click name Role.pageTab] focus viewer := by
  refine fun rest => follow?_click_none ?_
  rw [names_eq_nil_of_bare shows.opened shows.dialog (by decide)]
  exact nofun

/-- Whether a part of a script stands or falls with a dialog: it goes through and leaves no dialog
behind if there is one of a title, and else fails. -/
def Needs (habits : Habits) (title : String) (part : List Step) : Prop :=
  ∀ viewer focus, ShowsLinks none viewer →
    (habits.missingDialog ≠ some title →
      Brings habits part focus viewer linksFocus (ShowsLinks none)) ∧
    (habits.missingDialog = some title → Stops habits part focus viewer)

/-- Parts that each need a dialog need all of them together. -/
theorem needs_parts {parts : List (String × List Step)}
    (needs : ∀ part ∈ parts, Needs habits part.1 part.2) (shows : ShowsLinks none viewer)
    (focus : Focus) :
    ((∀ part ∈ parts, habits.missingDialog ≠ some part.1) →
      ∃ next, Brings habits (parts.flatMap (·.2)) focus viewer next (ShowsLinks none)) ∧
    ((∃ part ∈ parts, habits.missingDialog = some part.1) →
      Stops habits (parts.flatMap (·.2)) focus viewer) := by
  -- Every part that goes through leaves the viewer without a dialog, as the next one needs it.
  induction parts generalizing viewer focus with
  | nil => exact ⟨fun _ => ⟨focus, viewer, shows, fun _ => rfl⟩, by simp⟩
  | cons part parts ih =>
      obtain ⟨goes, stops⟩ := needs part List.mem_cons_self viewer focus shows
      rw [List.flatMap_cons]
      by_cases missing : habits.missingDialog = some part.1
      · exact ⟨fun present => absurd missing (present part List.mem_cons_self),
          fun _ => (stops missing).append _⟩
      · obtain ⟨middle, shown, followed⟩ := goes missing
        have first : Brings habits part.2 focus viewer linksFocus (· = middle) :=
          ⟨middle, rfl, followed⟩
        obtain ⟨passes, fails⟩ := ih (fun part member => needs part (List.mem_cons_of_mem _ member))
          shown linksFocus
        constructor
        · intro present
          obtain ⟨next, goOn⟩ := passes fun part member =>
            present part (List.mem_cons_of_mem _ member)
          exact ⟨next, first.trans fun _ same => same ▸ goOn⟩
        · rintro ⟨lost, member, same⟩
          have among : lost ∈ parts := (List.mem_cons.mp member).resolve_left fun first =>
            missing (first ▸ same)
          exact first.stops fun _ same' => same' ▸ fails ⟨lost, among, same⟩

theorem needs_cancelled (item : String) {title : String}
    (known : command? (.of item Role.menuItem) = some (.showDialog title))
    (offered : ∀ viewer : Viewer, viewer.offers "File" item = true)
    (cancel : ∀ viewer : Viewer, button "Cancel" ∈ viewer.dialogItems title) :
    Needs habits title
      (menuItem "File" item ++ [press "Cancel", Step.focusFrame Document.links]) := by
  intro viewer focus shows
  constructor
  · intro present
    exact (brings_showDialog shows item known (offered viewer) present focus).trans
      fun asking shown => brings_dismissed shown (.inl rfl) (cancel asking) focus
  · intro missing
    exact (brings_missingDialog shows item known (offered viewer) missing focus).stops
      fun _ shown => stops_cancel shown focus

theorem needs_print : Needs habits "Print"
    (menuItem "File" "Print…" ++
      ([Step.focusDialog "Print"] ++ [press "Cancel", Step.focusFrame Document.links])) := by
  intro viewer focus shows
  constructor
  · intro present
    refine (brings_showDialog shows "Print…" rfl rfl present focus).trans fun _ shown => ?_
    refine (brings_focusDialog shown focus).trans fun _ shown => ?_
    exact brings_dismissed shown (.inl rfl) (List.mem_singleton.mpr rfl) _
  · intro missing
    refine (brings_missingDialog shows "Print…" rfl rfl missing focus).stops fun _ shown => ?_
    exact fun rest => follow?_focusDialog_none "Print" shown.opened shown.dialog

theorem needs_properties : Needs habits "Properties"
    (menuItem "File" "Properties" ++
      ([.click "Fonts" Role.pageTab] ++ ([.click "General" Role.pageTab] ++
        ([Step.focusDialog "Properties"] ++
          [press "Close", Step.focusFrame Document.links])))) := by
  have items (viewer : Viewer) :
      Node.leaf "Fonts" Role.pageTab ∈ viewer.dialogItems "Properties" ∧
        Node.leaf "General" Role.pageTab ∈ viewer.dialogItems "Properties" ∧
        button "Close" ∈ viewer.dialogItems "Properties" := by
    simp [dialogItems_properties]
  intro viewer focus shows
  constructor
  · intro present
    refine (brings_showDialog shows "Properties" rfl rfl present focus).trans fun after shown => ?_
    refine (brings_pageTab shown (items after).1 focus).trans fun after shown => ?_
    refine (brings_pageTab shown (items after).2.1 focus).trans fun after shown => ?_
    refine (brings_focusDialog shown focus).trans fun after shown => ?_
    exact brings_dismissed shown (.inr rfl) (items after).2.2 _
  · intro missing
    refine (brings_missingDialog shows "Properties" rfl rfl missing focus).stops fun _ shown => ?_
    exact (stops_pageTab shown "Fonts" focus).append _

/-- The parts of the walk through the File menu, with the dialogs that they need. -/
def fileParts : List (String × List Step) :=
  [("Open Document",
      menuItem "File" "Open…" ++ [press "Cancel", Step.focusFrame Document.links]),
    ("Save a Copy",
      menuItem "File" "Save a Copy…" ++ [press "Cancel", Step.focusFrame Document.links]),
    ("Print",
      menuItem "File" "Print…" ++
        [Step.focusDialog "Print", press "Cancel", Step.focusFrame Document.links]),
    ("Properties",
      menuItem "File" "Properties" ++
        [.click "Fonts" Role.pageTab, .click "General" Role.pageTab, Step.focusDialog "Properties",
          press "Close", Step.focusFrame Document.links])]

theorem script_fileMenu (app : String) :
    fileMenu.script app = fileParts.flatMap (·.2) ++ menuItem "File" "Close All Windows" :=
  rfl

theorem needs_fileParts : ∀ part ∈ fileParts, Needs habits part.1 part.2 := by
  intro part member
  simp only [fileParts, List.mem_cons, List.not_mem_nil, or_false] at member
  rcases member with rfl | rfl | rfl | rfl
  · exact needs_cancelled "Open…" rfl (fun _ => rfl) fun _ => .tail _ (.head _)
  · exact needs_cancelled "Save a Copy…" rfl (fun _ => rfl) fun _ => .head _
  · exact needs_print
  · exact needs_properties

theorem fileMenu_passes (present : ∀ part ∈ fileParts, habits.missingDialog ≠ some part.1)
    (app : String) : EndsClosed [] (fileMenu.rehearse habits app) := by
  obtain ⟨next, brings⟩ := (needs_parts needs_fileParts (showsLinks_launched app) .none).1 present
  rw [Scenario.rehearse, script_fileMenu]
  exact .of_brings brings fun _ shown =>
    ⟨_, follow?_quit shown.opened "Close All Windows" rfl rfl, rfl⟩

theorem fileMenu_stops (missing : ∃ part ∈ fileParts, habits.missingDialog = some part.1)
    (app : String) : fileMenu.rehearse habits app = none := by
  rw [Scenario.rehearse, script_fileMenu]
  exact (needs_parts needs_fileParts (showsLinks_launched app) .none).2 missing _

end Catalogue

end Rehearsal
