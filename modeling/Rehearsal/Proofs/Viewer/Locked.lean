import Rehearsal.Proofs.Viewer.Operations
import Rehearsal.Proofs.Viewer.Widgets
/-!
# What a locked viewer shows

Only a viewer that was launched with the encrypted document is ever locked. The lock is not lifted
when that document goes away, be it that another one is opened from the chooser or that reloading
drops it: the viewer then asks for the password of a document that has none.
-/

set_option autoImplicit false

namespace Rehearsal

/-- Whether an input puts another document, or none, in the place of the one that is shown: by
confirming the chooser, or by reloading on a viewer that drops the document then. -/
def Input.replaces (habits : Habits) : Input → Bool
  | .click target =>
    target.selector = .of "Open" Role.pushButton ||
      target.selector = .of "Reload" Role.menuItem && habits.dropsOnReload
  | _ => false

namespace Viewer

variable {habits : Habits} {viewer : Viewer} {input : Input}

def replacesDocument (habits : Habits) : Command → Bool
  | .openSelected => true
  | .reload => habits.dropsOnReload
  | _ => false

theorem replaces_click_iff {target : Locator} :
    Input.replaces habits (.click target) = true ↔
      ∃ command, command? target.selector = some command ∧
        replacesDocument habits command = true := by
  simp only [Input.replaces, Bool.or_eq_true, decide_eq_true_eq, Bool.and_eq_true]
  constructor
  · rintro (confirms | ⟨reloads, drops⟩)
    · exact ⟨.openSelected, by rw [confirms]; rfl, rfl⟩
    · exact ⟨.reload, by rw [reloads]; rfl, drops⟩
  · rintro ⟨command, known, replaces⟩
    obtain ⟨window, name, role⟩ := target
    rcases of_command? known with ⟨rfl, listed⟩ | ⟨-, rfl⟩ | ⟨rfl, listed⟩ | ⟨-, rfl⟩
    · cases command with
      | reload => exact .inr ⟨by simpa [menuCommands, Selector.of] using listed, replaces⟩
      | openSelected => simp [menuCommands] at listed
      | _ => cases replaces
    · cases replaces
    · cases command with
      | openSelected => exact .inl (by simpa [buttonCommands, Selector.of] using listed)
      | reload => simp [buttonCommands] at listed
      | _ => cases replaces
    · cases replaces

/-! ## What a command does to the document -/

theorem document_obey (habits : Habits) (inDialog : Bool) (viewer : Viewer) (command : Command) :
    if replacesDocument habits command then
      (viewer.obey habits inDialog command).document = viewer.selectedFile ∨
        (viewer.obey habits inDialog command).document = none
    else (viewer.obey habits inDialog command).document = viewer.document := by
  by_cases concerns : concernsDialogs command = true
  · obtain ⟨_, _, _, _, _, -, same⟩ := obey_of_concernsDialogs concerns habits inDialog viewer
    rw [same]
    cases command with
    | showDialog | showAbout | closeTop | unlock => rfl
    | _ => cases concerns
  · cases command with
    | showDialog | showAbout | closeTop | unlock => exact absurd rfl concerns
    | openSelected => exact .inl rfl
    | reload =>
        rw [replacesDocument, obey]
        cases habits.dropsOnReload with
        | false => rfl
        | true => exact .inr rfl
    | _ => rfl

theorem selectedFile_obey (habits : Habits) (inDialog : Bool) (viewer : Viewer)
    (command : Command) :
    (viewer.obey habits inDialog command).selectedFile =
      match command with
      | .select file => some file
      | .openSelected => none
      | _ => viewer.selectedFile := by
  by_cases concerns : concernsDialogs command = true
  · obtain ⟨_, _, _, _, _, -, same⟩ := obey_of_concernsDialogs concerns habits inDialog viewer
    rw [same]
    cases command with
    | showDialog | showAbout | closeTop | unlock => rfl
    | _ => cases concerns
  · cases command with
    | showDialog | showAbout | closeTop | unlock => exact absurd rfl concerns
    | _ => rfl

theorem locked_of_obey (habits : Habits) (inDialog : Bool) (viewer : Viewer) (command : Command)
    (locked : (viewer.obey habits inDialog command).locked = true) : viewer.locked = true := by
  by_cases concerns : concernsDialogs command = true
  · obtain ⟨_, _, _, _, _, kept, same⟩ := obey_of_concernsDialogs concerns habits inDialog viewer
    rw [same] at locked
    exact kept locked
  · cases command with
    | showDialog | showAbout | closeTop | unlock => exact absurd rfl concerns
    | _ => exact locked

theorem document_take (habits : Habits) (viewer : Viewer) (input : Input) :
    if input.replaces habits then
      (viewer.take habits input).document = viewer.selectedFile ∨
        (viewer.take habits input).document = none
    else (viewer.take habits input).document = viewer.document := by
  rcases viewer.take_cases habits input with
    ⟨quiet, _, _, _, _, same⟩ | ⟨target, rfl, known, same⟩ | ⟨target, command, rfl, known, same⟩
  · have keeps : input.replaces habits = false := by
      cases input with
      | click => cases quiet
      | _ => rfl
    rw [same, keeps]
    rfl
  · have keeps : Input.replaces habits (.click target) = false := by
      rw [Bool.eq_false_iff, ne_eq, replaces_click_iff, known]
      exact nofun
    rw [same, keeps]
    rfl
  · have follows : Input.replaces habits (.click target) = replacesDocument habits command := by
      rw [Bool.eq_iff_iff, replaces_click_iff, known]
      simp
    rw [same, follows]
    exact document_obey habits _ _ command

theorem selectedFile_take (habits : Habits) (viewer : Viewer) (input : Input) :
    (viewer.take habits input).selectedFile = viewer.selectedFile ∨
      (viewer.take habits input).selectedFile = none ∨
      ∃ target, input = .click target ∧ target.selector.role = some Role.tableCell ∧
        (viewer.take habits input).selectedFile = some target.selector.name := by
  rcases viewer.take_cases habits input with
    ⟨-, _, _, _, _, same⟩ | ⟨target, -, -, same⟩ | ⟨target, command, rfl, known, same⟩
  · exact .inl (same ▸ rfl)
  · exact .inl (same ▸ rfl)
  · rw [same, selectedFile_obey]
    cases command with
    | select file =>
        rcases of_command? known with ⟨-, listed⟩ | ⟨cell, ⟨⟩⟩ | ⟨-, listed⟩ | ⟨-, ⟨⟩⟩
        · simp [menuCommands] at listed
        · exact .inr (.inr ⟨target, rfl, cell, rfl⟩)
        · simp [buttonCommands] at listed
    | openSelected => exact .inr (.inl rfl)
    | _ => exact .inl rfl

theorem locked_of_take (locked : (viewer.take habits input).locked = true) :
    viewer.locked = true := by
  rcases viewer.take_cases habits input with
    ⟨-, _, _, _, _, same⟩ | ⟨target, -, -, same⟩ | ⟨target, command, -, -, same⟩
  · exact (congrArg Viewer.locked same).symm.trans locked
  · exact (congrArg Viewer.locked same).symm.trans locked
  · exact locked_of_obey habits _ (viewer.noting target.selector.name) command (same ▸ locked)

/-! ## The chooser -/

theorem names_tableCell_dialogItems (viewer : Viewer) (title : String) :
    Forest.names Role.tableCell (viewer.dialogItems title) =
      if title = openDialog then [Document.links] else [] := by
  have apart : openDialog ≠ passwordDialog := by decide
  rw [dialogItems]
  split_ifs with password chooser <;> simp_all [button, Role.text, Role.pushButton, Role.tableCell,
    Role.pageTab, Role.toggleButton]

/-- There is but one file to choose, and that one is not encrypted. -/
theorem eq_links_of_mem_names {own : String} (member : own ∈ viewer.tree.names Role.tableCell) :
    own = Document.links := by
  cases closed : viewer.closed with
  | true => simp [tree, closed] at member
  | false =>
      rw [names_tree closed, names_mainWindow, names_menus_of_ne viewer (by decide) (by decide)]
        at member
      cases shown : viewer.dialog with
      | none => simp [shown, Role.frame, Role.text, Role.pushButton, Role.tableCell] at member
      | some title =>
          have listed : own ∈ Forest.names Role.tableCell (viewer.dialogItems title) := by
            simpa [shown, Role.frame, Role.text, Role.pushButton, Role.tableCell, Role.dialog]
              using member
          rw [names_tableCell_dialogItems] at listed
          split at listed
          · exact List.mem_singleton.mp listed
          · cases listed

theorem name_ne_encrypted_of_cell {target : Locator}
    (there : (viewer.tree.locate? target).isSome = true)
    (cell : target.selector.role = some Role.tableCell) :
    target.selector.name ≠ Document.encrypted := by
  obtain ⟨window, name, role⟩ := target
  obtain rfl : role = some Role.tableCell := cell
  obtain ⟨own, member, fits⟩ :=
    Forest.isSome_search?_of_iff.mp (Forest.isSome_search?_of_locate? there)
  rintro rfl
  have plain : NamePattern.hasWildcard Document.encrypted.toList = false := by decide
  rw [NamePattern.accepts_iff_eq plain, eq_links_of_mem_names member] at fits
  revert fits
  decide

/-! ## The course of a viewer -/

/-- Whether a viewer that was launched with some file is locked and shows the encrypted document as
the inputs that it has carried out tell. -/
structure Shows (file : Option String) (done : List Input) (habits : Habits) (viewer : Viewer) :
    Prop where
  selected : viewer.selectedFile ≠ some Document.encrypted
  locked : viewer.locked = true → file = some Document.encrypted
  kept : (∀ input ∈ done, input.replaces habits = false) → viewer.document = file
  replaced : (∃ input ∈ done, input.replaces habits = true) →
    viewer.document ≠ some Document.encrypted

theorem shows_launched (app : String) (file : Option String) (habits : Habits) :
    (launched app file).Shows file [] habits where
  selected := by simp [launched]
  locked := by simp [launched]
  kept := fun _ => rfl
  replaced := by simp

theorem isSome_locate?_of_perform {target : Locator}
    (carried : viewer.perform habits input = (.ok (), viewer.take habits input))
    (aims : input.target? = some target) : (viewer.tree.locate? target).isSome = true := by
  rw [perform, aims] at carried
  dsimp only at carried
  split at carried
  · assumption
  · cases carried

theorem Shows.take {file : Option String} {done : List Input}
    (shows : viewer.Shows file done habits)
    (carried : viewer.perform habits input = (.ok (), viewer.take habits input)) :
    (viewer.take habits input).Shows file (done ++ [input]) habits := by
  have changed := document_take habits viewer input
  constructor
  · rcases selectedFile_take habits viewer input with same | same | ⟨target, rfl, cell, same⟩
    · rw [same]
      exact shows.selected
    · rw [same]
      exact nofun
    · have there := isSome_locate?_of_perform carried rfl
      rw [same, ne_eq, Option.some.injEq]
      exact name_ne_encrypted_of_cell there cell
  · exact fun locked => shows.locked (locked_of_take locked)
  · intro keeps
    rw [keeps input (by simp), if_neg Bool.false_ne_true] at changed
    rw [changed]
    exact shows.kept fun earlier member => keeps earlier (List.mem_append_left _ member)
  · rintro ⟨replacing, member, replaces⟩
    split at changed
    · rcases changed with selected | lost
      · rw [selected]
        exact shows.selected
      · rw [lost]
        exact nofun
    · next keeps =>
        rw [changed]
        refine shows.replaced ⟨replacing, ?_, replaces⟩
        rcases List.mem_append.mp member with earlier | new
        · exact earlier
        · exact absurd (List.mem_singleton.mp new ▸ replaces) keeps

/-- A locked viewer asks for a password whatever it shows, and shows the encrypted document only as
long as none of its inputs has replaced that. -/
theorem locked_shows_encrypted_iff (habits : Habits) (app : String) (file : Option String)
    (clock : Nat) (operations : List Operation) :
    let operated := operate habits ⟨launched app file, clock⟩ operations
    let done := operated.1.filterMap Answered.done?
    let viewer := operated.2.state
    viewer.locked = true →
      file = some "test-encrypt.pdf" ∧
      (viewer.document = some "test-encrypt.pdf" ↔
        ∀ input ∈ done, input.replaces habits = false) ∧
      button "Unlock Document" ∈ viewer.mainWindow.children ∧
      ∀ document, viewer.document = some document →
        viewer.title = s!"{document} — Password Required" := by
  intro operated done viewer locked
  have shows : viewer.Shows file done habits :=
    operate_induction (motive := fun done viewer => viewer.Shows file done habits)
      (fun _ _ _ shows carried => shows.take carried) (shows_launched app file habits) operations
  refine ⟨shows.locked locked, ⟨fun same input member => ?_, fun keeps => ?_⟩, ?_, ?_⟩
  · rw [Bool.eq_false_iff]
    exact fun replaces => shows.replaced ⟨input, member, replaces⟩ same
  · rw [shows.kept keeps, shows.locked locked]
    rfl
  · simp [mainWindow, Node.of, locked]
  · intro document same
    rw [title, same, locked]
    rfl

/-- The document with links is opened from the chooser, over the question for the password. -/
def openedOver : List Operation :=
  [("File", Role.menu), ("Open…", Role.menuItem), (Document.links, Role.tableCell),
    ("Open", Role.pushButton)].map fun widget =>
      .perform "atril" (.click (.anywhere (.of widget.1 widget.2)))

theorem locked_shows_encrypted_opened_over :
    let viewer := (operate .good ⟨launched "atril" (some "test-encrypt.pdf"), 0⟩ openedOver).2.state
    viewer.locked = true ∧ viewer.document = some "test-links.pdf" ∧
      viewer.title = "test-links.pdf — Password Required" ∧
      button "Unlock Document" ∈ viewer.mainWindow.children := by
  intro viewer
  have locked : viewer.locked = true := rfl
  obtain ⟨-, -, button, titled⟩ := locked_shows_encrypted_iff .good "atril"
    (some "test-encrypt.pdf") 0 openedOver locked
  exact ⟨locked, rfl, titled "test-links.pdf" rfl, button⟩

end Viewer

end Rehearsal
