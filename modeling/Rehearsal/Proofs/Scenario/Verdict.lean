import Rehearsal.Proofs.Procedure.Sighting
import Rehearsal.Proofs.Scenario.FailStop
import Rehearsal.Proofs.Tree.Search
/-!
# What a passed scenario has seen

A scenario passes on no backend without having been shown what it is about: the document after every
reload, the dialog after a wrong password and its absence after the right one, the label in its
proper case once the entry has been left.
-/

set_option autoImplicit false

namespace Rehearsal

variable {σ : Type}

def Forest.Holds (forest : Forest) (name role : String) : Prop :=
  ∃ node ∈ Forest.preorder forest, node.name = some name ∧ node.role = some role

theorem Forest.isSome_locate?_anywhere_iff {forest : Forest} {name role : String}
    (plain : NamePattern.hasWildcard name.toList = false) :
    (forest.locate? (.anywhere (.of name role))).isSome = true ↔ forest.Holds name role := by
  rw [locate?_anywhere, isSome_search?_iff]
  simp only [Selector.accepts_of_plain_iff plain, Holds]

namespace Step

variable {focus : Focus} {rest : List Step} {window : Window} {texts : List String}
  {log : List Exchange}

theorem Story.sees_window (story : Story focus (.focusWindow window :: rest) (.ok texts) log)
    (plain : NamePattern.hasWildcard window.name.toList = false) :
    ∃ forest ∈ seenNext log, forest.Holds window.name window.kind.role := by
  obtain ⟨yield, looks, later, read, blind, sees, -, rfl, -⟩ := story.sees rfl
  obtain ⟨forest, member, there⟩ := LastShows.mem_seenNext sees blind
  refine ⟨forest, ?_, (Forest.isSome_locate?_anywhere_iff plain).mp there⟩
  rw [seenNext_append blind]
  exact List.mem_append_left _ member

theorem Story.sees_closed {next : Window}
    (story : Story focus (.waitForClosed window :: .focusWindow next :: rest) (.ok texts) log)
    (plain : NamePattern.hasWildcard window.name.toList = false)
    (plainNext : NamePattern.hasWildcard next.name.toList = false) :
    ∃ without titled, [without, titled].Sublist (seenNext log) ∧
      ¬ without.Holds window.name window.kind.role ∧ titled.Holds next.name next.kind.role := by
  obtain ⟨yield, looks, later, read, blind, sees, goOn, rfl, -⟩ := story.sees rfl
  obtain ⟨without, earlier, gone⟩ := LastShows.mem_seenNext sees blind
  obtain ⟨titled, afterwards, there⟩ := goOn.sees_window plainNext
  refine ⟨without, titled, ?_, ?_, there⟩
  · rw [seenNext_append blind]
    exact (List.singleton_sublist.mpr earlier).append (List.singleton_sublist.mpr afterwards)
  · intro holds
    have found := (Forest.isSome_locate?_anywhere_iff plain).mpr holds
    rw [← Window.selector, gone] at found
    cases found

end Step

namespace Catalogue

variable {scenario : Scenario} {procedure : Procedure σ}

theorem story_of_passed (passed : (scenario.run procedure).1 = .ok ()) :
    ∃ texts, scenario.verdict texts = none ∧
      Step.Story procedure.focus (scenario.script procedure.app) (.ok texts)
        (scenario.log procedure) := by
  obtain ⟨-, read, judged, story⟩ := scenario.run_logged procedure
  obtain ⟨texts, rfl, approved⟩ := Scenario.judge_eq_ok (judged.symm.trans passed)
  exact ⟨texts, approved, story⟩

theorem reload_sees (passed : (reload.run procedure).1 = .ok ()) :
    (Step.given (reload.log procedure)).count (.click (.of "Reload" Role.menuItem)) = 5 ∧
    Step.ShownAfter [.click (.of "Reload" Role.menuItem)] (reload.log procedure) fun shown =>
      ∃ forest ∈ shown, forest.Holds Document.links Role.frame := by
  obtain ⟨texts, -, story⟩ := story_of_passed passed
  have orders : Step.orders procedure.focus (reload.script procedure.app) = reload.orders := rfl
  constructor
  · rw [(story.complete rfl).1, orders]
    decide
  · refine story.shownAfter_of_next [.focusWindow (.frame Document.links)] ?_ ?_ ?_
    · rw [orders]
      decide
    · change ∀ place ∈ Step.places [] .none (reload.script ""), _
      decide
    · intro focus rest texts log goOn
      exact goOn.sees_window rfl

theorem encryptedFile_sees (passed : (encryptedFile.run procedure).1 = .ok ()) :
    Step.ShownAfter [.typeText "wrong password", .click (.of "Unlock Document" Role.pushButton)]
      (encryptedFile.log procedure) (fun shown =>
        ∃ forest ∈ shown, forest.Holds "Enter password" Role.dialog) ∧
    Step.ShownAfter [.typeText "Foo", .click (.of "Unlock Document" Role.pushButton)]
      (encryptedFile.log procedure) (fun shown =>
        ∃ without titled, [without, titled].Sublist shown ∧
          ¬ without.Holds "Enter password" Role.dialog ∧
          titled.Holds "test-encrypt.pdf — Dokument1" Role.frame) := by
  obtain ⟨texts, -, story⟩ := story_of_passed passed
  have orders : Step.orders procedure.focus (encryptedFile.script procedure.app) =
    encryptedFile.orders := rfl
  constructor
  · refine story.shownAfter_of_next [.focusWindow (.dialog "Enter password")] ?_ ?_ ?_
    · rw [orders]
      decide
    · change ∀ place ∈ Step.places [] .none (encryptedFile.script ""), _
      decide
    · intro focus rest texts log goOn
      exact goOn.sees_window rfl
  · refine story.shownAfter_of_next [.waitForClosed (.dialog "Enter password"),
      .focusWindow (.frame Document.unlockedTitle)] ?_ ?_ ?_
    · rw [orders]
      decide
    · change ∀ place ∈ Step.places [] .none (encryptedFile.script ""), _
      decide
    · intro focus rest texts log goOn
      exact goOn.sees_closed rfl rfl

theorem fileReloading_sees (passed : (fileReloading.run procedure).1 = .ok ()) :
    Step.ShownAfter [.activate (.named "page-label-entry")] (fileReloading.log procedure)
      fun shown => ∃ forest ∈ shown,
        ∃ locator ∈ procedure.focus.candidates (.named "page-label-entry"), ∃ node,
          forest.locate? locator = some node ∧ node.name = some "page-label-entry" ∧
          node.text = some "III" := by
  obtain ⟨texts, approved, story⟩ := story_of_passed passed
  have orders : Step.orders procedure.focus (fileReloading.script procedure.app) =
    fileReloading.orders := rfl
  refine story.shownAfter (by rw [orders]; decide) ?_
  intro place member ends read after suffix goOn
  have there : place.rest = .widgetText :: closeWindow ∧
      place.focus = ⟨procedure.focus.window, some (.named "page-label-entry")⟩ := by
    simp only [fileReloading, closeWindow, menuItem, List.cons_append, List.nil_append, Step.places,
      Step.order?, Step.refocus, Option.map_some, List.mem_cons, List.not_mem_nil,
      or_false] at member
    rcases member with rfl | rfl | rfl | rfl <;> dsimp only at ends
    · exact absurd ends (by decide)
    · exact ⟨rfl, rfl⟩
    · exact absurd ends (by decide)
    · exact absurd ends (by decide)
  rw [there.1, there.2] at goOn
  -- The script reads one label, so the one that is read here is the one that the verdict is about.
  have only : read.length = texts.length := goOn.length_texts.trans story.length_texts.symm
  obtain rfl := suffix.eq_of_length only
  obtain ⟨yield, looks, later, rest, blind, ⟨selector, focused, sees⟩, -, rfl, rfl⟩ := goOn.sees rfl
  obtain ⟨forest, shown, locator, candidate, node, located, rfl⟩ := sees.mem_seenNext blind
  cases focused
  obtain ⟨-, accepted⟩ := Forest.of_locate?_eq_some located
  rw [Procedure.selector_of_mem_candidates candidate, Selector.accepts_named_iff] at accepted
  obtain ⟨own, named, fits⟩ := accepted
  obtain rfl := (NamePattern.accepts_iff_eq rfl own).mp fits
  refine ⟨forest, ?_, locator, candidate, node, located, named, ?_⟩
  · rw [seenNext_append blind]
    exact List.mem_append_left _ shown
  · have proper : node.text.getD "" = properLabel := by
      by_cases proper : node.text.getD "" = properLabel
      · exact proper
      · simp [fileReloading, Yield.texts, proper] at approved
    cases read : node.text with
    | none => simp [read, properLabel] at proper
    | some text => simpa [read, properLabel] using proper

/-- On whatever backend, three of the scenarios pass only on what has been shown to them between
their inputs: the document after each of five reloads; the dialog after a wrong password, and after
the right one first its absence and then the title of the open document; the proper label after the
entry has been left. -/
theorem passes_only_on_sight (procedure : Procedure σ) :
    ((reload.run procedure).1 = .ok () →
      (Step.given (reload.log procedure)).count (.click (.of "Reload" Role.menuItem)) = 5 ∧
      Step.ShownAfter [.click (.of "Reload" Role.menuItem)] (reload.log procedure) fun shown =>
        ∃ forest ∈ shown, forest.Holds "test-links.pdf" Role.frame) ∧
    ((encryptedFile.run procedure).1 = .ok () →
      Step.ShownAfter [.typeText "wrong password", .click (.of "Unlock Document" Role.pushButton)]
        (encryptedFile.log procedure) (fun shown =>
          ∃ forest ∈ shown, forest.Holds "Enter password" Role.dialog) ∧
      Step.ShownAfter [.typeText "Foo", .click (.of "Unlock Document" Role.pushButton)]
        (encryptedFile.log procedure) (fun shown =>
          ∃ without titled, [without, titled].Sublist shown ∧
            ¬ without.Holds "Enter password" Role.dialog ∧
            titled.Holds "test-encrypt.pdf — Dokument1" Role.frame)) ∧
    ((fileReloading.run procedure).1 = .ok () →
      Step.ShownAfter [.activate (.named "page-label-entry")] (fileReloading.log procedure)
        fun shown => ∃ forest ∈ shown,
          ∃ locator ∈ procedure.focus.candidates (.named "page-label-entry"), ∃ node,
            forest.locate? locator = some node ∧ node.name = some "page-label-entry" ∧
            node.text = some "III") :=
  ⟨reload_sees, encryptedFile_sees, fileReloading_sees⟩

/-- A stage that shows everything at once, with a label that turns proper and a dialog that is gone
at the dump after the right password. -/
def obliging : Procedure Stage :=
  let frame (name : String) : Node := Node.leaf name Role.frame
  let unlock : Node := Node.leaf "Unlock Document" Role.pushButton
  let items : List Node := ["Close", "Reload"].map fun item => Node.leaf item Role.menuItem
  let windows : Forest :=
    [Node.of (Document.lockedTitle Document.encrypted) Role.frame [unlock],
      frame Document.unlockedTitle, frame Document.links,
      Node.of "File" Role.menu items, Node.leaf "View" Role.menu,
      Node.bearing "page-label-entry" Role.text "1",
      Node.of "Enter password" Role.dialog [unlock, Node.leaf "Cancel" Role.pushButton]]
  .start Stage.backend "viewer" rehearsalPatience ⟨fun _ => ⟨[]⟩, fun _ => default⟩
    ⟨{ Stage.bare windows with
        cues := [(8, .effects [.remove "Enter password"])]
        rules := [⟨"activate", none, [.setText "page-label-entry" properLabel]⟩] }, 0⟩

theorem passes_only_on_sight_obliging :
    (reload.run obliging).1 = .ok () ∧ (encryptedFile.run obliging).1 = .ok () ∧
    (fileReloading.run obliging).1 = .ok () ∧
    Step.ShownAfter [.typeText "wrong password", .click (.of "Unlock Document" Role.pushButton)]
      (encryptedFile.log obliging) fun shown =>
        ∃ forest ∈ shown, forest.Holds "Enter password" Role.dialog := by
  have unlocked : (encryptedFile.run obliging).1 = .ok () := rfl
  exact ⟨rfl, unlocked, rfl, ((passes_only_on_sight obliging).2.1 unlocked).1⟩

end Catalogue

end Rehearsal
