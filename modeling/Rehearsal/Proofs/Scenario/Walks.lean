import Rehearsal.Proofs.Viewer.Moves
/-!
# Walks through the document with links

Two scenarios open the document with links, try the items of a menu and close the window again. They
come to their end on every viewer that is open and not locked, whatever it shows by then, and leave
nothing behind but the document and, of one of the menus, the page.
-/

set_option autoImplicit false

namespace Rehearsal.Catalogue

open Viewer

variable {habits : Habits} {viewer : Viewer} {focus : Focus}

/-- The viewer after a walk through the document with links: closed, at some page and with some
clicks, and otherwise as it was before. -/
def walked (viewer : Viewer) (page : Nat) (clicks : List String) : Viewer :=
  { viewer with
    document := some "test-links.pdf"
    dialog := none
    selectedFile := none
    page := page
    closed := true
    clicks := clicks }

theorem choose_zoom_back (habits : Habits) (viewer : Viewer) :
    (viewer.choose habits "View" "Zoom In").choose habits "View" "Zoom Out" =
      { viewer with
        clicks := viewer.clicks ++ ["View"] ++ ["Zoom In"] ++ ["View"] ++ ["Zoom Out"] } := by
  have same : viewer.zoom + 1 - 1 = viewer.zoom := Int.add_sub_cancel viewer.zoom 1
  change { viewer with zoom := viewer.zoom + 1 - 1, clicks := _ } = _
  rw [same]
  rfl

section

variable (present : habits.missingDialog ≠ some openDialog) (opened : viewer.closed = false)
  (unlocked : viewer.locked = false)

include present opened unlocked

theorem follow?_openLinks (rest : List Step) :
    follow? habits (openFromChooser Document.links ++ ([Step.focusFrame Document.links] ++ rest))
        focus viewer =
      follow? habits rest ⟨some (.frame Document.links), none⟩
        { viewer with
          document := some Document.links
          selectedFile := none
          dialog := none
          clicks := viewer.clicks ++ ["File"] ++ ["Open…"] ++ [Document.links] ++ ["Open"] } := by
  rw [follow?_openFromChooser opened present, List.singleton_append]
  refine follow?_focusFrame Document.links (by exact opened) ?_
  rw [Viewer.title, unlocked]
  rfl

theorem follow?_zoom (app : String) :
    ∃ clicks, follow? habits (zoom.script app) focus viewer =
      some ([], walked viewer viewer.page clicks) := by
  rw [zoom]
  simp only [List.append_assoc]
  rw [follow?_openLinks present opened unlocked, follow?_menuItem (by exact opened) rfl,
    follow?_menuItem (by exact opened) rfl, choose_zoom_back, closeWindow,
    follow?_quit (by exact opened) "Close" rfl rfl]
  exact ⟨_, rfl⟩

theorem follow?_goMenu (app : String) :
    ∃ clicks, follow? habits (goMenu.script app) focus viewer =
      some ([], walked viewer 1 clicks) := by
  rw [goMenu]
  simp only [List.append_assoc, List.flatMap_cons, List.flatMap_nil, List.nil_append]
  -- The last item of the four goes to the first page from anywhere.
  rw [follow?_openLinks present opened unlocked, follow?_menuItem (by exact opened) rfl,
    follow?_menuItem (by exact opened) rfl, follow?_menuItem (by exact opened) rfl,
    follow?_menuItem (by exact opened) rfl, closeWindow,
    follow?_quit (by exact opened) "Close" rfl rfl]
  exact ⟨_, rfl⟩

end

theorem walks_restore (present : habits.missingDialog ≠ some "Open Document")
    (opened : viewer.closed = false) (unlocked : viewer.locked = false) (app : String)
    (patience : Patience) (marks : Marks) (clock : Nat) :
    let run (scenario : Scenario) :=
      scenario.run (.start (Viewer.backend habits) app patience marks ⟨viewer, clock⟩)
    ((run zoom).1 = .ok () ∧
        ∃ clicks, (run zoom).2.scene.state = walked viewer viewer.page clicks) ∧
      (run goMenu).1 = .ok () ∧
        ∃ clicks, (run goMenu).2.scene.state = walked viewer 1 clicks := by
  intro run
  -- Without a verdict to come, a script that gets to its end is a run that passes.
  have passes {scenario : Scenario} {page : Nat} (silent : scenario.verdict = always)
      (walks : ∃ clicks, follow? habits (scenario.script app) .none viewer =
        some ([], walked viewer page clicks)) :
      (run scenario).1 = .ok () ∧ ∃ clicks, (run scenario).2.scene.state =
        walked viewer page clicks := by
    obtain ⟨clicks, walks⟩ := walks
    have drives : (Procedure.start (Viewer.backend habits) app patience marks
        ⟨viewer, clock⟩).Drives habits viewer := ⟨rfl, rfl⟩
    have ran := scenario.run_on_viewer drives
    rw [Procedure.start, walks] at ran
    exact ⟨ran.2.mpr (congrFun silent []), clicks, ran.1⟩
  exact ⟨passes rfl (follow?_zoom present opened unlocked app),
    passes rfl (follow?_goMenu present opened unlocked app)⟩

/-- A viewer of another document that has been used before: it is on its last page, smaller than at
the start, and asks where to print. -/
def used : Viewer :=
  let item (name : String) : Input := .click (.anywhere (.of name Role.menuItem))
  let items := ["Contents", "Last Page", "Add Bookmark", "Zoom Out", "Print…"]
  ((launched "atril" (some "report*.pdf")).serve .good (items.map item)).2

theorem walks_restore_used :
    Habits.good.missingDialog ≠ some "Open Document" ∧ used.closed = false ∧ used.locked = false ∧
    let walk := zoom.run <|
      .start (Viewer.backend .good) "atril" ⟨20, 100⟩ ⟨fun _ => ⟨[]⟩, fun _ => default⟩ ⟨used, 0⟩
    walk.1 = .ok () ∧ walk.2.scene.state.zoom = -1 ∧ walk.2.scene.state.page = 3 := by
  have present : Habits.good.missingDialog ≠ some "Open Document" := by decide
  have opened : used.closed = false := rfl
  have unlocked : used.locked = false := rfl
  obtain ⟨⟨passes, clicks, left⟩, -⟩ := walks_restore present opened unlocked "atril" ⟨20, 100⟩
    ⟨fun _ => ⟨[]⟩, fun _ => default⟩ 0
  exact ⟨present, opened, unlocked, passes, congrArg Viewer.zoom left, congrArg Viewer.page left⟩

end Rehearsal.Catalogue
