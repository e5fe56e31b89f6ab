import Rehearsal.Proofs.Viewer.Operations
import Rehearsal.Proofs.Viewer.Widgets
/-!
# What always holds of a viewer

However a viewer is operated, its page and its bookmarks are pages of a document, its record of
clicks is the clicks that went through, what it shows is told by its state, and it stays closed once
it is.
-/

set_option autoImplicit false

namespace Rehearsal.Viewer

variable {habits : Habits} {viewer after last : Viewer} {scene : Scene Viewer}

/-! ## Pages and clicks -/

/-- Whether a viewer is on a page of a document, and bookmarks are of pages too. -/
structure Paged (viewer : Viewer) : Prop where
  page : 1 ≤ viewer.page ∧ viewer.page ≤ pageCount
  marks : ∀ mark ∈ viewer.bookmarks, ∃ page, (1 ≤ page ∧ page ≤ pageCount) ∧ mark = s!"Page {page}"

theorem paged_launched (app : String) (file : Option String) : (launched app file).Paged where
  page := (by decide : 1 ≤ 1 ∧ 1 ≤ pageCount)
  marks := fun _ member => absurd member List.not_mem_nil

theorem Paged.obey (paged : viewer.Paged) (habits : Habits) (inDialog : Bool) (command : Command) :
    (viewer.obey habits inDialog command).Paged := by
  obtain ⟨⟨low, high⟩, marks⟩ := paged
  have first_le : 1 ≤ 1 ∧ 1 ≤ pageCount := by decide
  have last_le : 1 ≤ pageCount ∧ pageCount ≤ pageCount := by decide
  by_cases concerns : concernsDialogs command = true
  · obtain ⟨_, _, _, _, _, -, same⟩ := obey_of_concernsDialogs concerns habits inDialog viewer
    rw [same]
    exact ⟨⟨low, high⟩, marks⟩
  · cases command with
    | showDialog | showAbout | closeTop | unlock => exact absurd rfl concerns
    | nextPage =>
        have next : 1 ≤ min (viewer.page + 1) pageCount :=
          Nat.le_min.mpr ⟨Nat.le_add_left 1 _, by decide⟩
        exact ⟨⟨next, Nat.min_le_right _ _⟩, marks⟩
    | previousPage =>
        have previous : max (viewer.page - 1) 1 ≤ pageCount :=
          Nat.max_le.mpr ⟨Nat.le_trans (Nat.sub_le _ _) high, by decide⟩
        exact ⟨⟨Nat.le_max_right _ _, previous⟩, marks⟩
    | firstPage => exact ⟨first_le, marks⟩
    | lastPage => exact ⟨last_le, marks⟩
    | addBookmark =>
        refine ⟨⟨low, high⟩, fun mark member => ?_⟩
        rcases List.mem_append.mp member with old | new
        · exact marks mark old
        · exact ⟨viewer.page, ⟨low, high⟩, List.mem_singleton.mp new⟩
    | _ => exact ⟨⟨low, high⟩, marks⟩

theorem clicks_obey (habits : Habits) (inDialog : Bool) (viewer : Viewer) (command : Command) :
    (viewer.obey habits inDialog command).clicks = viewer.clicks := by
  by_cases concerns : concernsDialogs command = true
  · obtain ⟨_, _, _, _, _, -, same⟩ := obey_of_concernsDialogs concerns habits inDialog viewer
    rw [same]
  · cases command with
    | showDialog | showAbout | closeTop | unlock => exact absurd rfl concerns
    | _ => rfl

theorem Paged.take (paged : viewer.Paged) (habits : Habits) (input : Input) :
    (viewer.take habits input).Paged := by
  have noting (name : String) : (viewer.noting name).Paged := ⟨paged.page, paged.marks⟩
  rcases viewer.take_cases habits input with
    ⟨-, _, _, _, _, same⟩ | ⟨target, -, -, same⟩ | ⟨target, command, -, -, same⟩
  · rw [same]
    exact ⟨paged.page, paged.marks⟩
  · rw [same]
    exact noting target.selector.name
  · rw [same]
    exact (noting target.selector.name).obey habits _ command

theorem clicks_take (habits : Habits) (viewer : Viewer) (input : Input) :
    (viewer.take habits input).clicks = viewer.clicks ++ (clicked? input).toList := by
  rcases viewer.take_cases habits input with
    ⟨quiet, _, _, _, _, same⟩ | ⟨target, rfl, -, same⟩ | ⟨target, command, rfl, -, same⟩
  · rw [same, quiet]
    exact (List.append_nil _).symm
  · rw [same]
    rfl
  · rw [same, clicks_obey]
    rfl

/-! ## Windows -/

theorem tree_eq_nil_iff : viewer.tree = [] ↔ viewer.closed = true := by
  rw [tree]
  cases viewer.closed <;> simp

section

variable (opened : viewer.closed = false)

include opened

theorem head?_tree : viewer.tree.head? = some viewer.mainWindow := by
  rw [tree, opened]
  rfl

theorem dialogs_tree :
    (viewer.tree.filter fun window => window.isRole Role.dialog).map (·.name) =
      (viewer.dialog.map some).toList := by
  rw [tree, opened]
  cases viewer.preferences <;> cases viewer.helpOpen <;> cases viewer.dialog <;> rfl

end

/-! ## Closed viewers -/

/-- Whether viewers differ in what is typed and in the help at most. -/
def Idles (viewer after : Viewer) : Prop :=
  after = { viewer with typed := after.typed, helpOpen := after.helpOpen }

theorem Idles.trans (first : viewer.Idles after) (second : after.Idles last) :
    viewer.Idles last := by
  rw [Idles, second, first]

theorem locate?_of_closed (closed : viewer.closed = true) (target : Locator) :
    viewer.tree.locate? target = none := by
  rw [tree_eq_nil_iff.mpr closed, Forest.locate?]
  cases target.window <;> rfl

theorem idles_take (closed : viewer.closed = true) {input : Input} (aimless : input.target? = none)
    (habits : Habits) : viewer.Idles (viewer.take habits input) := by
  cases input with
  | typeText text => rfl
  | keyCombo combo =>
      rw [take, press]
      split
      · split
        · rfl
        · rw [Idles, ← closed]
      · rfl
  | click | activate | setText => cases aimless

theorem perform_of_closed (closed : viewer.closed = true) (habits : Habits) {input : Input}
    {target : Locator} (aims : input.target? = some target) :
    viewer.perform habits input = (.error (.noSuchWidget target), viewer) := by
  rw [perform, aims]
  dsimp only
  rw [locate?_of_closed closed]
  rfl

theorem make_of_closed (closed : scene.state.closed = true) (habits : Habits)
    (operation : Operation) :
    scene.state.Idles (operation.make habits scene).2.state ∧
      ∀ app input target, operation = .perform app input → input.target? = some target →
        (operation.make habits scene).1 = .error (.noSuchWidget target) := by
  have refuses (app : String) {input : Input} {target : Locator}
      (aims : input.target? = some target) :
      (Operation.make habits scene (.perform app input)).1 = .error (.noSuchWidget target) := by
    rw [make_perform, perform_of_closed closed habits aims]
    rfl
  constructor
  · rcases operation.make_cases habits scene with ⟨app, input, rfl, carried, made⟩ | ⟨same, -⟩
    · rw [made]
      refine idles_take closed ?_ habits
      cases aims : input.target? with
      | none => rfl
      | some target => cases carried.symm.trans (perform_of_closed closed habits aims)
    · rw [same]
      rfl
  · intro app input target same aims
    exact same ▸ refuses app aims

theorem operate_of_closed (closed : scene.state.closed = true) (habits : Habits)
    (operations : List Operation) :
    scene.state.Idles (operate habits scene operations).2.state ∧
      ∀ answered ∈ (operate habits scene operations).1, ∀ app input target,
        answered.operation = .perform app input → input.target? = some target →
          answered.answer = .error (.noSuchWidget target) := by
  induction operations generalizing scene with
  | nil => exact ⟨rfl, fun _ member => absurd member List.not_mem_nil⟩
  | cons operation later ih =>
      obtain ⟨idles, refused⟩ := make_of_closed closed habits operation
      have stays : (operation.make habits scene).2.state.closed = true :=
        (congrArg Viewer.closed idles).trans closed
      obtain ⟨idlesOn, refusedOn⟩ := ih stays
      refine ⟨idles.trans idlesOn, fun answered member => ?_⟩
      rcases List.mem_cons.mp member with rfl | among
      · exact refused
      · exact refusedOn answered among

/-! ## The whole of it -/

/-- The name that was clicked by, if the operation was a click that went through. -/
def Answered.clicked? (answered : Answered) : Option String :=
  answered.done?.bind Viewer.clicked?

/-- A viewer that has been operated in any way since it was launched. -/
theorem operate_consistent (habits : Habits) (app : String) (file : Option String) (clock : Nat)
    (operations : List Operation) :
    let operated := operate habits ⟨launched app file, clock⟩ operations
    let viewer := operated.2.state
    (1 ≤ viewer.page ∧ viewer.page ≤ 3) ∧
    (∀ mark ∈ viewer.bookmarks, ∃ page, (1 ≤ page ∧ page ≤ 3) ∧ mark = s!"Page {page}") ∧
    viewer.clicks = operated.1.filterMap Answered.clicked? ∧
    (∀ operation error, (Operation.make habits operated.2 operation).1 = .error error →
      (Operation.make habits operated.2 operation).2.state = viewer) ∧
    (∀ app, (Operation.make habits operated.2 (.dump app)).1 = .ok (.forest viewer.tree)) ∧
    (viewer.tree = [] ↔ viewer.closed = true) ∧
    (viewer.closed = false →
      viewer.tree.head? = some viewer.mainWindow ∧
      viewer.mainWindow.name = some viewer.title ∧ viewer.mainWindow.role = some "frame" ∧
      (viewer.tree.filter fun window => window.isRole "dialog").map (·.name) =
        (viewer.dialog.map some).toList) ∧
    (viewer.closed = true → ∀ later,
      let last := operate habits operated.2 later
      last.2.state =
        { viewer with typed := last.2.state.typed, helpOpen := last.2.state.helpOpen } ∧
      ∀ answered ∈ last.1, ∀ app input target, answered.operation = .perform app input →
        input.target? = some target → answered.answer = .error (.noSuchWidget target)) := by
  intro operated viewer
  have step (done : List Input) (viewer : Viewer) (input : Input)
      (kept : viewer.Paged ∧ viewer.clicks = done.filterMap clicked?)
      (_ : viewer.perform habits input = (.ok (), viewer.take habits input)) :
      (viewer.take habits input).Paged ∧
        (viewer.take habits input).clicks = (done ++ [input]).filterMap clicked? := by
    obtain ⟨paged, noted⟩ := kept
    refine ⟨paged.take habits input, ?_⟩
    rw [clicks_take, noted, List.filterMap_append]
    cases clicks : clicked? input <;> simp [clicks]
  have kept : viewer.Paged ∧
      viewer.clicks = (operated.1.filterMap Answered.done?).filterMap clicked? :=
    operate_induction step ⟨paged_launched app file, rfl⟩ operations
  obtain ⟨paged, noted⟩ := kept
  rw [List.filterMap_filterMap] at noted
  exact ⟨paged.page, paged.marks, noted, fun _ _ failed => state_of_error failed, fun _ => rfl,
    tree_eq_nil_iff, fun opened => ⟨head?_tree opened, rfl, rfl, dialogs_tree opened⟩,
    fun closed later => operate_of_closed closed habits later⟩

end Rehearsal.Viewer
