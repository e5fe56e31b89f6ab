import Rehearsal.Proofs.Viewer.Unlocking
/-!
# What a viewer does when it is operated

Everything that can be asked of a viewer as a backend, in any order. Of all that only the inputs it
carries out change it, so what each such input preserves is preserved whatever is asked.
-/

set_option autoImplicit false

namespace Rehearsal.Viewer

inductive Operation where
  | connected
  | dump (app : String)
  | find (app : String) (locator : Locator)
  | textOf (app : String) (locator : Locator)
  | perform (app : String) (input : Input)
  | screenshot
  deriving DecidableEq, Repr

/-- What an operation without an error is answered by. -/
inductive Gain where
  | connected (connected : Bool)
  | forest (forest : Forest)
  | widget (widget : Option Node)
  | text (text : Option String)
  | done
  | picture (bytes : Bytes)

def Operation.make (habits : Habits) (scene : Scene Viewer) (operation : Operation) :
    Except BackendError Gain × Scene Viewer :=
  let driver := backend habits
  match operation with
  | .connected => (.ok (.connected (driver.connected scene.state)), scene)
  | .dump app => (scene.await (driver.dump app)).map (Except.map .forest) id
  | .find app locator => (driver.find app locator scene).map (Except.map .widget) id
  | .textOf app locator => (driver.textOf app locator scene).map (Except.map .text) id
  | .perform app input =>
    (scene.await (driver.perform app input)).map (Except.map fun _ => .done) id
  | .screenshot => (scene.await driver.screenshot).map (Except.map .picture) id

/-- An operation and how it was answered. -/
structure Answered where
  operation : Operation
  answer : Except BackendError Gain

/-- Asks one operation after the other, and keeps the answers. -/
def operate (habits : Habits) (scene : Scene Viewer) :
    List Operation → List Answered × Scene Viewer
  | [] => ([], scene)
  | operation :: later =>
    let (answer, after) := operation.make habits scene
    let (answers, last) := operate habits after later
    (⟨operation, answer⟩ :: answers, last)

/-- The input that was carried out, if the operation was one and did not fail. -/
def Answered.done? (answered : Answered) : Option Input :=
  match answered.operation, answered.answer with
  | .perform _ input, .ok _ => some input
  | _, _ => none

variable {habits : Habits} {viewer : Viewer} {scene : Scene Viewer}

theorem make_perform (habits : Habits) (scene : Scene Viewer) (app : String) (input : Input) :
    Operation.make habits scene (.perform app input) =
      ((scene.state.perform habits input).1.map fun _ => .done,
        ⟨(scene.state.perform habits input).2, scene.clock⟩) :=
  rfl

/-- Either an input is carried out, or nothing changes. -/
theorem Operation.make_cases (habits : Habits) (scene : Scene Viewer) (operation : Operation) :
    (∃ app input, operation = .perform app input ∧
        scene.state.perform habits input = (.ok (), scene.state.take habits input) ∧
        operation.make habits scene = (.ok .done, ⟨scene.state.take habits input, scene.clock⟩)) ∨
      (operation.make habits scene).2.state = scene.state ∧
        Answered.done? ⟨operation, (operation.make habits scene).1⟩ = none := by
  cases operation with
  | perform app input =>
      rcases perform_cases habits scene.state input with carried | ⟨error, refused⟩
      · refine .inl ⟨app, input, rfl, carried, ?_⟩
        rw [make_perform, carried]
        rfl
      · rw [make_perform, refused]
        exact .inr ⟨rfl, rfl⟩
  | textOf app locator =>
      refine .inr ⟨?_, rfl⟩
      change ((backend habits).textOf app locator scene).2.state = scene.state
      have found : (backend habits).find app locator scene =
          (.ok (scene.state.tree.locate? locator), scene) := rfl
      rw [Backend.textOf, found]
      cases scene.state.tree.locate? locator <;> rfl
  | _ => exact .inr ⟨rfl, rfl⟩

theorem state_of_error {operation : Operation} {error : BackendError}
    (failed : (operation.make habits scene).1 = .error error) :
    (operation.make habits scene).2.state = scene.state := by
  rcases operation.make_cases habits scene with ⟨_, _, _, _, made⟩ | ⟨same, _⟩
  · rw [made] at failed
    cases failed
  · exact same

/-- What carrying out an input preserves, together with the inputs carried out, holds after anything
that was asked. -/
theorem operate_induction {motive : List Input → Viewer → Prop}
    (step : ∀ done viewer input, motive done viewer →
      viewer.perform habits input = (.ok (), viewer.take habits input) →
      motive (done ++ [input]) (viewer.take habits input))
    (start : motive [] scene.state) (operations : List Operation) :
    motive ((operate habits scene operations).1.filterMap Answered.done?)
      (operate habits scene operations).2.state := by
  suffices goesOn : ∀ done scene, motive done scene.state →
      motive (done ++ (operate habits scene operations).1.filterMap Answered.done?)
        (operate habits scene operations).2.state from goesOn [] scene start
  induction operations with
  | nil =>
      intro done scene holds
      simpa [operate] using holds
  | cons operation later ih =>
      intro done scene holds
      rw [operate]
      dsimp only
      rcases operation.make_cases habits scene with ⟨app, input, rfl, carried, made⟩ | ⟨same, idle⟩
      · have next := ih (done ++ [input]) ⟨scene.state.take habits input, scene.clock⟩
          (step done scene.state input holds carried)
        have kept : Answered.done? ⟨.perform app input, .ok .done⟩ = some input := rfl
        rwa [made, List.filterMap_cons_some kept, ← List.singleton_append, ← List.append_assoc]
      · rw [List.filterMap_cons_none idle]
        exact ih done _ (same ▸ holds)

/-! ## Commands -/

/-- Whether a command is about a dialog, a window over the main one or the password. -/
def concernsDialogs : Command → Bool
  | .showDialog _ | .showAbout | .closeTop | .unlock => true
  | _ => false

/-- Such a command leaves the document and what is marked in it alone, and locks nothing. -/
theorem obey_of_concernsDialogs {command : Command} (concerns : concernsDialogs command = true)
    (habits : Habits) (inDialog : Bool) (viewer : Viewer) :
    ∃ dialog preferences locked typed failedUnlocks, (locked = true → viewer.locked = true) ∧
      viewer.obey habits inDialog command =
        { viewer with dialog, preferences, locked, typed, failedUnlocks } := by
  have shows (title : String) : ∃ dialog,
      viewer.showDialog habits title = { viewer with dialog } := by
    rw [showDialog]
    split <;> exact ⟨_, rfl⟩
  cases command with
  | showDialog title =>
      obtain ⟨dialog, shown⟩ := shows title
      exact ⟨dialog, _, _, _, _, id, shown⟩
  | showAbout =>
      obtain ⟨dialog, shown⟩ := shows (Document.aboutTitle viewer.app)
      exact ⟨dialog, _, _, _, _, id, shown⟩
  | closeTop =>
      rw [obey]
      split <;> exact ⟨_, _, _, _, _, id, rfl⟩
  | unlock =>
      rw [obey, unlock]
      cases inDialog with
      | false => exact ⟨_, _, _, _, _, id, rfl⟩
      | true =>
          rw [if_pos rfl, tryPassword]
          split
          · exact ⟨_, _, false, _, _, (absurd · Bool.false_ne_true), rfl⟩
          · exact ⟨_, _, _, _, _, id, rfl⟩
  | _ => cases concerns

/-- The name of the selector that an input clicks by. -/
def clicked? : Input → Option String
  | .click target => some target.selector.name
  | _ => none

def noting (viewer : Viewer) (name : String) : Viewer :=
  { viewer with clicks := viewer.clicks ++ [name] }

/-- A click is noted and may be a command. All else changes no more than the label, what is typed,
the help and whether the viewer is closed. -/
theorem take_cases (habits : Habits) (viewer : Viewer) (input : Input) :
    (clicked? input = none ∧ ∃ pageLabel typed helpOpen closed,
        viewer.take habits input = { viewer with pageLabel, typed, helpOpen, closed }) ∨
      (∃ target, input = .click target ∧ command? target.selector = none ∧
        viewer.take habits input = viewer.noting target.selector.name) ∨
      ∃ target command, input = .click target ∧ command? target.selector = some command ∧
        viewer.take habits input =
          (viewer.noting target.selector.name).obey habits (isInDialog target) command := by
  cases input with
  | click target =>
      rw [take, click]
      cases known : command? target.selector with
      | none => exact .inr (.inl ⟨target, rfl, known, rfl⟩)
      | some command => exact .inr (.inr ⟨target, command, rfl, known, rfl⟩)
  | activate target =>
      rw [take, activate]
      split <;> exact .inl ⟨rfl, _, _, _, _, rfl⟩
  | setText target text =>
      rw [take, setText]
      split <;> exact .inl ⟨rfl, _, _, _, _, rfl⟩
  | typeText text => exact .inl ⟨rfl, _, _, _, _, rfl⟩
  | keyCombo combo =>
      rw [take, press]
      split
      · split <;> exact .inl ⟨rfl, _, _, _, _, rfl⟩
      · exact .inl ⟨rfl, _, _, _, _, rfl⟩

end Rehearsal.Viewer
