import Rehearsal.Backend.Viewer
import Rehearsal.Proofs.Procedure.Sighting
import Rehearsal.Proofs.Procedure.Standing
import Rehearsal.Proofs.Tree.Search
import Rehearsal.Scenario.Catalogue
/-!
# Following a script on a viewer

A viewer answers at once and stands still between inputs, so what a script comes to on it can be
worked out without clock, patience or trail: every step either goes through, and leaves the viewer
as its input makes it, or fails. A run comes to the same.
-/

set_option autoImplicit false

namespace Rehearsal

variable {α β : Type}

theorem Forest.firstOf_singleton (forest : Forest) (locator : Locator) :
    forest.firstOf [locator] = (forest.locate? locator).map fun node => (locator, node) := by
  rw [firstOf, List.findSome?_cons]
  cases forest.locate? locator <;> rfl

namespace Viewer

/-- What a step with a focus finds for a selector. -/
def seek? (viewer : Viewer) (focus : Focus) (selector : Selector) : Option (Locator × Node) :=
  viewer.tree.firstOf (focus.candidates selector)

/-- The viewer after an input on what is found for a selector. -/
def act? (habits : Habits) (viewer : Viewer) (focus : Focus) (selector : Selector)
    (input : Locator → Input) : Option Viewer :=
  (viewer.seek? focus selector).map fun found => viewer.take habits (input found.1)

def readText? (viewer : Viewer) (focus : Focus) : Option String :=
  focus.widget.bind fun selector =>
    (viewer.seek? focus selector).map fun found => found.2.text.getD ""

def quietly (after : Option Viewer) : Option (Yield × Viewer) :=
  after.map fun viewer => (.nothing, viewer)

/-- What a step comes to on a viewer: what it yields and the viewer after it; none if it fails. -/
def carryOut? (habits : Habits) (viewer : Viewer) (focus : Focus) : Step → Option (Yield × Viewer)
  | .click name role => quietly (viewer.act? habits focus (.of name role) .click)
  | .focusWindow window =>
    quietly ((viewer.tree.locate? (.anywhere window.selector)).map fun _ => viewer)
  | .focusWidget name => quietly ((viewer.seek? focus (.named name)).map fun _ => viewer)
  | .widgetText => (viewer.readText? focus).map fun text => (.text text, viewer)
  | .setWidgetText text =>
    quietly (focus.widget.bind fun selector => viewer.act? habits focus selector (.setText · text))
  | .activate =>
    quietly (focus.widget.bind fun selector => viewer.act? habits focus selector .activate)
  | .assertWidgetText expected =>
    quietly (if viewer.readText? focus = some expected then some viewer else none)
  | .typeText text => quietly (some (viewer.take habits (.typeText text)))
  | .keyCombo combo => quietly (some (viewer.take habits (.keyCombo combo)))
  | .waitForNot name role =>
    quietly
      (if (viewer.tree.locate? (focus.locator (.of name role))).isSome then none else some viewer)
  | .waitForClosed window =>
    quietly
      (if (viewer.tree.locate? (.anywhere window.selector)).isSome then none else some viewer)
  | .waitFor selector =>
    (viewer.seek? focus selector).map fun found => (.found found.1 found.2, viewer)
  | .recordLaunch _ _ _ => quietly (some viewer)

/-- What a script comes to on a viewer: the texts that it reads and the viewer after it. -/
def follow? (habits : Habits) : List Step → Focus → Viewer → Option (List String × Viewer)
  | [], _, viewer => some ([], viewer)
  | step :: rest, focus, viewer =>
    match viewer.carryOut? habits focus step with
    | none => none
    | some (yield, after) =>
      (follow? habits rest (step.refocus focus) after).map fun ended =>
        (yield.texts ++ ended.1, ended.2)

end Viewer

namespace Procedure

open Viewer

variable {habits : Habits} {viewer : Viewer}

/-- Whether a procedure drives a viewer of some habits. -/
def Drives (procedure : Procedure Viewer) (habits : Habits) (viewer : Viewer) : Prop :=
  procedure.backend = Viewer.backend habits ∧ procedure.scene.state = viewer

/-- How an outcome of a procedure goes with what a step comes to on its viewer. -/
inductive Settles (habits : Habits) : Outgo Viewer α → Option (α × Viewer) → Prop where
  | failed {error : RunError} {after : Procedure Viewer} : Settles habits (.error error, after) none
  | succeeded {value : α} {after : Procedure Viewer} {viewer : Viewer}
      (drives : after.Drives habits viewer) :
      Settles habits (.ok value, after) (some (value, viewer))

def SettlesQuietly (habits : Habits) (outgo : Outgo Viewer Unit) (expected : Option Viewer) :
    Prop :=
  Settles habits outgo (expected.map fun after => ((), after))

theorem Drives.faces {procedure : Procedure Viewer} (drives : procedure.Drives habits viewer) :
    procedure.Faces viewer.tree := by
  obtain ⟨backend, state⟩ := drives
  rw [Faces, backend, state]
  exact fun _ => rfl

theorem settles_yielding {outgo : Outgo Viewer α} {expected : Option (α × Viewer)}
    (settles : Settles habits outgo expected) (yield : α → Yield) :
    Settles habits (Step.yielding yield outgo)
      (expected.map fun ended => (yield ended.1, ended.2)) := by
  cases settles with
  | failed => exact .failed
  | succeeded drives => exact .succeeded drives

theorem settles_quietly {outgo : Outgo Viewer Unit} {expected : Option Viewer}
    (settles : SettlesQuietly habits outgo expected) (action : Action) (begun : Nat) :
    Settles habits (Step.yielding (fun _ => .nothing) (recorded action begun outgo))
      (quietly expected) := by
  cases expected <;> cases settles
  · exact .failed
  · exact .succeeded ‹_›

variable {procedure : Procedure Viewer}

theorem settles_waitForAny (drives : procedure.Drives habits viewer) (first : Locator)
    (others : List Locator) :
    Settles habits (procedure.waitForAny first others)
      ((viewer.tree.firstOf (first :: others)).map fun found => (found, viewer)) := by
  have waited := procedure.waitForAny_of_faces drives.faces first others
  cases found : viewer.tree.firstOf (first :: others) with
  | none =>
      rw [found] at waited
      obtain ⟨error, after, failed⟩ := waited
      exact failed ▸ .failed
  | some value =>
      rw [found] at waited
      exact waited ▸ .succeeded drives

theorem settles_waitFor (drives : procedure.Drives habits viewer) (selector : Selector) :
    Settles habits (procedure.waitFor selector)
      ((viewer.seek? procedure.focus selector).map fun found => (found, viewer)) := by
  rw [waitFor, seek?, ← Focus.locator_cons_fallbacks]
  exact settles_waitForAny drives _ _

theorem settles_waitUntilGone (drives : procedure.Drives habits viewer) (locator : Locator) :
    SettlesQuietly habits (procedure.waitUntilGone locator)
      (if (viewer.tree.locate? locator).isSome then none else some viewer) := by
  have waited := procedure.waitUntilGone_of_faces drives.faces locator
  cases there : (viewer.tree.locate? locator).isSome with
  | true =>
      rw [there] at waited
      obtain ⟨error, after, failed⟩ := waited
      exact failed ▸ .failed
  | false =>
      rw [there] at waited
      exact waited ▸ .succeeded drives

theorem settles_send (drives : procedure.Drives habits viewer) {input : Input}
    (there : ∀ target, input.target? = some target → (viewer.tree.locate? target).isSome = true) :
    SettlesQuietly habits (procedure.send input) (some (viewer.take habits input)) := by
  obtain ⟨backend, rfl⟩ := drives
  have carried : procedure.scene.state.perform habits input =
      (.ok (), procedure.scene.state.take habits input) := by
    rw [perform]
    cases aimed : input.target? with
    | none => rfl
    | some target =>
        dsimp only
        rw [if_pos (there target aimed)]
  rw [send, ask, Scene.await, backend]
  simp only [Viewer.backend, carried, Reply.now]
  exact .succeeded ⟨backend, rfl⟩

theorem settles_actOn (drives : procedure.Drives habits viewer) (selector : Selector)
    {input : Locator → Input} (targets : ∀ locator, (input locator).target? = some locator) :
    SettlesQuietly habits (procedure.actOn selector input)
      (viewer.act? habits procedure.focus selector input) := by
  have waited := settles_waitFor drives selector
  rw [actOn, act?]
  generalize procedure.waitFor selector = outgo at waited ⊢
  cases found : viewer.seek? procedure.focus selector <;> rw [found] at waited <;> cases waited
  · exact .failed
  · refine settles_send ‹_› fun target aimed => ?_
    obtain rfl := Option.some.inj ((targets _).symm.trans aimed)
    rw [(Forest.of_firstOf_eq_some found).2]
    rfl

theorem settles_actOnFocus (drives : procedure.Drives habits viewer)
    {input : Locator → Input} (targets : ∀ locator, (input locator).target? = some locator) :
    SettlesQuietly habits (procedure.actOnFocus input)
      (procedure.focus.widget.bind fun selector =>
        viewer.act? habits procedure.focus selector input) := by
  rw [actOnFocus]
  cases procedure.focus.widget with
  | none => exact .failed
  | some selector => exact settles_actOn drives selector targets

theorem settles_widgetText (drives : procedure.Drives habits viewer) :
    Settles habits procedure.widgetText
      ((viewer.readText? procedure.focus).map fun text => (text, viewer)) := by
  rw [widgetText, readText?]
  cases procedure.focus.widget with
  | none => exact .failed
  | some selector =>
      have waited := settles_waitFor drives selector
      dsimp only [Option.bind_some]
      generalize procedure.waitFor selector = outgo at waited ⊢
      cases found : viewer.seek? procedure.focus selector with
      | none =>
          rw [found] at waited
          cases waited
          exact .failed
      | some value =>
          rw [found] at waited
          cases waited with
          | succeeded drives =>
              have read := Polling.find_of_stands drives.faces value.1
              rw [(Forest.of_firstOf_eq_some found).2] at read
              dsimp only
              rw [Backend.textOf, read]
              exact .succeeded drives

theorem settles_run (drives : procedure.Drives habits viewer) (step : Step) :
    Settles habits (step.run procedure) (viewer.carryOut? habits procedure.focus step) := by
  cases step with
  | click name role =>
      exact settles_quietly (settles_actOn drives (.of name role) fun _ => rfl) _ _
  | focusWindow window =>
      have waited := settles_waitForAny drives (.anywhere window.selector) []
      rw [Forest.firstOf_singleton, Option.map_map] at waited
      refine settles_quietly ?_ _ _
      generalize procedure.waitForAny (.anywhere window.selector) [] = outgo at waited ⊢
      cases found : viewer.tree.locate? (.anywhere window.selector) <;> rw [found] at waited <;>
        cases waited
      · exact .failed
      · exact .succeeded ‹_›
  | focusWidget name =>
      have waited := settles_waitFor drives (.named name)
      refine settles_quietly ?_ _ _
      generalize procedure.waitFor (.named name) = outgo at waited ⊢
      cases found : viewer.seek? procedure.focus (.named name) <;> rw [found] at waited <;>
        cases waited
      · exact .failed
      · exact .succeeded ‹_›
  | widgetText =>
      have read := settles_yielding (settles_widgetText drives) .text
      rwa [Option.map_map] at read
  | setWidgetText text =>
      exact settles_quietly (settles_actOnFocus drives fun _ => by exact rfl) _ _
  | activate => exact settles_quietly (settles_actOnFocus drives fun _ => rfl) _ _
  | assertWidgetText expected =>
      have read := settles_widgetText drives
      refine settles_quietly ?_ _ _
      generalize procedure.widgetText = outgo at read ⊢
      cases found : viewer.readText? procedure.focus with
      | none =>
          rw [found] at read
          cases read
          exact .failed
      | some text =>
          rw [found] at read
          cases read with
          | succeeded drives =>
              by_cases agrees : text = expected
              · simp only [agrees, if_true]
                exact .succeeded drives
              · simp only [agrees, Option.some.injEq, if_false]
                split <;> exact .failed
  | typeText text => exact settles_quietly (settles_send drives fun _ aimed => by cases aimed) _ _
  | keyCombo combo => exact settles_quietly (settles_send drives fun _ aimed => by cases aimed) _ _
  | waitForNot name role => exact settles_quietly (settles_waitUntilGone drives _) _ _
  | waitForClosed window =>
      have waited := settles_waitUntilGone drives (.anywhere window.selector)
      refine settles_quietly ?_ _ _
      generalize procedure.waitUntilGone (.anywhere window.selector) = outgo at waited ⊢
      cases there : (viewer.tree.locate? (.anywhere window.selector)).isSome with
      | true =>
          rw [there] at waited
          cases waited
          exact .failed
      | false =>
          rw [there] at waited
          cases waited with
          | @succeeded _ after _ drives =>
              dsimp only
              split <;> exact .succeeded drives
  | waitFor selector =>
      have waited := settles_yielding (settles_waitFor drives selector)
        fun found => .found found.1 found.2
      rwa [Option.map_map] at waited
  | recordLaunch file duration outcome => exact .succeeded drives

theorem settles_runAll (drives : procedure.Drives habits viewer) (steps : List Step) :
    Settles habits (Step.runAll steps procedure) (follow? habits steps procedure.focus viewer) := by
  induction steps generalizing procedure viewer with
  | nil => exact .succeeded drives
  | cons step rest ih =>
      have ran := settles_run drives step
      have focus := step.focus_run procedure
      rw [Step.runAll_cons, follow?]
      generalize step.run procedure = outgo at ran focus ⊢
      cases carried : viewer.carryOut? habits procedure.focus step with
      | none =>
          rw [carried] at ran
          cases ran
          exact .failed
      | some ended =>
          rw [carried] at ran
          cases ran with
          | @succeeded yield after next drives =>
              have later := ih drives
              -- The rest is followed with the focus that the step has left.
              have focused : after.focus = step.refocus procedure.focus := focus
              rw [focused] at later
              dsimp only
              generalize Step.runAll rest after = outgo at later ⊢
              cases final : follow? habits rest (step.refocus procedure.focus) next with
              | none =>
                  rw [final] at later
                  cases later
                  cases yield <;> exact .failed
              | some ended =>
                  rw [final] at later
                  cases later with
                  | succeeded drives => cases yield <;> exact .succeeded drives

end Procedure

/-- A scenario that is run on a viewer passes when its script comes to texts that it approves of,
and leaves the viewer as the script does. -/
theorem Scenario.run_on_viewer {habits : Habits} {viewer : Viewer} {procedure : Procedure Viewer}
    (scenario : Scenario) (drives : procedure.Drives habits viewer) :
    match Viewer.follow? habits (scenario.script procedure.app) procedure.focus viewer with
    | none => ∃ error, (scenario.run procedure).1 = .error error
    | some (texts, after) =>
      (scenario.run procedure).2.scene.state = after ∧
        ((scenario.run procedure).1 = .ok () ↔ scenario.verdict texts = none) := by
  have ran := Procedure.settles_runAll drives (scenario.script procedure.app)
  rw [Scenario.run]
  generalize Step.runAll (scenario.script procedure.app) procedure = outgo at ran ⊢
  cases followed : Viewer.follow? habits (scenario.script procedure.app) procedure.focus viewer with
  | none =>
      rw [followed] at ran
      cases ran
      exact ⟨_, rfl⟩
  | some ended =>
      rw [followed] at ran
      cases ran with
      | @succeeded texts after viewer drives =>
          dsimp only
          cases scenario.verdict texts with
          | none => simp [drives.2]
          | some error => simp [drives.2]

end Rehearsal
