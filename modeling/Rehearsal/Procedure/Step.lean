import Rehearsal.Procedure.Basic
/-!
# Steps as data

A step of a procedure as a value, so that scripts can be written down and reasoned about, and the
run of a script up to its first failing step.
-/

set_option autoImplicit false

namespace Rehearsal

inductive Step where
  | click (name role : String)
  | focusWindow (window : Window)
  | focusWidget (name : String)
  | widgetText
  | setWidgetText (text : String)
  | activate
  | assertWidgetText (expected : String)
  | typeText (text : String)
  | keyCombo (combo : String)
  | waitForNot (name role : String)
  | waitForClosed (window : Window)
  | waitFor (selector : Selector)
  /-- Notes a launch that was made by others. -/
  | recordLaunch (file : Option String) (duration : Nat) (outcome : Outcome)
  deriving DecidableEq, Repr

inductive Yield where
  | nothing
  | text (text : String)
  | found (locator : Locator) (node : Node)

namespace Step

def focusFrame (name : String) : Step := .focusWindow (.frame name)

def focusDialog (name : String) : Step := .focusWindow (.dialog name)

def yielding {σ α : Type} (yield : α → Yield) (outgo : Outgo σ α) : Outgo σ Yield :=
  (outgo.1.map yield, outgo.2)

def run {σ : Type} (procedure : Procedure σ) : Step → Outgo σ Yield
  | .click name role => yielding (fun _ => .nothing) (procedure.click name role)
  | .focusWindow window => yielding (fun _ => .nothing) (procedure.focusWindow window)
  | .focusWidget name => yielding (fun _ => .nothing) (procedure.focusWidget name)
  | .widgetText => yielding .text procedure.widgetText
  | .setWidgetText text => yielding (fun _ => .nothing) (procedure.setWidgetText text)
  | .activate => yielding (fun _ => .nothing) procedure.activate
  | .assertWidgetText expected =>
    yielding (fun _ => .nothing) (procedure.assertWidgetText expected)
  | .typeText text => yielding (fun _ => .nothing) (procedure.typeText text)
  | .keyCombo combo => yielding (fun _ => .nothing) (procedure.keyCombo combo)
  | .waitForNot name role => yielding (fun _ => .nothing) (procedure.waitForNot name role)
  | .waitForClosed window => yielding (fun _ => .nothing) (procedure.waitForClosed window)
  | .waitFor selector =>
    yielding (fun found => .found found.1 found.2) (procedure.waitFor selector)
  | .recordLaunch file duration outcome =>
    (.ok .nothing, procedure.recordLaunch file duration outcome)

/-- Carries out steps in order, up to the first that fails, and collects the texts that they
read. -/
def runAll {σ : Type} : List Step → Procedure σ → Outgo σ (List String)
  | [], procedure => (.ok [], procedure)
  | step :: rest, procedure =>
    match step.run procedure with
    | (.error error, after) => (.error error, after)
    | (.ok yield, after) =>
      match runAll rest after with
      | (.error error, final) => (.error error, final)
      | (.ok texts, final) =>
        match yield with
        | .text text => (.ok (text :: texts), final)
        | _ => (.ok texts, final)

end Step

end Rehearsal
