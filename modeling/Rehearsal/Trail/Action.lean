import Rehearsal.Tree.Codec
/-!
# Actions

What a scenario did, as it is recorded: an object that names the kind of action and holds its
arguments.
-/

set_option autoImplicit false

namespace Rehearsal

open Json (Value Doc Decoded Decoder Source Shape Row)
open Text (Shown)

inductive Action where
  /-- The application was started, possibly with a document. -/
  | launch (app : String) (file : Option String)
  | click (name : String) (role : Option String)
  | focusFrame (name : String)
  | focusDialog (name : String)
  | focusWidget (name : String)
  | setText (text : String)
  | activate
  | typeText (text : String)
  | keyCombo (combo : String)
  /-- A widget was waited for to disappear. -/
  | waitForNot (name : String) (role : Option String)
  | assertText (expected : String)
  deriving DecidableEq, Repr

inductive Outcome where
  | success
  | failure (message : String)
  deriving DecidableEq, Repr

namespace Action

def name : Action → String
  | .launch _ _ => "launch"
  | .click _ _ => "click"
  | .focusFrame _ => "focus_frame"
  | .focusDialog _ => "focus_dialog"
  | .focusWidget _ => "focus_widget"
  | .setText _ => "set_text"
  | .activate => "activate"
  | .typeText _ => "type_text"
  | .keyCombo _ => "key_combo"
  | .waitForNot _ _ => "wait_for_not"
  | .assertText _ => "assert_text"

def kind : Action → String
  | .launch _ _ => "Launch"
  | .click _ _ => "Click"
  | .focusFrame _ => "FocusFrame"
  | .focusDialog _ => "FocusDialog"
  | .focusWidget _ => "FocusWidget"
  | .setText _ => "SetText"
  | .activate => "Activate"
  | .typeText _ => "TypeText"
  | .keyCombo _ => "KeyCombo"
  | .waitForNot _ _ => "WaitForNot"
  | .assertText _ => "AssertText"

/-- The members of an action: a text, or a text that may be absent. -/
def members : Action → List (String × (String ⊕ Option String))
  | .launch app file => [("app", .inl app), ("file", .inr file)]
  | .click name role => [("name", .inl name), ("role", .inr role)]
  | .focusFrame name => [("name", .inl name)]
  | .focusDialog name => [("name", .inl name)]
  | .focusWidget name => [("name", .inl name)]
  | .setText text => [("text", .inl text)]
  | .activate => []
  | .typeText text => [("text", .inl text)]
  | .keyCombo combo => [("combo", .inl combo)]
  | .waitForNot name role => [("name", .inl name), ("role", .inr role)]
  | .assertText expected => [("expected", .inl expected)]

def toJson (action : Action) : Value :=
  .object (("type", .string action.kind) ::
    action.members.map fun (label, value) =>
      (label, match value with
        | .inl text => Value.string text
        | .inr text => Value.ofText? text))

def describe (action : Action) : Shown :=
  .record action.kind
    (action.members.map fun (label, value) =>
      (label, match value with
        | .inl text => Shown.text text
        | .inr text => Shown.maybeText text))

structure Parts where
  text : Option String
  extra : Option (Option String)

def textShape (kind label : String) (action : String → Action) : Shape (Option String) Action where
  title := s!"struct variant ActionType::{kind}"
  start := none
  member := fun source found name value =>
    if name = label then Json.once name found Json.text source value
    else do
      source.skip value
      return found
  finish := fun found => (Json.required label found).map action
  row := fun row => do
    let (text, row) ← row.next s!"struct variant ActionType::{kind} with 1 element" Json.text
    return (action text, row)

/-- How an action with a text and one that may be absent is put together. -/
def pairShape (kind label extra : String) (action : String → Option String → Action) :
    Shape Parts Action where
  title := s!"struct variant ActionType::{kind}"
  start := ⟨none, none⟩
  member := fun source parts name value =>
    if name = label then do
      let found ← Json.once name parts.text Json.text source value
      return { parts with text := found }
    else if name = extra then do
      let found ← Json.once name parts.extra (Json.optional Json.text) source value
      return { parts with extra := found }
    else do
      source.skip value
      return parts
  finish := fun parts => do
    let text ← Json.required label parts.text
    return action text parts.extra.join
  row := fun row => do
    let expected := s!"struct variant ActionType::{kind} with 2 elements"
    let (text, row) ← row.next expected Json.text
    let (extra, row) ← row.next expected (Json.optional Json.text)
    return (action text extra, row)

def kinds : List String :=
  ["Launch", "Click", "FocusFrame", "FocusDialog", "FocusWidget", "SetText", "Activate",
    "TypeText", "KeyCombo", "WaitForNot", "AssertText"]

def variant (kind : String) : Decoder Action :=
  match kind with
  | "Launch" => (pairShape kind "app" "file" .launch).decode
  | "Click" => (pairShape kind "name" "role" .click).decode
  | "FocusFrame" => (textShape kind "name" .focusFrame).decode
  | "FocusDialog" => (textShape kind "name" .focusDialog).decode
  | "FocusWidget" => (textShape kind "name" .focusWidget).decode
  | "SetText" => (textShape kind "text" .setText).decode
  | "TypeText" => (textShape kind "text" .typeText).decode
  | "KeyCombo" => (textShape kind "combo" .keyCombo).decode
  | "WaitForNot" => (pairShape kind "name" "role" .waitForNot).decode
  | "AssertText" => (textShape kind "expected" .assertText).decode
  | _ => Json.bareVariant .activate

def decoder : Decoder Action := Json.tagged "ActionType" kinds variant

end Action

namespace Outcome

def isFailure : Outcome → Bool
  | .success => false
  | .failure _ => true

def toJson : Outcome → Value
  | .success => .string "Success"
  | .failure message => .object [("Failure", .string message)]

def describe : Outcome → Shown
  | .success => .word "Success"
  | .failure message => .applied "Failure" (.text message)

def decoder : Decoder Outcome :=
  Json.external ["Success", "Failure"] fun name content => do
    if name = "Success" then
      match content with
      | some (source, value) => Json.unit source value
      | none => pure ()
      return .success
    else
      match content with
      | some (source, value) => return .failure (← Json.text source value)
      | none => throw (.wrongKind .unitVariant "newtype variant")

end Outcome

end Rehearsal
