import Rehearsal.Procedure.Polling
import Rehearsal.Settings.Basic
import Rehearsal.Text.Shown
import Rehearsal.Trail.Entry
/-!
# Procedures

A procedure drives one application step by step. It has a focus, in which widgets are looked for
first, and a trail, on which every step that acts leaves an entry with its outcome.
-/

set_option autoImplicit false

namespace Rehearsal

structure Focus where
  window : Option Window
  widget : Option Selector
  deriving DecidableEq, Repr

namespace Focus

def none : Focus := ⟨.none, .none⟩

/-- Where a selector is looked for first. -/
def locator (focus : Focus) (selector : Selector) : Locator := ⟨focus.window, selector⟩

/-- Where a selector is looked for next: anywhere, if the first place was a window. -/
def fallbacks (focus : Focus) (selector : Selector) : List Locator :=
  match focus.window with
  | some _ => [.anywhere selector]
  | .none => []

end Focus

/-- What marks the entries of a trail: the identifier of each by its place, and the date and time at
each moment of a run. -/
structure Marks where
  identifier : Nat → Identifier
  time : Nat → Instant

structure Procedure (σ : Type) where
  backend : Backend σ
  app : String
  patience : Patience
  marks : Marks
  focus : Focus
  trail : Trail
  scene : Scene σ

/-- What a step comes to: a result or the error that it fails with, and the procedure after it. -/
abbrev Outgo (σ α : Type) := Except RunError α × Procedure σ

/-- How long widgets are waited for by the settings. -/
def Settings.patience (settings : Settings) : Patience :=
  ⟨settings.searchAttempts, settings.searchBackoff⟩

namespace Procedure

variable {σ α : Type}

def start (backend : Backend σ) (app : String) (patience : Patience) (marks : Marks)
    (scene : Scene σ) : Procedure σ :=
  ⟨backend, app, patience, marks, .none, [], scene⟩

/-- The procedure with another scene. -/
def on (procedure : Procedure σ) (scene : Scene σ) : Procedure σ :=
  { procedure with scene := scene }

def ask (procedure : Procedure σ) (call : Nat → σ → Reply σ α) : Outgo σ α :=
  match procedure.scene.await call with
  | (.ok value, after) => (.ok value, procedure.on after)
  | (.error error, after) => (.error (.backend error), procedure.on after)

def send (procedure : Procedure σ) (input : Input) : Outgo σ Unit :=
  procedure.ask (procedure.backend.perform procedure.app input)

def waitForAny (procedure : Procedure σ) (first : Locator) (others : List Locator) :
    Outgo σ (Locator × Node) :=
  let (result, after) := Polling.waitForAny procedure.backend procedure.app procedure.patience first
    others procedure.scene
  (result, procedure.on after)

/-- Waits for a selector, in the window that has focus or else anywhere. -/
def waitFor (procedure : Procedure σ) (selector : Selector) : Outgo σ (Locator × Node) :=
  procedure.waitForAny (procedure.focus.locator selector) (procedure.focus.fallbacks selector)

def waitUntilGone (procedure : Procedure σ) (locator : Locator) : Outgo σ Unit :=
  let (result, after) := Polling.waitUntilGone procedure.backend procedure.app procedure.patience
    locator procedure.scene
  (result, procedure.on after)

/-- Waits for a selector and acts on what was found. -/
def actOn (procedure : Procedure σ) (selector : Selector) (input : Locator → Input) :
    Outgo σ Unit :=
  match procedure.waitFor selector with
  | (.ok (locator, _), found) => found.send (input locator)
  | (.error error, after) => (.error error, after)

def noFocus : RunError := .assertionFailed "no widget has focus"

def actOnFocus (procedure : Procedure σ) (input : Locator → Input) : Outgo σ Unit :=
  match procedure.focus.widget with
  | some selector => procedure.actOn selector input
  | none => (.error noFocus, procedure)

/-! ## The trail -/

/-- How a result is told on the trail. -/
def outcomeOf : Except RunError α → Outcome
  | .ok _ => .success
  | .error error => .failure error.message

def enter (procedure : Procedure σ) (action : Action) (outcome : Outcome) (duration : Nat) :
    Procedure σ :=
  let entry : Entry :=
    ⟨procedure.marks.identifier procedure.trail.length,
      procedure.marks.time procedure.scene.clock, action, outcome, some duration⟩
  { procedure with trail := procedure.trail ++ [entry] }

def recorded (action : Action) (begun : Nat) (outgo : Outgo σ α) : Outgo σ α :=
  let (result, after) := outgo
  (result, after.enter action (outcomeOf result) (after.scene.clock - begun))

def recordLaunch (procedure : Procedure σ) (file : Option String) (duration : Nat)
    (outcome : Outcome) : Procedure σ :=
  procedure.enter (.launch procedure.app file) outcome duration

/-! ## Steps -/

def click (procedure : Procedure σ) (name role : String) : Outgo σ Unit :=
  recorded (.click name (some role)) procedure.scene.clock
    (procedure.actOn (.of name role) .click)

def focusAction (window : Window) : Action :=
  match window.kind with
  | .frame => .focusFrame window.name
  | .dialog => .focusDialog window.name

/-- Gives focus to a window once it is there. No widget has focus then. -/
def focusWindow (procedure : Procedure σ) (window : Window) : Outgo σ Unit :=
  recorded (focusAction window) procedure.scene.clock <|
    match procedure.waitForAny (.anywhere window.selector) [] with
    | (.ok _, found) => (.ok (), { found with focus := ⟨some window, none⟩ })
    | (.error error, after) => (.error error, after)

def focusWidget (procedure : Procedure σ) (name : String) : Outgo σ Unit :=
  recorded (.focusWidget name) procedure.scene.clock <|
    match procedure.waitFor (.named name) with
    | (.ok _, found) =>
      (.ok (), { found with focus := { found.focus with widget := some (.named name) } })
    | (.error error, after) => (.error error, after)

/-- The text of the focused widget, which is read in one more dump; empty if it has none. This
leaves nothing on the trail. -/
def widgetText (procedure : Procedure σ) : Outgo σ String :=
  match procedure.focus.widget with
  | none => (.error noFocus, procedure)
  | some selector =>
    match procedure.waitFor selector with
    | (.error error, after) => (.error error, after)
    | (.ok (locator, _), found) =>
      match found.backend.textOf found.app locator found.scene with
      | (.ok text, after) => (.ok (text.getD ""), found.on after)
      | (.error error, after) => (.error (.backend error), found.on after)

def setWidgetText (procedure : Procedure σ) (text : String) : Outgo σ Unit :=
  recorded (.setText text) procedure.scene.clock
    (procedure.actOnFocus fun locator => .setText locator text)

def activate (procedure : Procedure σ) : Outgo σ Unit :=
  recorded .activate procedure.scene.clock (procedure.actOnFocus .activate)

/-- Why a widget does not read as expected. -/
def textMismatch (selector : Selector) (expected actual : String) : RunError :=
  .assertionFailed <|
    s!"expected {selector.label} to read {Text.quote expected}, found {Text.quote actual}"

def assertWidgetText (procedure : Procedure σ) (expected : String) : Outgo σ Unit :=
  recorded (.assertText expected) procedure.scene.clock <|
    match procedure.widgetText with
    | (.error error, after) => (.error error, after)
    | (.ok actual, after) =>
      if actual = expected then (.ok (), after)
      else
        match after.focus.widget with
        | some selector => (.error (textMismatch selector expected actual), after)
        | none => (.error noFocus, after)

/-- Types into whatever has the keyboard. -/
def typeText (procedure : Procedure σ) (text : String) : Outgo σ Unit :=
  recorded (.typeText text) procedure.scene.clock (procedure.send (.typeText text))

def keyCombo (procedure : Procedure σ) (combo : String) : Outgo σ Unit :=
  recorded (.keyCombo combo) procedure.scene.clock (procedure.send (.keyCombo combo))

def waitForNot (procedure : Procedure σ) (name role : String) : Outgo σ Unit :=
  recorded (.waitForNot name (some role)) procedure.scene.clock
    (procedure.waitUntilGone (procedure.focus.locator (.of name role)))

/-- Waits until a window is gone, whatever has focus. If it had focus, nothing has then. -/
def waitForClosed (procedure : Procedure σ) (window : Window) : Outgo σ Unit :=
  recorded (.waitForNot window.name (some window.kind.role)) procedure.scene.clock <|
    match procedure.waitUntilGone (.anywhere window.selector) with
    | (.ok (), after) =>
      if after.focus.window = some window then (.ok (), { after with focus := .none })
      else (.ok (), after)
    | (.error error, after) => (.error error, after)

end Procedure

end Rehearsal
