import Rehearsal.Backend.Basic
import Rehearsal.Failure.Basic
/-!
# Waiting for widgets

A widget is looked for in rounds with a pause between them. In every round the candidates are looked
up in order, each in a dump of its own. An error of the backend counts as absence and as presence of
nothing, except one that means that the backend is gone, which ends the wait.
-/

set_option autoImplicit false

namespace Rehearsal

/-- How long widgets are waited for. -/
structure Patience where
  /-- The rounds of lookups; there is always one. -/
  attempts : Nat
  backoff : Nat
  deriving DecidableEq, Repr

def Patience.rounds (patience : Patience) : Nat := max 1 patience.attempts

namespace Polling

variable {σ : Type}

/-- What a round comes to: the backend is gone, nothing of what is waited for, or a result. -/
abbrev Round (α : Type) := Except BackendError (Option α)

def lookUp (backend : Backend σ) (app : String) :
    List Locator → Scene σ → Round (Locator × Node) × Scene σ
  | [], scene => (.ok none, scene)
  | locator :: rest, scene =>
    match backend.find app locator scene with
    | (.ok (some node), after) => (.ok (some (locator, node)), after)
    | (.ok none, after) => lookUp backend app rest after
    | (.error error, after) =>
      if error.isFatal then (.error error, after) else lookUp backend app rest after

def lookAway (backend : Backend σ) (app : String) (locator : Locator) (scene : Scene σ) :
    Round Unit × Scene σ :=
  match backend.find app locator scene with
  | (.ok (some _), after) => (.ok none, after)
  | (.ok none, after) => (.ok (some ()), after)
  | (.error error, after) => if error.isFatal then (.error error, after) else (.ok none, after)

/-- Goes through rounds until one comes to a result. There is no pause after the last one. -/
def repeatRound {α : Type} (round : Scene σ → Round α × Scene σ) (backoff : Nat) :
    Nat → Scene σ → Round α × Scene σ
  | 0, scene => (.ok none, scene)
  | rounds + 1, scene =>
    match round scene with
    | (.ok none, after) =>
      if rounds = 0 then (.ok none, after)
      else repeatRound round backoff rounds (after.pause backoff)
    | (result, after) => (result, after)

def elapsed (before after : Scene σ) : Elapsed :=
  .ofMilliseconds (after.clock - before.clock)

/-- Waits until one of several candidates is there. The first of them is the one that is missing in
the end. -/
def waitForAny (backend : Backend σ) (app : String) (patience : Patience) (first : Locator)
    (others : List Locator) (scene : Scene σ) : Except RunError (Locator × Node) × Scene σ :=
  match repeatRound (lookUp backend app (first :: others)) patience.backoff patience.rounds
      scene with
  | (.ok (some found), after) => (.ok found, after)
  | (.ok none, after) => (.error (.widgetNotFound first.label (elapsed scene after)), after)
  | (.error error, after) => (.error (.backend error), after)

def waitUntilGone (backend : Backend σ) (app : String) (patience : Patience) (locator : Locator)
    (scene : Scene σ) : Except RunError Unit × Scene σ :=
  match repeatRound (lookAway backend app locator) patience.backoff patience.rounds scene with
  | (.ok (some ()), after) => (.ok (), after)
  | (.ok none, after) =>
    let waited := (elapsed scene after).milliseconds
    (.error (.assertionFailed s!"{locator.label} still present after {waited}ms"), after)
  | (.error error, after) => (.error (.backend error), after)

end Polling

end Rehearsal
