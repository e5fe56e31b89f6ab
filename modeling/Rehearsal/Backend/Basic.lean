import Rehearsal.Failure.Basic
import Rehearsal.Wire.Message
/-!
# Backends

A backend shows an application's tree and passes input on to it. It is any state machine: a call
takes the state to another and is answered after some time. A caller need not wait that long. What
is left behind when a caller stops waiting belongs to the description of the call, for the backend
may go on and answer to nobody.

Time is counted in whole milliseconds on a clock of the run.
-/

set_option autoImplicit false

namespace Rehearsal

structure Reply (σ α : Type) where
  delay : Nat
  answer : Except BackendError α
  after : σ
  /-- The backend when the caller has stopped waiting after some time. -/
  abandoned : Nat → σ

/-- An answer that takes no time. -/
def Reply.now {σ α : Type} (answer : Except BackendError α) (after : σ) : Reply σ α :=
  ⟨0, answer, after, fun _ => after⟩

/-- The calls that a backend takes. All but `connected` are told the time. -/
structure Backend (σ : Type) where
  connected : σ → Bool
  /-- The top-level windows of an application; none if it does not show itself. -/
  dump : String → Nat → σ → Reply σ Forest
  perform : String → Input → Nat → σ → Reply σ Unit
  screenshot : Nat → σ → Reply σ Bytes

structure Scene (σ : Type) where
  state : σ
  clock : Nat

namespace Scene

variable {σ α : Type}

def pause (scene : Scene σ) (time : Nat) : Scene σ :=
  { scene with clock := scene.clock + time }

/-- Calls the backend and waits for the answer. -/
def await (scene : Scene σ) (call : Nat → σ → Reply σ α) : Except BackendError α × Scene σ :=
  let reply := call scene.clock scene.state
  (reply.answer, ⟨reply.after, scene.clock + reply.delay⟩)

def awaitWithin (scene : Scene σ) (limit : Nat) (call : Nat → σ → Reply σ α) :
    Option (Except BackendError α) × Scene σ :=
  let reply := call scene.clock scene.state
  if reply.delay ≤ limit then (some reply.answer, ⟨reply.after, scene.clock + reply.delay⟩)
  else (none, ⟨reply.abandoned limit, scene.clock + limit⟩)

end Scene

namespace Backend

variable {σ : Type}

def find (backend : Backend σ) (app : String) (locator : Locator) (scene : Scene σ) :
    Except BackendError (Option Node) × Scene σ :=
  match scene.await (backend.dump app) with
  | (.ok forest, after) => (.ok (forest.locate? locator), after)
  | (.error error, after) => (.error error, after)

def textOf (backend : Backend σ) (app : String) (locator : Locator) (scene : Scene σ) :
    Except BackendError (Option String) × Scene σ :=
  match backend.find app locator scene with
  | (.ok (some node), after) => (.ok node.text, after)
  | (.ok none, after) => (.error (.noSuchWidget locator), after)
  | (.error error, after) => (.error error, after)

end Backend

end Rehearsal
