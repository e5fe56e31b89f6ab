import Rehearsal.Backend.Basic
import Rehearsal.Failure.Basic
import Rehearsal.Launch.Process
/-!
# Waiting for the main window

After a launch the application's tree is asked for until it has a window at its top level. The wait
fails when the process ends badly or cannot be looked at, when the backend is not connected, and
when the time is over. A process that ends well does not end the wait: it may have handed its
document to one that was running before.
-/

set_option autoImplicit false

namespace Rehearsal.MainWindow

variable {σ : Type}

/-- The title of the first main window at the top level; empty if it has no name. -/
def title? (forest : Forest) : Option String :=
  (forest.find? fun node => node.isRole Role.frame).map fun node => node.name.getD ""

/-- What a look at the process tells: whether it has ended well, now or before. It is an error if
the process has ended badly and if it cannot be looked at. -/
def check (app : String) (ended : Bool) (told : Except String (Option ExitStatus)) :
    Except RunError Bool :=
  if ended then .ok true
  else
    match told with
    | .error fault => .error (.io fault)
    | .ok none => .ok false
    | .ok (some status) =>
      if status.isSuccess then .ok true
      else .error (.processLaunch app s!"exited with {status.text} before showing a window")

/-- What the answer to a request for the tree decides. A request that takes too long and most errors
decide nothing. -/
def decided : Option (Except BackendError Forest) → Option (Except RunError String)
  | some (.ok forest) => (title? forest).map .ok
  | some (.error .notConnected) => some (.error (.backend .notConnected))
  | _ => none

structure Sighting where
  title : String
  ended : Bool
  deriving DecidableEq, Repr

/-- The scene after the pause behind a round. The clock runs on by itself: no round ends at the time
at which it began, even if neither the request nor the pause takes any. -/
def afterPause (begun interval : Nat) (asked : Scene σ) : Scene σ :=
  let paused := asked.pause interval
  { paused with clock := max (begun + 1) paused.clock }

/-- Time does not run backwards while a backend is called. -/
theorem clock_le_awaitWithin {α : Type} (scene : Scene σ) (limit : Nat)
    (call : Nat → σ → Reply σ α) : scene.clock ≤ (scene.awaitWithin limit call).2.clock := by
  simp only [Scene.awaitWithin]
  split <;> simp

/-- Waits for the main window of an application. `status` tells what a look at the process comes to
at a time on the clock, and the wait is over at the deadline. -/
def await (backend : Backend σ) (app : String)
    (status : Nat → Except String (Option ExitStatus)) (timeout interval deadline : Nat)
    (ended : Bool) (scene : Scene σ) : Except RunError Sighting × Scene σ :=
  match check app ended (status scene.clock) with
  | .error error => (.error error, scene)
  | .ok nowEnded =>
    let outcome := scene.awaitWithin (deadline - scene.clock) (backend.dump app)
    match decided outcome.1 with
    | some result => (result.map (⟨·, nowEnded⟩), outcome.2)
    | none =>
      if deadline ≤ outcome.2.clock then
        (.error (.launchTimeout app (.ofMilliseconds timeout)), outcome.2)
      else
        await backend app status timeout interval deadline nowEnded
          (afterPause scene.clock interval outcome.2)
termination_by deadline - scene.clock
decreasing_by
  have later := clock_le_awaitWithin scene (deadline - scene.clock) (backend.dump app)
  have early : ¬ deadline ≤
      (scene.awaitWithin (deadline - scene.clock) (backend.dump app)).2.clock := by assumption
  simp only [afterPause]
  omega

def wait (backend : Backend σ) (app : String)
    (status : Nat → Except String (Option ExitStatus)) (timeout interval : Nat) (scene : Scene σ) :
    Except RunError Sighting × Scene σ :=
  await backend app status timeout interval (scene.clock + timeout) false scene

end Rehearsal.MainWindow
