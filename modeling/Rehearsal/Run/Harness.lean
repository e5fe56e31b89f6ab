import Rehearsal.Launch.Basic
import Rehearsal.Procedure.Basic
/-!
# Runs

A run launches the application, hands a procedure to a body and closes the application when the body
has come to its end. The first error ends the run; the application and the procedure are then kept
as they are, so that a report can show them. An error of the closing is no error of the run.
-/

set_option autoImplicit false

namespace Rehearsal

inductive RunState where
  | notStarted
  | running
  | passed
  | failed
  deriving DecidableEq, Repr

def RunState.name : RunState → String
  | .notStarted => "NotStarted"
  | .running => "Running"
  | .passed => "Passed"
  | .failed => "Failed"

structure Failure (σ : Type) where
  error : RunError
  procedure : Procedure σ
  /-- The application, if it was launched. -/
  app : Option App

/-- Runs scenarios one after the other on one backend. -/
structure Harness (σ : Type) where
  settings : Settings
  machine : Machine
  backend : Backend σ
  marks : Marks
  state : RunState
  scene : Scene σ

namespace Harness

variable {σ : Type}

/-- How long an application may take to end by itself after a run that passes. -/
def closeGrace : Nat := 5000

def start (settings : Settings) (machine : Machine) (backend : Backend σ) (marks : Marks)
    (scene : Scene σ) : Harness σ :=
  ⟨settings, machine, backend, marks, .notStarted, scene⟩

/-- A procedure for a run. -/
def procedure (harness : Harness σ) : Procedure σ :=
  .start harness.backend harness.settings.shownName harness.settings.patience harness.marks
    harness.scene

/-- The procedure when the application has been closed. -/
def closedAt (clock : Nat) (procedure : Procedure σ) : Procedure σ :=
  procedure.on { procedure.scene with clock := clock }

/-- A run: launch, body and end, with the machine that it leaves. -/
def run (harness : Harness σ) (fixture : Option String) (body : Procedure σ → Outgo σ Unit) :
    Except (Failure σ) (Procedure σ) × Machine :=
  if harness.backend.connected harness.scene.state then
    let launched := harness.machine.launch harness.settings harness.backend fixture harness.scene
    let duration := launched.scene.clock - harness.scene.clock
    let begun := (harness.procedure.on launched.scene).recordLaunch fixture duration
    match launched.result with
    | .error error =>
      (.error ⟨error, begun (.failure error.message), none⟩, launched.machine)
    | .ok app =>
      match body (begun .success) with
      | (.error error, procedure) => (.error ⟨error, procedure, some app⟩, launched.machine)
      | (.ok (), procedure) =>
        -- How the process has ended is told to nobody, nor why it could not be ended.
        match app.close closeGrace procedure.scene.clock with
        | (.ok _, finished) => (.ok (closedAt finished procedure), launched.machine)
        | (.error _, finished) => (.ok (closedAt finished procedure), launched.machine)
  else (.error ⟨.backend .notConnected, harness.procedure, none⟩, harness.machine)

def sceneOf : Except (Failure σ) (Procedure σ) → Scene σ
  | .ok procedure => procedure.scene
  | .error failure => failure.procedure.scene

def stateOf : Except (Failure σ) (Procedure σ) → RunState
  | .ok _ => .passed
  | .error _ => .failed

def execute (harness : Harness σ) (fixture : Option String)
    (body : Procedure σ → Outgo σ Unit) : Except (Failure σ) (Procedure σ) × Harness σ :=
  let running := { harness with state := .running }
  let (result, machine) := running.run fixture body
  (result, { running with machine := machine, state := stateOf result, scene := sceneOf result })

end Harness

end Rehearsal
