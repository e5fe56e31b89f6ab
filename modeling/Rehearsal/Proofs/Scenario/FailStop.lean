import Rehearsal.Backend.Stage
import Rehearsal.Proofs.Procedure.Story
import Rehearsal.Scenario.Catalogue
/-!
# Scenarios stop where they fail

What a scenario orders is fixed before it runs. On whatever backend, a run gives these orders one
after the other, none of them twice and none after one that is refused, and ends with the error of
the step that fails.
-/

set_option autoImplicit false

namespace Rehearsal

variable {σ : Type}

namespace Scenario

def judge (scenario : Scenario) : Except RunError (List String) → Except RunError Unit
  | .error error => .error error
  | .ok texts =>
    match scenario.verdict texts with
    | some error => .error error
    | none => .ok ()

theorem run_eq_judge (scenario : Scenario) (procedure : Procedure σ) :
    scenario.run procedure =
      (scenario.judge (Step.runAll (scenario.script procedure.app) procedure).1,
        (Step.runAll (scenario.script procedure.app) procedure).2) := by
  rw [run]
  rcases Step.runAll (scenario.script procedure.app) procedure with ⟨error | texts, after⟩
  · rfl
  · dsimp only [judge]
    cases scenario.verdict texts <;> rfl

theorem judge_eq_ok {scenario : Scenario} {read : Except RunError (List String)}
    (passed : scenario.judge read = .ok ()) :
    ∃ texts, read = .ok texts ∧ scenario.verdict texts = none := by
  cases read with
  | error error => cases passed
  | ok texts =>
      refine ⟨texts, rfl, ?_⟩
      rw [judge] at passed
      split at passed
      · cases passed
      · assumption

def log (scenario : Scenario) (procedure : Procedure σ) : List Exchange :=
  (scenario.run (procedure.logged [])).2.scene.state.log

theorem run_logged (scenario : Scenario) (procedure : Procedure σ) :
    scenario.run (procedure.logged []) =
        ((scenario.run procedure).1, (scenario.run procedure).2.logged (scenario.log procedure)) ∧
      ∃ read, (scenario.run procedure).1 = scenario.judge read ∧
        Step.Story procedure.focus (scenario.script procedure.app) read
          (scenario.log procedure) := by
  obtain ⟨added, same, story⟩ := Step.runAll_logged (scenario.script procedure.app) procedure []
  have run : scenario.run (procedure.logged []) =
      ((scenario.run procedure).1, (scenario.run procedure).2.logged added) := by
    rw [run_eq_judge, run_eq_judge]
    exact congrArg (fun outgo => (scenario.judge outgo.1, outgo.2)) same
  have kept : scenario.log procedure = added := by rw [log, run]; rfl
  rw [kept]
  exact ⟨run, _, by rw [run_eq_judge], story⟩

def orders (scenario : Scenario) : List Order := Step.orders .none (scenario.script "")

end Scenario

namespace Catalogue

/-- What a scenario of the catalogue orders hangs neither on the application nor on the focus that
it begins with. -/
theorem orders_script {scenario : Scenario} (listed : scenario ∈ all) (focus : Focus)
    (app : String) : Step.orders focus (scenario.script app) = scenario.orders := by
  simp only [all, List.mem_cons, List.not_mem_nil, or_false] at listed
  rcases listed with rfl | rfl | rfl | rfl | rfl | rfl | rfl | rfl | rfl | rfl <;> rfl

/-- A run of a scenario gives its orders in turn up to the first that is refused or not reached,
and has given them all when it succeeds. The first step that fails ends it with its error. -/
theorem run_stops_at_first_failure {scenario : Scenario} (listed : scenario ∈ all)
    (procedure : Procedure σ) :
    let log := scenario.log procedure
    let logged := procedure.logged []
    let outcome := scenario.run procedure
    scenario.run logged = (outcome.1, outcome.2.logged log) ∧
    Step.given log <+: scenario.orders ∧
    (∀ entry ∈ (Exchange.inputs log).dropLast, entry.2 = .ok ()) ∧
    (∀ done deed rest error,
      Step.deeds (scenario.script procedure.app) logged = done ++ deed :: rest →
      (∀ earlier ∈ done, ∃ yield, earlier.result = .ok yield) → deed.result = .error error →
      scenario.run logged = (.error error, deed.after)) ∧
    (outcome.1 = .ok () →
      Step.given log = scenario.orders ∧ ∀ entry ∈ Exchange.inputs log, entry.2 = .ok ()) := by
  intro log logged outcome
  obtain ⟨same, read, judged, story⟩ := scenario.run_logged procedure
  refine ⟨same, ?_, story.accepted, ?_, ?_⟩
  · rw [← orders_script listed procedure.focus procedure.app]
    exact story.given_prefix
  · intro done deed rest error split succeeded failed
    have ended := Step.runAll_of_first_error split succeeded failed
    have app : logged.app = procedure.app := rfl
    rw [Scenario.run_eq_judge, app, ended]
    rfl
  · intro passed
    obtain ⟨texts, told, -⟩ := Scenario.judge_eq_ok (judged.symm.trans passed)
    rw [← orders_script listed procedure.focus procedure.app]
    exact story.complete told

/-- A stage with a menu whose item opens nothing. -/
def dullMenu : Procedure Stage :=
  .start Stage.backend "viewer" rehearsalPatience ⟨fun _ => ⟨[]⟩, fun _ => default⟩
    ⟨.bare [Node.of "File" Role.menu [Node.leaf "Open…" Role.menuItem]], 0⟩

theorem run_stops_at_first_failure_dull :
    zoom ∈ all ∧
    Step.given (zoom.log dullMenu) =
      [.click (.of "File" Role.menu), .click (.of "Open…" Role.menuItem)] ∧
    Step.given (zoom.log dullMenu) <+: zoom.orders := by
  have listed : zoom ∈ all := by simp [all]
  obtain ⟨-, begun, -⟩ := run_stops_at_first_failure listed dullMenu
  exact ⟨listed, rfl, begun⟩

end Catalogue

end Rehearsal
