import Rehearsal.Proofs.Procedure.Exchanges
import Rehearsal.Proofs.Procedure.Recording
/-!
# What scripts ask of their backend

The orders of a script are laid down before it is carried out: they follow from its steps and from
the focus that the steps would have if all of them succeeded. A run gives its backend these orders
in turn. It stops at the first that is refused or is not reached, and has given them all when it
succeeds.
-/

set_option autoImplicit false

namespace Rehearsal

variable {σ : Type}

namespace Step

/-- What a script orders, step by step, when it begins with a focus. -/
def orders : Focus → List Step → List Order
  | _, [] => []
  | focus, step :: rest => (step.order? focus).toList ++ orders (step.refocus focus) rest

def collect : Yield → Except RunError (List String) → Except RunError (List String)
  | .text text, result => result.map (text :: ·)
  | _, result => result

/-- What a run over some steps has asked of its backend when it comes to a result. -/
inductive Story : Focus → List Step → Except RunError (List String) → List Exchange → Prop where
  | ended {focus : Focus} : Story focus [] (.ok []) []
  | stopped {focus : Focus} {step : Step} {rest : List Step} {error : RunError}
      {added : List Exchange} (account : step.Accounts focus (.error error) added) :
      Story focus (step :: rest) (.error error) added
  | goesOn {focus : Focus} {step : Step} {rest : List Step} {yield : Yield}
      {result : Except RunError (List String)} {first later : List Exchange}
      (account : step.Accounts focus (.ok yield) first)
      (story : Story (step.refocus focus) rest result later) :
      Story focus (step :: rest) (collect yield result) (first ++ later)

theorem runAll_cons (step : Step) (rest : List Step) (procedure : Procedure σ) :
    runAll (step :: rest) procedure =
      match step.run procedure with
      | (.error error, after) => (.error error, after)
      | (.ok yield, after) => (collect yield (runAll rest after).1, (runAll rest after).2) := by
  rw [runAll]
  rcases step.run procedure with ⟨error | yield, after⟩
  · rfl
  · dsimp only
    rcases runAll rest after with ⟨error | texts, final⟩ <;> cases yield <;> rfl

/-- Over a log a run does what it does without it, and the log tells its story. -/
theorem runAll_logged (steps : List Step) (procedure : Procedure σ) (log : List Exchange) :
    Logs Procedure.logged log (runAll steps procedure) (runAll steps (procedure.logged log))
      (Story procedure.focus steps) := by
  induction steps generalizing procedure log with
  | nil => exact ⟨[], by rw [List.append_nil]; rfl, .ended⟩
  | cons step rest ih =>
      obtain ⟨first, same, account⟩ := step.run_logged procedure log
      have focus := step.focus_run procedure
      rw [runAll_cons, runAll_cons, same]
      generalize step.run procedure = outgo at account focus ⊢
      rcases outgo with ⟨error | yield, after⟩
      · exact ⟨first, rfl, .stopped account⟩
      · obtain ⟨later, goOn, story⟩ := ih after (log ++ first)
        refine ⟨first ++ later, ?_, ?_⟩
        · dsimp only
          rw [goOn, List.append_assoc]
        -- The orders of the rest hang on the focus that the step has left.
        · have focused : after.focus = step.refocus procedure.focus := focus
          rw [focused] at story
          exact .goesOn account story

/-! ## The orders of a story -/

def given (log : List Exchange) : List Order := (Exchange.inputs log).map (·.1.order)

theorem given_append (first second : List Exchange) :
    given (first ++ second) = given first ++ given second := by
  simp [given]

theorem given_of_blind {log : List Exchange} (blind : Exchange.inputs log = []) :
    given log = [] := by
  rw [given, blind]
  rfl

section

variable {focus : Focus} {step : Step} {steps : List Step} {yield : Yield} {error : RunError}
  {result : Except RunError (List String)} {log : List Exchange}

theorem Accounts.of_ok (account : step.Accounts focus (.ok yield) log) :
    given log = (step.order? focus).toList ∧ ∀ entry ∈ Exchange.inputs log, entry.2 = .ok () := by
  cases account with
  | looked idle blind => simp [idle, given, blind]
  | obeyed ordered blind => simp [ordered, given, blind]

theorem Accounts.of_error (account : step.Accounts focus (.error error) log) :
    Exchange.inputs log = [] ∨ ∃ input fault, Exchange.inputs log = [(input, .error fault)] ∧
      step.order? focus = some input.order ∧ error = .backend fault := by
  cases account with
  | failed blind => exact .inl blind
  | @refused looks input fault ordered blind =>
      exact .inr ⟨input, fault, by simp [blind], ordered, rfl⟩

theorem Story.given_prefix (story : Story focus steps result log) :
    given log <+: orders focus steps := by
  induction story with
  | ended => exact List.prefix_refl _
  | stopped account =>
      obtain blind | ⟨input, fault, only, ordered, -⟩ := account.of_error
      · exact given_of_blind blind ▸ List.nil_prefix
      · rw [orders, ordered, given, only]
        exact List.prefix_append _ _
  | goesOn account _ ih =>
      rw [orders, given_append, account.of_ok.1]
      exact (List.prefix_append_right_inj _).mpr ih

theorem Story.accepted (story : Story focus steps result log) :
    ∀ entry ∈ (Exchange.inputs log).dropLast, entry.2 = .ok () := by
  induction story with
  | ended => simp
  | stopped account =>
      obtain blind | ⟨input, fault, only, -⟩ := account.of_error
      · simp [blind]
      · simp [only]
  | @goesOn _ _ _ _ _ first later account _ ih =>
      intro entry member
      rw [Exchange.inputs_append] at member
      -- The last input of the log is one of the step only if the rest gives none.
      by_cases silent : Exchange.inputs later = []
      · rw [silent, List.append_nil] at member
        exact account.of_ok.2 entry ((List.dropLast_sublist _).mem member)
      · rw [List.dropLast_append_of_ne_nil silent, List.mem_append] at member
        exact member.elim (account.of_ok.2 entry) (ih entry)

theorem Story.complete (story : Story focus steps result log) {texts : List String}
    (succeeded : result = .ok texts) :
    given log = orders focus steps ∧ ∀ entry ∈ Exchange.inputs log, entry.2 = .ok () := by
  induction story generalizing texts with
  | ended => exact ⟨rfl, by simp⟩
  | stopped => cases succeeded
  | @goesOn _ _ _ yield rest first later account _ ih =>
      obtain ⟨others, rfl⟩ : ∃ others, rest = .ok others := by
        cases rest with
        | ok others => exact ⟨others, rfl⟩
        | error error => cases yield <;> cases succeeded
      obtain ⟨told, accepted⟩ := ih rfl
      refine ⟨by rw [given_append, orders, account.of_ok.1, told], ?_⟩
      intro entry member
      rw [Exchange.inputs_append, List.mem_append] at member
      exact member.elim (account.of_ok.2 entry) (accepted entry)

end

/-! ## The step that stops a run -/

/-- A run ends with the first step that fails, with its error. -/
theorem runAll_of_first_error {steps : List Step} {procedure : Procedure σ}
    {done rest : List (Deed σ)} {deed : Deed σ} {error : RunError}
    (split : deeds steps procedure = done ++ deed :: rest)
    (succeeded : ∀ earlier ∈ done, ∃ yield, earlier.result = .ok yield)
    (failed : deed.result = .error error) :
    runAll steps procedure = (.error error, deed.after) := by
  induction steps generalizing procedure done with
  | nil =>
      rw [deeds] at split
      simp at split
  | cons step steps ih =>
      rw [deeds] at split
      cases done with
      | nil =>
          obtain ⟨rfl, -⟩ := List.cons.inj split
          have ran : step.run procedure = (.error error, Deed.after ⟨step, procedure⟩) :=
            Prod.ext failed rfl
          rw [runAll_cons, ran]
      | cons first done =>
          obtain ⟨rfl, later⟩ := List.cons.inj split
          obtain ⟨yield, worked⟩ := succeeded _ List.mem_cons_self
          have ran : step.run procedure = (.ok yield, (step.run procedure).2) :=
            Prod.ext worked rfl
          have ended := ih later fun earlier member =>
            succeeded earlier (List.mem_cons_of_mem _ member)
          rw [runAll_cons, ran]
          dsimp only
          rw [ended]
          cases yield <;> rfl

end Step

end Rehearsal
