import Rehearsal.Proofs.Procedure.Exchanges
import Rehearsal.Proofs.Procedure.Recording
/-!
# What moves the focus

Three kinds of steps move the focus, and only by succeeding: a window that is there gets it, a
widget that is there gets it inside the window that has it, and a window that is gone loses it. A
run leaves the focus where the last of these steps has moved it, so a widget never keeps it over a
change of the window.
-/

set_option autoImplicit false

namespace Rehearsal

variable {σ : Type}

namespace Deed

def Succeeds (deed : Deed σ) : Prop := ∃ yield, deed.result = .ok yield

/-- Where a step moves the focus. -/
inductive Moves (deed : Deed σ) : Focus → Prop where
  | window {window : Window} (asked : deed.step = .focusWindow window)
      (succeeded : deed.Succeeds) : Moves deed ⟨some window, none⟩
  | widget {name : String} (asked : deed.step = .focusWidget name) (succeeded : deed.Succeeds) :
      Moves deed ⟨deed.before.focus.window, some (.named name)⟩
  /-- The window that is gone is the one that has focus, of its kind and letter for letter. -/
  | closed {window : Window} (asked : deed.step = .waitForClosed window)
      (succeeded : deed.Succeeds) (focused : deed.before.focus.window = some window) :
      Moves deed .none

def Stays (deed : Deed σ) : Prop := ∀ focus, ¬ deed.Moves focus

section

variable {deed : Deed σ} {focus : Focus}

theorem focus_after_of_succeeds (succeeded : deed.Succeeds) :
    deed.after.focus = deed.step.refocus deed.before.focus := by
  obtain ⟨yield, worked⟩ := succeeded
  have ran := deed.step.focus_run deed.before
  unfold result at worked
  rw [worked] at ran
  exact ran

theorem focus_after_of_moves (moves : deed.Moves focus) : deed.after.focus = focus := by
  cases moves with
  | window asked succeeded => rw [focus_after_of_succeeds succeeded, asked, Step.refocus]
  | widget asked succeeded => rw [focus_after_of_succeeds succeeded, asked, Step.refocus]
  | closed asked succeeded focused =>
      rw [focus_after_of_succeeds succeeded, asked, Step.refocus, if_pos focused]

theorem refocus_of_stays (stays : deed.Stays) (succeeded : deed.Succeeds) :
    deed.step.refocus deed.before.focus = deed.before.focus := by
  cases asked : deed.step with
  | focusWindow window => exact absurd (.window asked succeeded) (stays _)
  | focusWidget name => exact absurd (.widget asked succeeded) (stays _)
  | waitForClosed window =>
      have other : deed.before.focus.window ≠ some window := by
        intro focused
        exact stays _ (.closed asked succeeded focused)
      exact if_neg other
  | _ => rfl

theorem focus_after_of_stays (stays : deed.Stays) : deed.after.focus = deed.before.focus := by
  cases ended : deed.result with
  | ok yield =>
      have succeeded : deed.Succeeds := ⟨yield, ended⟩
      exact (focus_after_of_succeeds succeeded).trans (refocus_of_stays stays succeeded)
  | error error =>
      have ran := deed.step.focus_run deed.before
      unfold result at ended
      rw [ended] at ran
      exact ran

/-- A step that moves the focus leaves it there, and every other step leaves it alone. -/
theorem focus_after_iff :
    deed.after.focus = focus ↔
      deed.Moves focus ∨ (deed.Stays ∧ focus = deed.before.focus) := by
  constructor
  · rintro rfl
    by_cases moved : ∃ other, deed.Moves other
    · obtain ⟨other, moves⟩ := moved
      rw [focus_after_of_moves moves]
      exact .inl moves
    · have stays : deed.Stays := not_exists.mp moved
      exact .inr ⟨stays, focus_after_of_stays stays⟩
  · rintro (moves | ⟨stays, rfl⟩)
    · exact focus_after_of_moves moves
    · exact focus_after_of_stays stays

end

end Deed

/-! ## Runs -/

namespace Step

/-- Of some steps, the last that moves the focus, with those that follow it and leave it alone. -/
def LastMoves (deeds : List (Deed σ)) (deed : Deed σ) (focus : Focus) : Prop :=
  ∃ earlier later, deeds = earlier ++ deed :: later ∧ deed.Moves focus ∧
    ∀ other ∈ later, other.Stays

theorem LastMoves.after {deeds : List (Deed σ)} {deed : Deed σ} {focus : Focus}
    (moves : LastMoves deeds deed focus) (first : Deed σ) :
    LastMoves (first :: deeds) deed focus := by
  obtain ⟨earlier, later, rfl, moved, stay⟩ := moves
  exact ⟨first :: earlier, later, rfl, moved, stay⟩

/-- A widget that has focus was asked for by its name, in the window that still has it. -/
theorem LastMoves.of_widget {deeds : List (Deed σ)} {deed : Deed σ} {focus : Focus}
    {selector : Selector} (moves : LastMoves deeds deed focus)
    (focused : focus.widget = some selector) :
    ∃ name, deed.step = .focusWidget name ∧ deed.Succeeds ∧ selector = .named name ∧
      deed.before.focus.window = focus.window := by
  obtain ⟨_, _, _, moved, _⟩ := moves
  cases moved with
  | window asked succeeded => cases focused
  | @widget name asked succeeded =>
      cases focused
      exact ⟨name, asked, succeeded, rfl, rfl⟩
  | closed asked succeeded _ => cases focused

/-- A run leaves the focus where the last step that moves it has moved it. -/
theorem focus_perform (steps : List Step) (procedure : Procedure σ) :
    (∃ deed, LastMoves (deeds steps procedure) deed (perform steps procedure).focus) ∨
      ((∀ deed ∈ deeds steps procedure, deed.Stays) ∧
        (perform steps procedure).focus = procedure.focus) := by
  induction steps generalizing procedure with
  | nil => exact .inr ⟨nofun, rfl⟩
  | cons step rest ih =>
      let first : Deed σ := ⟨step, procedure⟩
      rcases ih first.after with ⟨deed, moves⟩ | ⟨stay, kept⟩
      · exact .inl ⟨deed, moves.after first⟩
      · rcases Deed.focus_after_iff.mp kept.symm with moved | ⟨stays, same⟩
        · exact .inl ⟨first, [], _, rfl, moved, stay⟩
        · exact .inr ⟨List.forall_mem_cons.mpr ⟨stays, stay⟩, same⟩

end Step

/-- The focus of a run follows its steps: it is where the last step has moved it that moves it at
all. A widget has focus only if a step has asked for it by its name and found it, and no step since
then has changed the window. -/
theorem Procedure.focus_follows_steps (backend : Backend σ) (app : String) (patience : Patience)
    (marks : Marks) (scene : Scene σ) (steps : List Step) :
    let begun := Procedure.start backend app patience marks scene
    let deeds := Step.deeds steps begun
    let final := (Step.perform steps begun).focus
    deeds.map Deed.step = steps ∧
    (∀ deed ∈ deeds, ∀ focus, deed.after.focus = focus ↔
      deed.Moves focus ∨ (deed.Stays ∧ focus = deed.before.focus)) ∧
    ((∃ deed, Step.LastMoves deeds deed final) ∨
      ((∀ deed ∈ deeds, deed.Stays) ∧ final = .none)) ∧
    ∀ selector, final.widget = some selector → ∃ deed, Step.LastMoves deeds deed final ∧
      ∃ name, deed.step = .focusWidget name ∧ deed.Succeeds ∧ selector = .named name ∧
        deed.before.focus.window = final.window := by
  intro begun deeds final
  have moved := Step.focus_perform steps begun
  refine ⟨Step.steps_deeds steps begun, fun deed _ focus => Deed.focus_after_iff, moved, ?_⟩
  intro selector focused
  rcases moved with ⟨deed, last⟩ | ⟨-, none⟩
  · exact ⟨deed, last, last.of_widget focused⟩
  · have unfocused : final.widget = .none := congrArg Focus.widget none
    cases unfocused.symm.trans focused

end Rehearsal
