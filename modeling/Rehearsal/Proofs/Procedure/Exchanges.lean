import Rehearsal.Proofs.Backend.Logged
import Rehearsal.Proofs.Procedure.Waiting
import Rehearsal.Procedure.Step
/-!
# What steps ask of their backend

A step looks for what it needs and then gives at most one input. Which one that is, but for the
window in which its widget was found, is settled by the step and by the steps before it. A step that
succeeds has given its input and has it accepted, and a step that only looks succeeds because of
what its last look shows.
-/

set_option autoImplicit false

namespace Rehearsal

variable {σ α β : Type}

/-- An input without the window in which its widget is looked for. -/
inductive Order where
  | click (selector : Selector)
  | activate (selector : Selector)
  | setText (selector : Selector) (text : String)
  | typeText (text : String)
  | keyCombo (combo : String)
  deriving DecidableEq, Repr

def Input.order : Input → Order
  | .click target => .click target.selector
  | .activate target => .activate target.selector
  | .setText target text => .setText target.selector text
  | .typeText text => .typeText text
  | .keyCombo combo => .keyCombo combo

namespace Step

/-- What a step orders when it is carried out with a focus. -/
def order? (focus : Focus) : Step → Option Order
  | .click name role => some (.click (.of name role))
  | .setWidgetText text => focus.widget.map (.setText · text)
  | .activate => focus.widget.map .activate
  | .typeText text => some (.typeText text)
  | .keyCombo combo => some (.keyCombo combo)
  | _ => none

/-- The focus after a step that succeeds. -/
def refocus (focus : Focus) : Step → Focus
  | .focusWindow window => ⟨some window, none⟩
  | .focusWidget name => { focus with widget := some (.named name) }
  | .waitForClosed window => if focus.window = some window then .none else focus
  | _ => focus

/-- What has been seen when a step that only looks succeeds. -/
def Sees (focus : Focus) (yield : Yield) (looks : List Exchange) : Step → Prop
  | .focusWindow window =>
    LastShows looks fun forest => (forest.locate? (.anywhere window.selector)).isSome = true
  | .focusWidget name =>
    LastShows looks fun forest =>
      ∃ locator ∈ focus.candidates (.named name), (forest.locate? locator).isSome = true
  | .widgetText =>
    ∃ selector, focus.widget = some selector ∧ LastShows looks fun forest =>
      ∃ locator ∈ focus.candidates selector, ∃ node, forest.locate? locator = some node ∧
        yield = .text (node.text.getD "")
  | .assertWidgetText expected =>
    ∃ selector, focus.widget = some selector ∧ LastShows looks fun forest =>
      ∃ locator ∈ focus.candidates selector, ∃ node, forest.locate? locator = some node ∧
        node.text.getD "" = expected
  | .waitForNot name role =>
    LastShows looks fun forest => forest.locate? (focus.locator (.of name role)) = none
  | .waitForClosed window =>
    LastShows looks fun forest => forest.locate? (.anywhere window.selector) = none
  | .waitFor selector =>
    LastShows looks fun forest => ∃ locator ∈ focus.candidates selector,
      ∃ node, forest.locate? locator = some node ∧ yield = .found locator node
  | _ => True

/-- What a step has asked of its backend when it comes to a result. -/
inductive Accounts (focus : Focus) (step : Step) :
    Except RunError Yield → List Exchange → Prop where
  /-- It has failed before it gave an input. -/
  | failed {error : RunError} {looks : List Exchange} (blind : Exchange.inputs looks = []) :
      Accounts focus step (.error error) looks
  | looked {yield : Yield} {looks : List Exchange} (idle : step.order? focus = none)
      (blind : Exchange.inputs looks = []) (sees : step.Sees focus yield looks)
      (reads : ∀ text, yield = .text text → step = .widgetText) :
      Accounts focus step (.ok yield) looks
  | obeyed {looks : List Exchange} {given : Input} (ordered : step.order? focus = some given.order)
      (blind : Exchange.inputs looks = []) :
      Accounts focus step (.ok .nothing) (looks ++ [.input given (.ok ())])
  | refused {looks : List Exchange} {given : Input} {error : BackendError}
      (ordered : step.order? focus = some given.order) (blind : Exchange.inputs looks = []) :
      Accounts focus step (.error (.backend error)) (looks ++ [.input given (.error error)])

end Step

/-! ## Procedures over a log -/

namespace Procedure

open Polling (Located Absent)

variable (procedure : Procedure σ) (log : List Exchange)

theorem waitForAny_logged (first : Locator) (others : List Locator) :
    Logs Procedure.logged log (procedure.waitForAny first others)
      ((procedure.logged log).waitForAny first others) fun result added =>
        Shows (Located (first :: others)) result.toOption added := by
  obtain ⟨looks, same, shows⟩ := Polling.waitForAny_logged procedure.backend procedure.app
    procedure.patience first others procedure.scene log
  refine ⟨looks, ?_, shows⟩
  rw [waitForAny, waitForAny]
  dsimp only [logged] at same ⊢
  rw [same]
  rfl

theorem waitFor_logged (selector : Selector) :
    Logs Procedure.logged log (procedure.waitFor selector)
      ((procedure.logged log).waitFor selector) fun result added =>
        Shows (Located (procedure.focus.candidates selector)) result.toOption added := by
  rw [← Focus.locator_cons_fallbacks]
  exact procedure.waitForAny_logged log _ _

theorem waitUntilGone_logged (locator : Locator) :
    Logs Procedure.logged log (procedure.waitUntilGone locator)
      ((procedure.logged log).waitUntilGone locator) fun result added =>
        Shows (Absent locator) result.toOption added := by
  obtain ⟨looks, same, shows⟩ := Polling.waitUntilGone_logged procedure.backend procedure.app
    procedure.patience locator procedure.scene log
  refine ⟨looks, ?_, shows⟩
  rw [waitUntilGone, waitUntilGone]
  dsimp only [logged] at same ⊢
  rw [same]
  rfl

def sent : Except BackendError Unit → Except RunError Unit
  | .ok () => .ok ()
  | .error error => .error (.backend error)

theorem send_logged (given : Input) :
    Logs Procedure.logged log (procedure.send given) ((procedure.logged log).send given)
      fun result added => ∃ answer, added = [.input given answer] ∧ result = sent answer := by
  rw [send, send, ask, ask]
  dsimp only [logged]
  rw [await_logged_perform]
  rcases procedure.scene.await (procedure.backend.perform procedure.app given) with
    ⟨error | _, after⟩
  · exact ⟨_, rfl, .error error, rfl, rfl⟩
  · exact ⟨_, rfl, .ok (), rfl, rfl⟩

/-- What is asked for an input on a widget: looks, and then the input once the widget is there. -/
def Acts (selector : Selector) (input : Locator → Input) (result : Except RunError Unit)
    (added : List Exchange) : Prop :=
  ∃ looks, Exchange.inputs looks = [] ∧
    ((added = looks ∧ ∃ error, result = .error error) ∨
      ∃ locator answer, locator.selector = selector ∧
        added = looks ++ [.input (input locator) answer] ∧ result = sent answer)

theorem selector_of_mem_candidates {focus : Focus} {selector : Selector} {locator : Locator}
    (member : locator ∈ focus.candidates selector) : locator.selector = selector := by
  obtain ⟨window, widget⟩ := focus
  cases window with
  | none =>
      cases List.mem_singleton.mp member
      rfl
  | some window =>
      rcases List.mem_cons.mp member with rfl | other
      · rfl
      · cases List.mem_singleton.mp other
        rfl

theorem actOn_logged (selector : Selector) (input : Locator → Input) :
    Logs Procedure.logged log (procedure.actOn selector input)
      ((procedure.logged log).actOn selector input) (Acts selector input) := by
  obtain ⟨looks, same, blind, found⟩ := procedure.waitFor_logged log selector
  rw [actOn, actOn, same]
  generalize procedure.waitFor selector = outgo at found ⊢
  rcases outgo with ⟨error | ⟨locator, node⟩, after⟩
  · exact ⟨looks, rfl, looks, blind, .inl ⟨rfl, error, rfl⟩⟩
  · obtain ⟨earlier, forest, -, member, -⟩ := found (locator, node) rfl
    obtain ⟨_, given, answer, rfl, told⟩ := after.send_logged (log ++ looks) (input locator)
    refine ⟨looks ++ [.input (input locator) answer], ?_, looks, blind, .inr ?_⟩
    · rw [← List.append_assoc]
      exact given
    · exact ⟨locator, answer, selector_of_mem_candidates member, rfl, told⟩

theorem actOnFocus_logged (input : Locator → Input) :
    Logs Procedure.logged log (procedure.actOnFocus input)
      ((procedure.logged log).actOnFocus input) fun result added =>
        match procedure.focus.widget with
        | some selector => Acts selector input result added
        | none => added = [] ∧ result = .error noFocus := by
  have focus : (procedure.logged log).focus = procedure.focus := rfl
  rw [actOnFocus, actOnFocus, focus]
  cases procedure.focus.widget with
  | none => exact ⟨[], by rw [List.append_nil], rfl, rfl⟩
  | some selector => exact procedure.actOn_logged log selector input

def Reads (focus : Focus) (result : Except RunError String) (added : List Exchange) : Prop :=
  Exchange.inputs added = [] ∧ ∀ text, result = .ok text →
    ∃ selector, focus.widget = some selector ∧ LastShows added fun forest =>
      ∃ locator ∈ focus.candidates selector, ∃ node, forest.locate? locator = some node ∧
        node.text.getD "" = text

theorem widgetText_logged :
    Logs Procedure.logged log procedure.widgetText (procedure.logged log).widgetText
      (Reads procedure.focus) := by
  have focus : (procedure.logged log).focus = procedure.focus := rfl
  rw [widgetText, widgetText, focus]
  cases widget : procedure.focus.widget with
  | none => exact ⟨[], by rw [List.append_nil], rfl, nofun⟩
  | some selector =>
      obtain ⟨looks, same, blind, found⟩ := procedure.waitFor_logged log selector
      dsimp only
      rw [same]
      generalize procedure.waitFor selector = outgo at found ⊢
      rcases outgo with ⟨error | ⟨locator, node⟩, after⟩
      · exact ⟨looks, rfl, blind, nofun⟩
      · obtain ⟨-, -, -, member, -⟩ := found (locator, node) rfl
        obtain ⟨_, read, dumped, rfl, answered⟩ :=
          find_logged after.backend after.app after.scene (log ++ looks) locator
        dsimp only [logged]
        rw [Backend.textOf, Backend.textOf, read]
        generalize after.backend.find after.app locator after.scene = answer at answered ⊢
        have quiet : Exchange.inputs (looks ++ [.dump dumped]) = [] := by simp [blind]
        rcases answer with ⟨error | _ | shown, final⟩
        · exact ⟨looks ++ [.dump dumped], by rw [← List.append_assoc]; rfl, quiet, nofun⟩
        · exact ⟨looks ++ [.dump dumped], by rw [← List.append_assoc]; rfl, quiet, nofun⟩
        · refine ⟨looks ++ [.dump dumped], by rw [← List.append_assoc]; rfl, quiet, ?_⟩
          rintro text ⟨⟩
          obtain _ | forest := dumped
          · cases answered
          · exact ⟨selector, widget, looks, forest, rfl, locator, member, shown,
              (Except.ok.inj answered).symm, rfl⟩

theorem recorded_logged {plain : Outgo σ α} {noted : Outgo (Logged σ) α}
    {goes : Except RunError α → List Exchange → Prop}
    (logs : Logs Procedure.logged log plain noted goes)
    (action : Action) (begun : Nat) :
    Logs Procedure.logged log (recorded action begun plain) (recorded action begun noted) goes := by
  obtain ⟨added, rfl, told⟩ := logs
  exact ⟨added, rfl, told⟩

end Procedure

namespace Step

variable {log : List Exchange}

theorem yielding_logged {yield : α → Yield} {plain : Outgo σ α} {noted : Outgo (Logged σ) α}
    {goes : Except RunError α → List Exchange → Prop}
    {accounts : Except RunError Yield → List Exchange → Prop}
    (logs : Logs Procedure.logged log plain noted goes)
    (told : ∀ result added, goes result added → accounts (result.map yield) added) :
    Logs Procedure.logged log (yielding yield plain) (yielding yield noted) accounts := by
  obtain ⟨added, rfl, went⟩ := logs
  exact ⟨added, rfl, told _ _ went⟩

section

variable {focus : Focus} {step : Step} {plain : Outgo σ Unit} {noted : Outgo (Logged σ) Unit}

theorem looking_logged (idle : step.order? focus = none)
    (logs : Logs Procedure.logged log plain noted fun result added =>
      Exchange.inputs added = [] ∧ (result = .ok () → step.Sees focus .nothing added))
    (action : Action) (begun : Nat) :
    Logs Procedure.logged log
      (yielding (fun _ => .nothing) (Procedure.recorded action begun plain))
      (yielding (fun _ => .nothing) (Procedure.recorded action begun noted))
      (step.Accounts focus) := by
  refine yielding_logged (Procedure.recorded_logged log logs action begun) ?_
  rintro (error | _) added ⟨blind, seen⟩
  · exact .failed blind
  · exact .looked idle blind (seen rfl) nofun

theorem acting_logged {selector : Selector} {input : Locator → Input}
    (orders : ∀ locator : Locator, locator.selector = selector →
      step.order? focus = some (input locator).order)
    (logs : Logs Procedure.logged log plain noted (Procedure.Acts selector input))
    (action : Action) (begun : Nat) :
    Logs Procedure.logged log
      (yielding (fun _ => .nothing) (Procedure.recorded action begun plain))
      (yielding (fun _ => .nothing) (Procedure.recorded action begun noted))
      (step.Accounts focus) := by
  refine yielding_logged (Procedure.recorded_logged log logs action begun) ?_
  rintro result added ⟨looks, blind, ⟨rfl, error, rfl⟩ | ⟨locator, _ | _, target, rfl, rfl⟩⟩
  · exact .failed blind
  · exact .refused (orders locator target) blind
  · exact .obeyed (orders locator target) blind

end

theorem typing_logged {step : Step} {focus : Focus} {given : Input} (procedure : Procedure σ)
    (orders : step.order? focus = some given.order) (action : Action) (begun : Nat) :
    Logs Procedure.logged log
      (yielding (fun _ => .nothing) (Procedure.recorded action begun (procedure.send given)))
      (yielding (fun _ => .nothing)
        (Procedure.recorded action begun ((procedure.logged log).send given)))
      (step.Accounts focus) := by
  refine yielding_logged (Procedure.recorded_logged log (procedure.send_logged log given) _ _) ?_
  have noLooks : Exchange.inputs [] = [] := rfl
  rintro result added ⟨_ | _, rfl, rfl⟩
  · exact .refused orders noLooks
  · exact .obeyed orders noLooks

theorem acting_on_focus_logged {step : Step} {input : Locator → Input} (procedure : Procedure σ)
    (orders : ∀ selector (locator : Locator), procedure.focus.widget = some selector →
      locator.selector = selector → step.order? procedure.focus = some (input locator).order)
    (action : Action) (begun : Nat) :
    Logs Procedure.logged log
      (yielding (fun _ => .nothing)
        (Procedure.recorded action begun (procedure.actOnFocus input)))
      (yielding (fun _ => .nothing)
        (Procedure.recorded action begun ((procedure.logged log).actOnFocus input)))
      (step.Accounts procedure.focus) := by
  have acts := procedure.actOnFocus_logged log input
  cases focused : procedure.focus.widget with
  | none =>
      simp only [focused] at acts
      refine yielding_logged (Procedure.recorded_logged log acts action begun) ?_
      rintro result added ⟨rfl, rfl⟩
      exact .failed rfl
  | some selector =>
      simp only [focused] at acts
      exact acting_logged (fun locator target => orders selector locator focused target) acts
        action begun

/-- Over a log a step does what it does without it, and what it asks of its backend goes with its
result. -/
theorem run_logged (step : Step) (procedure : Procedure σ) (log : List Exchange) :
    Logs Procedure.logged log (step.run procedure) (step.run (procedure.logged log))
      (step.Accounts procedure.focus) := by
  cases step with
  | click name role =>
      refine acting_logged (fun locator target => ?_)
        (procedure.actOn_logged log (.of name role) .click) _ _
      rw [Input.order, target]
      rfl
  | focusWindow window =>
      obtain ⟨looks, same, blind, found⟩ :=
        procedure.waitForAny_logged log (.anywhere window.selector) []
      refine looking_logged rfl ?_ _ _
      rw [same]
      generalize procedure.waitForAny (.anywhere window.selector) [] = outgo at found ⊢
      rcases outgo with ⟨error | value, after⟩
      · exact ⟨looks, rfl, blind, nofun⟩
      · refine ⟨looks, rfl, blind, fun _ => (found value rfl).imp ?_⟩
        rintro forest ⟨only, located⟩
        rw [← List.mem_singleton.mp only, located]
        rfl
  | focusWidget name =>
      obtain ⟨looks, same, blind, found⟩ := procedure.waitFor_logged log (.named name)
      refine looking_logged rfl ?_ _ _
      rw [same]
      generalize procedure.waitFor (.named name) = outgo at found ⊢
      rcases outgo with ⟨error | value, after⟩
      · exact ⟨looks, rfl, blind, nofun⟩
      · refine ⟨looks, rfl, blind, fun _ => (found value rfl).imp ?_⟩
        rintro forest ⟨member, located⟩
        exact ⟨value.1, member, by rw [located]; rfl⟩
  | widgetText =>
      refine yielding_logged (procedure.widgetText_logged log) ?_
      rintro (error | text) added ⟨blind, read⟩
      · exact .failed blind
      · obtain ⟨selector, focused, shows⟩ := read text rfl
        refine .looked rfl blind ⟨selector, focused, shows.imp ?_⟩ fun _ _ => rfl
        rintro forest ⟨locator, member, node, located, rfl⟩
        exact ⟨locator, member, node, located, rfl⟩
  | setWidgetText text =>
      refine acting_on_focus_logged procedure (fun selector locator focused target => ?_) _ _
      rw [order?, focused, Input.order, target]
      rfl
  | activate =>
      refine acting_on_focus_logged procedure (fun selector locator focused target => ?_) _ _
      rw [order?, focused, Input.order, target]
      rfl
  | assertWidgetText expected =>
      obtain ⟨looks, same, blind, read⟩ := procedure.widgetText_logged log
      refine looking_logged rfl ?_ _ _
      rw [same]
      generalize procedure.widgetText = outgo at read ⊢
      rcases outgo with ⟨error | actual, after⟩
      · exact ⟨looks, rfl, blind, nofun⟩
      · by_cases agrees : actual = expected
        · simp only [agrees, if_true]
          exact ⟨looks, rfl, blind, fun _ => agrees ▸ read actual rfl⟩
        · have focus : (after.logged (log ++ looks)).focus = after.focus := rfl
          simp only [agrees, if_false, focus]
          cases after.focus.widget <;> exact ⟨looks, rfl, blind, nofun⟩
  | typeText text => exact typing_logged procedure rfl _ _
  | keyCombo combo => exact typing_logged procedure rfl _ _
  | waitForNot name role =>
      obtain ⟨looks, same, blind, found⟩ :=
        procedure.waitUntilGone_logged log (procedure.focus.locator (.of name role))
      refine looking_logged rfl ⟨looks, same, blind, ?_⟩ _ _
      intro ended
      rw [ended] at found
      exact found () rfl
  | waitForClosed window =>
      obtain ⟨looks, same, blind, found⟩ :=
        procedure.waitUntilGone_logged log (.anywhere window.selector)
      refine looking_logged rfl ?_ _ _
      rw [same]
      generalize procedure.waitUntilGone (.anywhere window.selector) = outgo at found ⊢
      rcases outgo with ⟨error | _, after⟩
      · exact ⟨looks, rfl, blind, nofun⟩
      · have focus : (after.logged (log ++ looks)).focus = after.focus := rfl
        simp only [focus]
        split <;> exact ⟨looks, rfl, blind, fun _ => found () rfl⟩
  | waitFor selector =>
      refine yielding_logged (procedure.waitFor_logged log selector) ?_
      rintro (error | ⟨locator, node⟩) added ⟨blind, found⟩
      · exact .failed blind
      · refine .looked rfl blind ((found (locator, node) rfl).imp ?_) nofun
        rintro forest ⟨member, located⟩
        exact ⟨locator, member, node, located, rfl⟩
  | recordLaunch file duration outcome =>
      exact ⟨[], by rw [List.append_nil]; rfl, .looked rfl rfl trivial nofun⟩

end Step

/-! ## Focus -/

namespace Procedure

variable (procedure : Procedure σ)

theorem focus_send (given : Input) : (procedure.send given).2.focus = procedure.focus := by
  rw [send, ask]
  rcases procedure.scene.await (procedure.backend.perform procedure.app given) with
    ⟨_ | _, after⟩ <;> rfl

theorem focus_actOn (selector : Selector) (input : Locator → Input) :
    (procedure.actOn selector input).2.focus = procedure.focus := by
  have waited : (procedure.waitFor selector).2.focus = procedure.focus := rfl
  rw [actOn]
  generalize procedure.waitFor selector = outgo at waited ⊢
  rcases outgo with ⟨_ | ⟨locator, _⟩, found⟩
  · exact waited
  · exact (found.focus_send _).trans waited

theorem focus_actOnFocus (input : Locator → Input) :
    (procedure.actOnFocus input).2.focus = procedure.focus := by
  rw [actOnFocus]
  cases procedure.focus.widget with
  | none => rfl
  | some selector => exact procedure.focus_actOn selector input

theorem focus_widgetText : procedure.widgetText.2.focus = procedure.focus := by
  rw [widgetText]
  cases procedure.focus.widget with
  | none => rfl
  | some selector =>
      have waited : (procedure.waitFor selector).2.focus = procedure.focus := rfl
      dsimp only
      generalize procedure.waitFor selector = outgo at waited ⊢
      rcases outgo with ⟨_ | ⟨locator, _⟩, found⟩
      · exact waited
      · dsimp only
        rcases found.backend.textOf found.app locator found.scene with ⟨_ | _, after⟩ <;>
          exact waited

end Procedure

/-- A step that succeeds leaves its focus, and one that fails leaves the focus as it was. -/
theorem Step.focus_run (step : Step) (procedure : Procedure σ) :
    (step.run procedure).2.focus =
      match (step.run procedure).1 with
      | .ok _ => step.refocus procedure.focus
      | .error _ => procedure.focus := by
  have settled {focus : Focus} {result : Except RunError Yield} (same : focus = procedure.focus) :
      focus = match result with
        | .ok _ => procedure.focus
        | .error _ => procedure.focus := by
    cases result <;> exact same
  cases step with
  | click name role => exact settled (procedure.focus_actOn _ _)
  | focusWindow window =>
      rw [run, Procedure.focusWindow, Procedure.waitForAny]
      rcases Polling.waitForAny procedure.backend procedure.app procedure.patience
        (.anywhere window.selector) [] procedure.scene with ⟨_ | _, after⟩ <;> rfl
  | focusWidget name =>
      rw [run, Procedure.focusWidget, Procedure.waitFor, Procedure.waitForAny]
      rcases Polling.waitForAny procedure.backend procedure.app procedure.patience
        _ _ procedure.scene with ⟨_ | _, after⟩ <;> rfl
  | widgetText => exact settled procedure.focus_widgetText
  | setWidgetText text => exact settled (procedure.focus_actOnFocus _)
  | activate => exact settled (procedure.focus_actOnFocus _)
  | assertWidgetText expected =>
      have read := procedure.focus_widgetText
      refine settled ?_
      rw [run, Procedure.assertWidgetText]
      generalize procedure.widgetText = outgo at read ⊢
      rcases outgo with ⟨_ | actual, after⟩
      · exact read
      · dsimp only
        split
        · exact read
        · split <;> exact read
  | typeText text => exact settled (procedure.focus_send _)
  | keyCombo combo => exact settled (procedure.focus_send _)
  | waitForNot name role => exact settled rfl
  | waitForClosed window =>
      rw [run, Procedure.waitForClosed, Procedure.waitUntilGone]
      rcases Polling.waitUntilGone procedure.backend procedure.app procedure.patience
        (.anywhere window.selector) procedure.scene with ⟨_ | _, after⟩
      · rfl
      · by_cases focused : procedure.focus.window = some window <;>
          simp [Procedure.on, focused, refocus, yielding, Procedure.recorded, Procedure.enter,
            Except.map]
  | waitFor selector => exact settled rfl
  | recordLaunch file duration outcome => rfl

end Rehearsal
