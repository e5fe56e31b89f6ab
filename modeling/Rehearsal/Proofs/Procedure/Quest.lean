import Rehearsal.Proofs.Procedure.Waiting
import Rehearsal.Procedure.Step
/-!
# Quests

What a step waits for before it does anything else is one quest of two kinds: that a widget shows at
one of some places, or that it is gone from one. Both take the same looks in the same order and end
at the first look that settles them.
-/

set_option autoImplicit false

namespace Rehearsal

variable {σ α β : Type}

inductive Quest where
  /-- A widget is there, in the first place or in another. -/
  | presence (first : Locator) (others : List Locator)
  | absence (locator : Locator)

namespace Quest

open Polling (Move Round plan lookUp lookAway repeatRound elapsed)

/-- Where it is looked in every round. -/
def candidates : Quest → List Locator
  | .presence first others => first :: others
  | .absence locator => [locator]

/-- Whether a tree has what is waited for at a place. -/
def meets : Quest → Locator → Forest → Bool
  | .presence _ _, locator, forest => (forest.locate? locator).isSome
  | .absence _, locator, forest => (forest.locate? locator).isNone

/-- The looks that may be taken, with the pauses between the rounds. -/
def moves (quest : Quest) (patience : Patience) : List Move := plan quest.candidates patience.rounds

/-- What the answer to a look settles: it is what is waited for, or tells that the backend is gone.
-/
def settled (quest : Quest) (locator : Locator) :
    Except BackendError Forest → Option (Except BackendError Unit)
  | .ok forest => if quest.meets locator forest then some (.ok ()) else none
  | .error error => if error.isFatal then some (.error error) else none

/-- What looks come to, up to the first that settles a quest. -/
structure Pursuit (σ : Type) where
  /-- The scenes in which the tree is asked for. -/
  asked : List (Scene σ)
  outcome : Round Unit × Scene σ

def pursue (quest : Quest) (backend : Backend σ) (app : String) (backoff : Nat) :
    List Move → Scene σ → Pursuit σ
  | [], scene => ⟨[], (.ok none, scene)⟩
  | .pause :: rest, scene => pursue quest backend app backoff rest (scene.pause backoff)
  | .look locator :: rest, scene =>
    let answered := scene.await (backend.dump app)
    match quest.settled locator answered.1 with
    | some result => ⟨[scene], (result.map some, answered.2)⟩
    | none =>
      let later := pursue quest backend app backoff rest answered.2
      { later with asked := scene :: later.asked }

/-! ## Waits are pursuits -/

/-- A round without what it has found. -/
def forget (outcome : Round α × Scene σ) : Round Unit × Scene σ :=
  (outcome.1.map (Option.map fun _ => ()), outcome.2)

section

variable {backend : Backend σ} {app : String} {backoff : Nat}

theorem pursue_append (quest : Quest) (first second : List Move) (scene : Scene σ) :
    (quest.pursue backend app backoff (first ++ second) scene).outcome =
      Polling.orElse (quest.pursue backend app backoff first scene).outcome
        fun after => (quest.pursue backend app backoff second after).outcome := by
  induction first generalizing scene with
  | nil => rfl
  | cons move first ih =>
      cases move with
      | pause => exact ih _
      | look locator =>
          rw [List.cons_append, pursue, pursue]
          rcases quest.settled locator (scene.await (backend.dump app)).1 with _ | _ | _
          · exact ih _
          · rfl
          · rfl

/-- Rounds that pursue a quest are a pursuit through the whole plan. -/
theorem forget_repeatRound {quest : Quest} {round : Scene σ → Round α × Scene σ}
    {candidates : List Locator}
    (pursues : ∀ scene, forget (round scene) =
      (quest.pursue backend app backoff (candidates.map .look) scene).outcome)
    (rounds : Nat) (scene : Scene σ) :
    forget (repeatRound round backoff rounds scene) =
      (quest.pursue backend app backoff (plan candidates rounds) scene).outcome := by
  induction rounds generalizing scene with
  | zero => rfl
  | succ rounds ih =>
      rw [repeatRound]
      -- The last round has no pause after it, in the loop as in the plan.
      cases rounds with
      | zero =>
          rw [Polling.plan_one, ← pursues]
          rcases round scene with ⟨_ | _ | found, after⟩ <;> rfl
      | succ rounds =>
          rw [Polling.plan_succ_succ, pursue_append, ← pursues]
          rcases round scene with ⟨_ | _ | found, after⟩
          · rfl
          · exact ih (after.pause backoff)
          · rfl

theorem forget_lookUp (first : Locator) (others candidates : List Locator) (scene : Scene σ) :
    forget (lookUp backend app candidates scene) =
      ((presence first others).pursue backend app backoff (candidates.map .look) scene).outcome := by
  induction candidates generalizing scene with
  | nil => rfl
  | cons locator rest ih =>
      rw [lookUp, List.map_cons, pursue, Backend.find]
      rcases scene.await (backend.dump app) with ⟨error | forest, after⟩
      · cases fatal : error.isFatal with
        | true => simp [settled, fatal, forget, Except.map]
        | false => simpa [settled, fatal] using ih after
      · cases located : forest.locate? locator with
        | none => simpa [settled, meets, located] using ih after
        | some node => simp [settled, meets, located, forget, Except.map]

theorem forget_lookAway (locator : Locator) (scene : Scene σ) :
    forget (lookAway backend app locator scene) =
      ((absence locator).pursue backend app backoff [.look locator] scene).outcome := by
  rw [lookAway, pursue, Backend.find]
  rcases scene.await (backend.dump app) with ⟨error | forest, after⟩
  · cases fatal : error.isFatal with
    | true => simp [settled, fatal, forget, Except.map]
    | false => simp [settled, fatal, forget, Except.map, pursue]
  · cases located : forest.locate? locator with
    | none => simp [settled, meets, located, forget, Except.map]
    | some node => simp [settled, meets, located, forget, Except.map, pursue]

end

/-- How a quest fails that nothing has settled. -/
def failure (waited : Elapsed) : Quest → RunError
  | .presence first _ => .widgetNotFound first.label waited
  | .absence locator =>
    .assertionFailed s!"{locator.label} still present after {waited.milliseconds}ms"

/-- Whether an error is of the kind with which the quest fails that nothing has settled. -/
def Fails : Quest → RunError → Prop
  | .presence _ _, error => ∃ what waited, error = .widgetNotFound what waited
  | .absence _, error => ∃ message, error = .assertionFailed message

/-! ## The quests of steps -/

/-- What a procedure does on a quest. -/
def run (quest : Quest) (procedure : Procedure σ) : Pursuit σ :=
  quest.pursue procedure.backend procedure.app procedure.patience.backoff
    (quest.moves procedure.patience) procedure.scene

/-- Whether a step that begins with a quest comes to what the quest comes to. -/
structure Begins (quest : Quest) (procedure : Procedure σ) (outgo : Outgo σ α) : Prop where
  settled : (quest.run procedure).outcome.1 = .ok (some ()) →
    ∀ error, outgo.1 = .error error → ¬ quest.Fails error
  unsettled : (quest.run procedure).outcome.1 = .ok none →
    outgo.1 = .error (quest.failure (elapsed procedure.scene (quest.run procedure).outcome.2)) ∧
      outgo.2.scene = (quest.run procedure).outcome.2
  gone : ∀ error, (quest.run procedure).outcome.1 = .error error →
    outgo.1 = .error (.backend error) ∧ outgo.2.scene = (quest.run procedure).outcome.2

section

variable {quest : Quest} {procedure : Procedure σ}

theorem Begins.recorded {outgo : Outgo σ Unit} (begins : quest.Begins procedure outgo)
    (action : Action) (begun : Nat) :
    quest.Begins procedure (Procedure.recorded action begun outgo) :=
  ⟨begins.settled, begins.unsettled, begins.gone⟩

/-- What goes on from a wait with what has been found, and fails as the wait does, begins with the
quest of the wait, unless it fails like the quest later. -/
theorem Begins.goOn {waited : Outgo σ α} {outgo : Outgo σ β}
    (begins : quest.Begins procedure waited)
    (found : ∀ value after, waited = (.ok value, after) →
      ∀ error, outgo.1 = .error error → ¬ quest.Fails error)
    (failed : ∀ error after, waited = (.error error, after) → outgo = (.error error, after)) :
    quest.Begins procedure outgo := by
  obtain ⟨result, after⟩ := waited
  cases result with
  | error error =>
      rw [failed error after rfl]
      refine ⟨?_, ?_, ?_⟩
      · intro settled failure told
        cases told
        exact begins.settled settled error rfl
      · intro unsettled
        obtain ⟨told, same⟩ := begins.unsettled unsettled
        cases told
        exact ⟨rfl, same⟩
      · intro fault gone
        obtain ⟨told, same⟩ := begins.gone fault gone
        cases told
        exact ⟨rfl, same⟩
  | ok value =>
      refine ⟨?_, ?_, ?_⟩
      · intro _
        exact found value after rfl
      · intro unsettled
        cases (begins.unsettled unsettled).1
      · intro fault gone
        cases (begins.gone fault gone).1

theorem Begins.yielding {outgo : Outgo σ α} (begins : quest.Begins procedure outgo)
    (yield : α → Yield) : quest.Begins procedure (Step.yielding yield outgo) := by
  refine begins.goOn ?_ ?_
  · intro value after found error failed
    rw [found] at failed
    cases failed
  · intro error after failed
    rw [failed]
    rfl

/-- A wait that takes the looks of a quest and is told as such begins with the quest. -/
theorem begins_of_forget {outgo : Outgo σ β} {outcome : Round α × Scene σ}
    (looked : (quest.run procedure).outcome = forget outcome)
    (found : ∀ value after, outcome = (.ok (some value), after) → ∃ yield, outgo.1 = .ok yield)
    (missed : ∀ after, outcome = (.ok none, after) →
      outgo = (.error (quest.failure (elapsed procedure.scene after)), procedure.on after))
    (lost : ∀ error after, outcome = (.error error, after) →
      outgo = (.error (.backend error), procedure.on after)) :
    quest.Begins procedure outgo := by
  rcases outcome with ⟨error | _ | value, after⟩
  · have told := lost error after rfl
    refine ⟨?_, ?_, ?_⟩ <;> rw [looked]
    · nofun
    · nofun
    · intro other same
      cases same
      rw [told]
      exact ⟨rfl, rfl⟩
  · have told := missed after rfl
    refine ⟨?_, ?_, ?_⟩ <;> rw [looked]
    · nofun
    · intro _
      rw [told]
      exact ⟨rfl, rfl⟩
    · nofun
  · obtain ⟨yield, told⟩ := found value after rfl
    refine ⟨?_, ?_, ?_⟩ <;> rw [looked]
    · intro _ error failed
      rw [told] at failed
      cases failed
    · nofun
    · nofun

end

theorem begins_waitForAny (procedure : Procedure σ) (first : Locator) (others : List Locator) :
    (presence first others).Begins procedure (procedure.waitForAny first others) := by
  refine begins_of_forget
    (forget_repeatRound (forget_lookUp first others (first :: others)) procedure.patience.rounds
      procedure.scene).symm ?_ ?_ ?_
  · intro found after looked
    exact ⟨found, by rw [Procedure.waitForAny, Polling.waitForAny, looked]⟩
  · intro after looked
    rw [Procedure.waitForAny, Polling.waitForAny, looked]
    rfl
  · intro error after looked
    rw [Procedure.waitForAny, Polling.waitForAny, looked]

theorem begins_waitUntilGone (procedure : Procedure σ) (locator : Locator) :
    (absence locator).Begins procedure (procedure.waitUntilGone locator) := by
  refine begins_of_forget
    (forget_repeatRound (forget_lookAway locator) procedure.patience.rounds procedure.scene).symm
    ?_ ?_ ?_
  · intro found after looked
    exact ⟨found, by rw [Procedure.waitUntilGone, Polling.waitUntilGone, looked]⟩
  · intro after looked
    rw [Procedure.waitUntilGone, Polling.waitUntilGone, looked]
    rfl
  · intro error after looked
    rw [Procedure.waitUntilGone, Polling.waitUntilGone, looked]

end Quest

/-- What is waited for when a selector is looked for in the window that has focus or else anywhere.
-/
def Focus.quest (focus : Focus) (selector : Selector) : Quest :=
  .presence (focus.locator selector) (focus.fallbacks selector)

/-! ## Steps begin with their quests -/

namespace Procedure

variable {procedure : Procedure σ}

theorem not_fails_send {input : Input} {error : RunError}
    (failed : (procedure.send input).1 = .error error) (first : Locator) (others : List Locator) :
    ¬ (Quest.presence first others).Fails error := by
  rintro ⟨what, waited, rfl⟩
  rw [send, ask] at failed
  generalize procedure.scene.await (procedure.backend.perform procedure.app input) = asked at failed
  obtain ⟨_ | _, after⟩ := asked <;> cases failed

theorem begins_actOn (procedure : Procedure σ) (selector : Selector) (input : Locator → Input) :
    (procedure.focus.quest selector).Begins procedure (procedure.actOn selector input) := by
  refine (Quest.begins_waitForAny procedure _ _).goOn ?_ ?_
  · rintro ⟨locator, node⟩ found waited error failed
    rw [actOn, waitFor, waited] at failed
    exact not_fails_send failed _ _
  · intro error after waited
    rw [actOn, waitFor, waited]

theorem begins_actOnFocus {selector : Selector} (focused : procedure.focus.widget = some selector)
    (input : Locator → Input) :
    (procedure.focus.quest selector).Begins procedure (procedure.actOnFocus input) := by
  rw [actOnFocus, focused]
  exact begins_actOn procedure selector input

theorem begins_focusWindow (procedure : Procedure σ) (window : Window) :
    (Quest.presence (.anywhere window.selector) []).Begins procedure
      (procedure.focusWindow window) := by
  refine .recorded ((Quest.begins_waitForAny procedure _ _).goOn ?_ ?_) _ _
  · intro value found waited error failed
    rw [waited] at failed
    cases failed
  · intro error after waited
    rw [waited]

theorem begins_focusWidget (procedure : Procedure σ) (name : String) :
    (procedure.focus.quest (.named name)).Begins procedure (procedure.focusWidget name) := by
  refine .recorded ((Quest.begins_waitForAny procedure _ _).goOn ?_ ?_) _ _
  · intro value found waited error failed
    rw [waitFor, waited] at failed
    cases failed
  · intro error after waited
    rw [waitFor, waited]

theorem begins_widgetText {selector : Selector} (focused : procedure.focus.widget = some selector) :
    (procedure.focus.quest selector).Begins procedure procedure.widgetText := by
  refine (Quest.begins_waitForAny procedure _ _).goOn ?_ ?_
  · rintro ⟨locator, node⟩ found waited error failed ⟨what, time, rfl⟩
    rw [widgetText, focused] at failed
    dsimp only at failed
    rw [waitFor, waited] at failed
    dsimp only at failed
    generalize found.backend.textOf found.app locator found.scene = read at failed
    obtain ⟨_ | _, after⟩ := read <;> cases failed
  · intro error after waited
    rw [widgetText, focused]
    dsimp only
    rw [waitFor, waited]

theorem begins_assertWidgetText {selector : Selector}
    (focused : procedure.focus.widget = some selector) (expected : String) :
    (procedure.focus.quest selector).Begins procedure (procedure.assertWidgetText expected) := by
  refine .recorded ((begins_widgetText focused).goOn ?_ ?_) _ _
  · rintro actual after waited error failed ⟨what, time, rfl⟩
    rw [waited] at failed
    dsimp only at failed
    split at failed
    · cases failed
    · split at failed <;> cases failed
  · intro error after waited
    rw [waited]

theorem begins_waitForClosed (procedure : Procedure σ) (window : Window) :
    (Quest.absence (.anywhere window.selector)).Begins procedure
      (procedure.waitForClosed window) := by
  refine .recorded ((Quest.begins_waitUntilGone procedure _).goOn ?_ ?_) _ _
  · intro value after waited error failed
    rw [waited] at failed
    dsimp only at failed
    split at failed <;> cases failed
  · intro error after waited
    rw [waited]

end Procedure

namespace Step

/-- What a step waits for before it does anything else. -/
def quest? (focus : Focus) : Step → Option Quest
  | .click name role => some (focus.quest (.of name role))
  | .focusWindow window => some (.presence (.anywhere window.selector) [])
  | .focusWidget name => some (focus.quest (.named name))
  | .widgetText => focus.widget.map focus.quest
  | .setWidgetText _ => focus.widget.map focus.quest
  | .activate => focus.widget.map focus.quest
  | .assertWidgetText _ => focus.widget.map focus.quest
  | .typeText _ => none
  | .keyCombo _ => none
  | .waitForNot name role => some (.absence (focus.locator (.of name role)))
  | .waitForClosed window => some (.absence (.anywhere window.selector))
  | .waitFor selector => some (focus.quest selector)
  | .recordLaunch _ _ _ => none

/-- A step comes to what its quest comes to, if it has one. -/
theorem begins_run {step : Step} {procedure : Procedure σ} {quest : Quest}
    (seeks : step.quest? procedure.focus = some quest) :
    quest.Begins procedure (step.run procedure) := by
  cases step with
  | click name role =>
      cases seeks
      exact (Procedure.begins_actOn _ _ _).recorded _ _ |>.yielding _
  | focusWindow window =>
      cases seeks
      exact (Procedure.begins_focusWindow _ _).yielding _
  | focusWidget name =>
      cases seeks
      exact (Procedure.begins_focusWidget _ _).yielding _
  | widgetText =>
      obtain ⟨selector, focused, rfl⟩ := Option.map_eq_some_iff.mp seeks
      exact (Procedure.begins_widgetText focused).yielding _
  | setWidgetText text =>
      obtain ⟨selector, focused, rfl⟩ := Option.map_eq_some_iff.mp seeks
      exact (Procedure.begins_actOnFocus focused _).recorded _ _ |>.yielding _
  | activate =>
      obtain ⟨selector, focused, rfl⟩ := Option.map_eq_some_iff.mp seeks
      exact (Procedure.begins_actOnFocus focused _).recorded _ _ |>.yielding _
  | assertWidgetText expected =>
      obtain ⟨selector, focused, rfl⟩ := Option.map_eq_some_iff.mp seeks
      exact (Procedure.begins_assertWidgetText focused _).yielding _
  | typeText text => cases seeks
  | keyCombo combo => cases seeks
  | waitForNot name role =>
      cases seeks
      exact (Quest.begins_waitUntilGone _ _).recorded _ _ |>.yielding _
  | waitForClosed window =>
      cases seeks
      exact (Procedure.begins_waitForClosed _ _).yielding _
  | waitFor selector =>
      cases seeks
      exact (Quest.begins_waitForAny _ _ _).yielding _
  | recordLaunch file duration outcome => cases seeks

end Step

end Rehearsal
