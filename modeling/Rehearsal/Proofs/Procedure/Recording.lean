import Rehearsal.Procedure.Step
/-!
# What steps leave on the trail

Every step that acts leaves one entry on the trail, whichever way it ends, and the steps that only
look leave none. Nothing else ever changes the trail, so it tells a run of steps in their order.
-/

set_option autoImplicit false

namespace Rehearsal

variable {σ α β : Type}

namespace Procedure

/-- A procedure that has gone on in its scene and its focus alone. -/
def Continues (before after : Procedure σ) : Prop :=
  ∃ focus scene, after = { before with focus := focus, scene := scene }

theorem continues_on (procedure : Procedure σ) (scene : Scene σ) :
    procedure.Continues (procedure.on scene) :=
  ⟨procedure.focus, scene, rfl⟩

theorem Continues.refl (procedure : Procedure σ) : procedure.Continues procedure :=
  ⟨procedure.focus, procedure.scene, rfl⟩

theorem Continues.trans {first second third : Procedure σ} (earlier : first.Continues second)
    (later : second.Continues third) : first.Continues third := by
  obtain ⟨_, _, rfl⟩ := earlier
  obtain ⟨focus, scene, rfl⟩ := later
  exact ⟨focus, scene, rfl⟩

theorem Continues.refocused {before after : Procedure σ} (continues : before.Continues after)
    (focus : Focus) : before.Continues { after with focus := focus } := by
  obtain ⟨_, scene, rfl⟩ := continues
  exact ⟨focus, scene, rfl⟩

section

variable (procedure : Procedure σ)

theorem continues_ask (call : Nat → σ → Reply σ α) :
    procedure.Continues (procedure.ask call).2 := by
  rw [ask]
  rcases procedure.scene.await call with ⟨_ | _, after⟩ <;> exact procedure.continues_on after

theorem continues_waitForAny (first : Locator) (others : List Locator) :
    procedure.Continues (procedure.waitForAny first others).2 :=
  procedure.continues_on _

theorem continues_waitFor (selector : Selector) :
    procedure.Continues (procedure.waitFor selector).2 :=
  procedure.continues_waitForAny _ _

theorem continues_waitUntilGone (locator : Locator) :
    procedure.Continues (procedure.waitUntilGone locator).2 :=
  procedure.continues_on _

theorem continues_actOn (selector : Selector) (input : Locator → Input) :
    procedure.Continues (procedure.actOn selector input).2 := by
  have waited := procedure.continues_waitFor selector
  rw [actOn]
  generalize procedure.waitFor selector = outgo at waited ⊢
  rcases outgo with ⟨_ | ⟨locator, _⟩, found⟩
  · exact waited
  · exact waited.trans (found.continues_ask _)

theorem continues_actOnFocus (input : Locator → Input) :
    procedure.Continues (procedure.actOnFocus input).2 := by
  rw [actOnFocus]
  cases procedure.focus.widget with
  | none => exact .refl procedure
  | some selector => exact procedure.continues_actOn selector input

theorem continues_widgetText : procedure.Continues procedure.widgetText.2 := by
  rw [widgetText]
  cases procedure.focus.widget with
  | none => exact .refl procedure
  | some selector =>
      have waited := procedure.continues_waitFor selector
      dsimp only
      generalize procedure.waitFor selector = outgo at waited ⊢
      rcases outgo with ⟨_ | ⟨locator, _⟩, found⟩
      · exact waited
      · have read := found.continues_on
          (found.backend.textOf found.app locator found.scene).2
        dsimp only
        generalize found.backend.textOf found.app locator found.scene = answer at read ⊢
        rcases answer with ⟨_ | _, after⟩
        · exact waited.trans read
        · exact waited.trans read

end

end Procedure

/-! ## Entries -/

namespace Step

/-- What a step is entered as. The steps that only look are not entered. -/
def action? (app : String) : Step → Option Action
  | .click name role => some (.click name (some role))
  | .focusWindow ⟨.frame, name⟩ => some (.focusFrame name)
  | .focusWindow ⟨.dialog, name⟩ => some (.focusDialog name)
  | .focusWidget name => some (.focusWidget name)
  | .widgetText => none
  | .setWidgetText text => some (.setText text)
  | .activate => some .activate
  | .assertWidgetText expected => some (.assertText expected)
  | .typeText text => some (.typeText text)
  | .keyCombo combo => some (.keyCombo combo)
  | .waitForNot name role => some (.waitForNot name (some role))
  | .waitForClosed window => some (.waitForNot window.name (some window.kind.role))
  | .waitFor _ => none
  | .recordLaunch file _ _ => some (.launch app file)

/-- How a step is entered to have ended: as it did for its caller. A launch was made by others, who
say how it ended. -/
def outcome (result : Except RunError Yield) : Step → Outcome
  | .recordLaunch _ _ outcome => outcome
  | _ =>
    match result with
    | .ok _ => .success
    | .error error => .failure error.message

def duration (taken : Nat) : Step → Nat
  | .recordLaunch _ duration _ => duration
  | _ => taken

/-- Whether it is the procedure itself that carries the step out. -/
def IsOwn (step : Step) : Prop :=
  ∀ file duration outcome, step ≠ .recordLaunch file duration outcome

theorem IsOwn.outcome_map {step : Step} (own : step.IsOwn) (result : Except RunError α)
    (yield : α → Yield) : step.outcome (result.map yield) = Procedure.outcomeOf result := by
  cases step with
  | recordLaunch file duration outcome => exact absurd rfl (own file duration outcome)
  | _ => cases result <;> rfl

theorem IsOwn.duration_eq {step : Step} (own : step.IsOwn) (taken : Nat) :
    step.duration taken = taken := by
  cases step with
  | recordLaunch file duration outcome => exact absurd rfl (own file duration outcome)
  | _ => rfl

end Step

/-- A step that a procedure carries out. -/
structure Deed (σ : Type) where
  step : Step
  before : Procedure σ

namespace Deed

def result (deed : Deed σ) : Except RunError Yield := (deed.step.run deed.before).1

def after (deed : Deed σ) : Procedure σ := (deed.step.run deed.before).2

/-- The entry of a step, if it is entered. -/
def entered? (deed : Deed σ) : Option Entry :=
  (deed.step.action? deed.before.app).map fun action =>
    { identifier := deed.before.marks.identifier deed.before.trail.length
      time := deed.before.marks.time deed.after.scene.clock
      action
      outcome := deed.step.outcome deed.result
      duration := some (deed.step.duration (deed.after.scene.clock - deed.before.scene.clock)) }

/-- Whether a step is entered and has failed. -/
def fails (deed : Deed σ) : Bool :=
  (deed.step.action? deed.before.app).isSome && (deed.step.outcome deed.result).isFailure

theorem fails_eq_any (deed : Deed σ) : deed.fails = deed.entered?.any Entry.isFailure := by
  rw [fails, entered?]
  cases deed.step.action? deed.before.app <;> rfl

/-- What a step makes of the trail, and of what entries are made from. -/
structure Noted (deed : Deed σ) : Prop where
  trail : deed.after.trail = deed.before.trail ++ deed.entered?.toList
  app : deed.after.app = deed.before.app
  marks : deed.after.marks = deed.before.marks

theorem noted_of_continues {deed : Deed σ} (silent : deed.step.action? deed.before.app = none)
    (continues : deed.before.Continues deed.after) : deed.Noted := by
  obtain ⟨focus, scene, same⟩ := continues
  have noEntry : deed.entered? = none := by rw [entered?, silent]; rfl
  refine ⟨?_, ?_, ?_⟩
  · rw [noEntry, same]
    exact (List.append_nil _).symm
  · rw [same]
  · rw [same]

/-- A step that records what it has done leaves its entry, whatever that was. -/
theorem noted_of_recorded {deed : Deed σ} {action : Action} {outgo : Outgo σ Unit}
    (entered : deed.step.action? deed.before.app = some action)
    (own : deed.step.IsOwn) (continues : deed.before.Continues outgo.2)
    (recorded : deed.step.run deed.before =
      Step.yielding (fun _ => .nothing)
        (Procedure.recorded action deed.before.scene.clock outgo)) : deed.Noted := by
  obtain ⟨result, procedure⟩ := outgo
  obtain ⟨focus, scene, rfl⟩ := continues
  have after : deed.after =
      { deed.before with
        focus := focus
        scene := scene
        trail := deed.before.trail ++
          [⟨deed.before.marks.identifier deed.before.trail.length,
            deed.before.marks.time scene.clock, action, Procedure.outcomeOf result,
            some (scene.clock - deed.before.scene.clock)⟩] } := by
    rw [Deed.after, recorded]
    rfl
  have told : deed.result = result.map fun _ => .nothing := by rw [Deed.result, recorded]; rfl
  refine ⟨?_, by rw [after], by rw [after]⟩
  rw [entered?, entered, told, own.outcome_map, own.duration_eq, after]
  rfl

/-- Every step leaves its entry on the trail, if it is entered, and nothing else. -/
theorem noted (deed : Deed σ) : deed.Noted := by
  obtain ⟨step, procedure⟩ := deed
  cases step with
  | click name role =>
      exact noted_of_recorded rfl nofun (procedure.continues_actOn _ _) rfl
  | focusWindow window =>
      have waited := procedure.continues_waitForAny (.anywhere window.selector) []
      have entered : (Step.focusWindow window).action? procedure.app =
          some (Procedure.focusAction window) := by
        obtain ⟨kind, name⟩ := window
        cases kind <;> rfl
      refine noted_of_recorded entered nofun ?_ rfl
      -- The focus is given inside what is recorded, so the entry comes after it.
      generalize procedure.waitForAny (.anywhere window.selector) [] = outgo at waited ⊢
      rcases outgo with ⟨_ | _, found⟩
      · exact waited
      · exact waited.refocused _
  | focusWidget name =>
      have waited := procedure.continues_waitFor (.named name)
      refine noted_of_recorded rfl nofun ?_ rfl
      generalize procedure.waitFor (.named name) = outgo at waited ⊢
      rcases outgo with ⟨_ | _, found⟩
      · exact waited
      · exact waited.refocused _
  | widgetText => exact noted_of_continues rfl procedure.continues_widgetText
  | setWidgetText text =>
      exact noted_of_recorded rfl nofun (procedure.continues_actOnFocus _) rfl
  | activate =>
      exact noted_of_recorded rfl nofun (procedure.continues_actOnFocus _) rfl
  | assertWidgetText expected =>
      have read := procedure.continues_widgetText
      refine noted_of_recorded rfl nofun ?_ rfl
      generalize procedure.widgetText = outgo at read ⊢
      rcases outgo with ⟨_ | actual, after⟩
      · exact read
      · dsimp only at read ⊢
        split
        · exact read
        · split <;> exact read
  | typeText text =>
      exact noted_of_recorded rfl nofun (procedure.continues_ask _) rfl
  | keyCombo combo =>
      exact noted_of_recorded rfl nofun (procedure.continues_ask _) rfl
  | waitForNot name role =>
      exact noted_of_recorded rfl nofun (procedure.continues_waitUntilGone _) rfl
  | waitForClosed window =>
      have waited := procedure.continues_waitUntilGone (.anywhere window.selector)
      refine noted_of_recorded rfl nofun ?_ rfl
      generalize procedure.waitUntilGone (.anywhere window.selector) = outgo at waited ⊢
      rcases outgo with ⟨_ | _, after⟩
      · exact waited
      · dsimp only at waited ⊢
        split
        · exact waited.refocused _
        · exact waited
  | waitFor selector => exact noted_of_continues rfl (procedure.continues_waitFor selector)
  | recordLaunch file duration outcome => exact ⟨rfl, rfl, rfl⟩

end Deed

/-! ## Runs -/

namespace Step

/-- Carries out steps one after the other, also after one that fails. -/
def perform (steps : List Step) (procedure : Procedure σ) : Procedure σ :=
  steps.foldl (fun procedure step => (step.run procedure).2) procedure

/-- Every step with the procedure that carries it out. -/
def deeds : List Step → Procedure σ → List (Deed σ)
  | [], _ => []
  | step :: rest, procedure => ⟨step, procedure⟩ :: deeds rest (step.run procedure).2

theorem steps_deeds (steps : List Step) (procedure : Procedure σ) :
    (deeds steps procedure).map Deed.step = steps := by
  induction steps generalizing procedure with
  | nil => rfl
  | cons step rest ih => rw [deeds, List.map_cons, ih]

theorem trail_perform (steps : List Step) (procedure : Procedure σ) :
    (perform steps procedure).trail =
      procedure.trail ++ (deeds steps procedure).filterMap Deed.entered? := by
  induction steps generalizing procedure with
  | nil => exact (List.append_nil _).symm
  | cons step rest ih =>
      have first := (Deed.noted ⟨step, procedure⟩).trail
      calc (perform rest (step.run procedure).2).trail
          = (Deed.after ⟨step, procedure⟩).trail ++
              (deeds rest (step.run procedure).2).filterMap Deed.entered? := ih _
        _ = procedure.trail ++ (deeds (step :: rest) procedure).filterMap Deed.entered? := by
            rw [first, List.append_assoc, deeds, List.filterMap_cons]
            cases Deed.entered? ⟨step, procedure⟩ <;> rfl

theorem perform_append (earlier later : List Step) (procedure : Procedure σ) :
    perform (earlier ++ later) procedure = perform later (perform earlier procedure) :=
  List.foldl_append

end Step

/-- The last failure on a trail that tells some deeds is the entry of the last one that failed. -/
theorem Trail.lastFailure?_filterMap (deeds : List (Deed σ)) :
    Trail.lastFailure? (deeds.filterMap Deed.entered?) =
      (deeds.filter Deed.fails).getLast?.bind Deed.entered? := by
  have last : (deeds.filter Deed.fails).getLast? = deeds.reverse.find? Deed.fails := by
    rw [List.getLast?_eq_head?_reverse, ← List.filter_reverse, List.head?_filter]
  have same : (fun deed : Deed σ => deed.entered?.any Entry.isFailure) = Deed.fails :=
    funext fun deed => deed.fails_eq_any.symm
  rw [last, Trail.lastFailure?, ← List.filterMap_reverse, List.find?_filterMap, same]

/-- The trail of a run holds the entries of its steps in their order, of each step that acts one and
no others. What stands on it stays as it is, and the last failure on it is the entry of the last
step that failed. -/
theorem Procedure.trail_tells_steps (backend : Backend σ) (app : String) (patience : Patience)
    (marks : Marks) (scene : Scene σ) (steps : List Step) :
    let begun := Procedure.start backend app patience marks scene
    let deeds := Step.deeds steps begun
    let trail := (Step.perform steps begun).trail
    deeds.map Deed.step = steps ∧
    trail = deeds.filterMap Deed.entered? ∧
    (∀ count, (Step.perform (steps.take count) begun).trail <+: trail) ∧
    Trail.lastFailure? trail = (deeds.filter Deed.fails).getLast?.bind Deed.entered? := by
  intro begun deeds trail
  have told : trail = deeds.filterMap Deed.entered? := Step.trail_perform steps begun
  refine ⟨Step.steps_deeds steps begun, told, ?_, ?_⟩
  · intro count
    have whole : trail = (Step.perform (steps.take count) begun).trail ++
        (Step.deeds (steps.drop count) (Step.perform (steps.take count) begun)).filterMap
          Deed.entered? := by
      rw [← Step.trail_perform, ← Step.perform_append, List.take_append_drop]
    exact ⟨_, whole.symm⟩
  · rw [told]
    exact Trail.lastFailure?_filterMap deeds

end Rehearsal
