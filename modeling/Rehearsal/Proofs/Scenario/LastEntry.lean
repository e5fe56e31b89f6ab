import Rehearsal.Proofs.Procedure.Sighting
import Rehearsal.Proofs.Scenario.FailStop
/-!
# The last entry of a run that fails

A step that reports leaves an entry whichever way it ends, so a run of such steps that fails ends
its trail with the entry of the step that failed. All scenarios of the catalogue are made of such
steps but one, which reads a label. Nothing on the trail tells that the label cannot be read, or
that it is not the proper one.
-/

set_option autoImplicit false

namespace Rehearsal

variable {σ : Type}

/-! ## Trails -/

namespace Trail

/-- Whether the last entry tells of a failure with an error. -/
def EndsWith (trail : Trail) (error : RunError) : Prop :=
  ∃ entry, trail.getLast? = some entry ∧ entry.outcome = .failure error.message

/-- Whether a trail goes on from another one by a number of entries, all of successes. -/
def GrowsQuietly (before after : Trail) (count : Nat) : Prop :=
  ∃ quiet : List Entry, quiet.length = count ∧ after = before ++ quiet ∧
    ∀ entry ∈ quiet, entry.outcome = .success

theorem EndsWith.lastFailure?_eq {trail : Trail} {error : RunError} (ends : trail.EndsWith error) :
    trail.lastFailure? = trail.getLast? := by
  obtain ⟨entry, last, told⟩ := ends
  obtain ⟨earlier, rfl⟩ := List.getLast?_eq_some_iff.mp last
  have failed : entry.isFailure = true := by
    unfold Entry.isFailure
    rw [told]
    rfl
  rw [last, lastFailure?, List.reverse_append]
  exact List.find?_cons_of_pos failed

section

variable {first second third : Trail} {count more : Nat}

theorem GrowsQuietly.refl (trail : Trail) : trail.GrowsQuietly trail 0 :=
  ⟨[], rfl, (List.append_nil trail).symm, nofun⟩

theorem GrowsQuietly.trans (begun : first.GrowsQuietly second count)
    (goesOn : second.GrowsQuietly third more) : first.GrowsQuietly third (count + more) := by
  obtain ⟨quiet, rfl, rfl, silent⟩ := begun
  obtain ⟨others, rfl, rfl, silentToo⟩ := goesOn
  refine ⟨quiet ++ others, List.length_append, List.append_assoc .., ?_⟩
  exact List.forall_mem_append.mpr ⟨silent, silentToo⟩

theorem GrowsQuietly.not_endsWith (grows : first.GrowsQuietly second count) (positive : 0 < count)
    (error : RunError) : ¬ second.EndsWith error := by
  obtain ⟨quiet, rfl, rfl, silent⟩ := grows
  rintro ⟨entry, last, told⟩
  have present : quiet ≠ [] := List.ne_nil_of_length_pos positive
  rw [List.getLast?_append, List.getLast?_eq_some_getLast present] at last
  cases last
  have success := silent _ (List.getLast_mem present)
  cases success.symm.trans told

theorem GrowsQuietly.lastFailure?_eq (grows : first.GrowsQuietly second count) :
    second.lastFailure? = first.lastFailure? := by
  obtain ⟨quiet, _, rfl, silent⟩ := grows
  have noFailure : quiet.reverse.find? Entry.isFailure = none := by
    rw [List.find?_eq_none]
    intro entry member
    have success := silent entry (List.mem_reverse.mp member)
    simp [Entry.isFailure, Outcome.isFailure, success]
  rw [lastFailure?, lastFailure?, List.reverse_append, List.find?_append, noFailure, Option.none_or]

end

end Trail

/-! ## Steps that report -/

namespace Step

/-- Whether a step leaves an entry that tells how it has ended. -/
def reports : Step → Bool
  | .widgetText => false
  | .waitFor _ => false
  | .recordLaunch _ _ _ => false
  | _ => true

section

variable {step : Step} {steps : List Step}

theorem isSome_action?_of_reports (reports : step.reports = true) (app : String) :
    (step.action? app).isSome = true := by
  cases step with
  | focusWindow window =>
      obtain ⟨kind, name⟩ := window
      cases kind <;> rfl
  | widgetText => cases reports
  | waitFor selector => cases reports
  | _ => rfl

theorem exists_entry_of_reports (reports : step.reports = true) (procedure : Procedure σ) :
    ∃ entry, (step.run procedure).2.trail = procedure.trail ++ [entry] ∧
      entry.outcome = Procedure.outcomeOf (step.run procedure).1 := by
  let deed : Deed σ := ⟨step, procedure⟩
  have own : step.IsOwn := by
    rintro file duration outcome rfl
    cases reports
  obtain ⟨action, entered⟩ :=
    Option.isSome_iff_exists.mp (isSome_action?_of_reports reports procedure.app)
  have noted := deed.noted.trail
  rw [Deed.entered?, entered] at noted
  refine ⟨_, noted, ?_⟩
  have told := own.outcome_map deed.result id
  rwa [Except.map_id] at told

theorem texts_of_reports (reports : step.reports = true) {procedure : Procedure σ} {yield : Yield}
    (worked : (step.run procedure).1 = .ok yield) : yield.texts = [] := by
  have silent {α : Type} {result : Except RunError α}
      (mapped : result.map (fun _ => Yield.nothing) = .ok yield) : yield.texts = [] := by
    cases result with
    | error error => cases mapped
    | ok value =>
        cases mapped
        rfl
  cases step with
  | widgetText => cases reports
  | waitFor selector => cases reports
  | recordLaunch file duration outcome => cases reports
  | _ => exact silent worked

/-- What the trail tells of a run of steps that report, by what the run comes to. -/
inductive Reported (steps : List Step) (before : Trail) : Outgo σ (List String) → Prop where
  | passed {after : Procedure σ} (grows : before.GrowsQuietly after.trail steps.length) :
      Reported steps before (.ok [], after)
  | failed {error : RunError} {after : Procedure σ} (ends : after.trail.EndsWith error) :
      Reported steps before (.error error, after)

theorem reported_runAll (report : ∀ step ∈ steps, step.reports = true) (procedure : Procedure σ) :
    Reported steps procedure.trail (runAll steps procedure) := by
  induction steps generalizing procedure with
  | nil => exact .passed (.refl _)
  | cons step rest ih =>
      obtain ⟨first, others⟩ := List.forall_mem_cons.mp report
      obtain ⟨entry, grown, told⟩ := exists_entry_of_reports first procedure
      have silent := @texts_of_reports σ step first procedure
      rw [runAll_cons]
      generalize step.run procedure = outgo at grown told silent
      obtain ⟨error | yield, after⟩ := outgo
      · refine .failed ⟨entry, ?_, told⟩
        rw [grown]
        exact List.getLast?_concat
      · have quiet : procedure.trail.GrowsQuietly after.trail 1 :=
          ⟨[entry], rfl, grown, List.forall_mem_singleton.mpr told⟩
        have goesOn := ih others after
        dsimp only
        generalize runAll rest after = ended at goesOn
        cases goesOn with
        | @passed final grows =>
            have nothing : collect yield (.ok []) = .ok [] := by
              cases yield with
              | text text => cases silent rfl
              | _ => rfl
            rw [nothing]
            refine .passed ?_
            rw [List.length_cons, Nat.add_comm]
            exact quiet.trans grows
        | @failed error final ends =>
            have same : collect yield (.error error) = .error error := by cases yield <;> rfl
            rw [same]
            exact .failed ends

end

/-- A run over two scripts is a run over the first and, if that succeeds, one over the second. -/
theorem runAll_append (first second : List Step) (procedure : Procedure σ) :
    runAll (first ++ second) procedure =
      match runAll first procedure with
      | (.error error, after) => (.error error, after)
      | (.ok texts, after) =>
        ((runAll second after).1.map (texts ++ ·), (runAll second after).2) := by
  induction first generalizing procedure with
  | nil =>
      rw [List.nil_append, runAll]
      dsimp only [List.nil_append]
      rcases runAll second procedure with ⟨error | texts, after⟩ <;> rfl
  | cons step rest ih =>
      rw [List.cons_append, runAll_cons, runAll_cons]
      rcases step.run procedure with ⟨error | yield, after⟩
      · rfl
      · dsimp only
        rw [ih]
        rcases runAll rest after with ⟨error | texts, mid⟩
        · cases yield <;> rfl
        · cases yield <;> dsimp only [collect, Except.map]
          all_goals rcases runAll second mid with ⟨error | more, final⟩ <;> rfl

theorem runAll_widgetText_cons (rest : List Step) (procedure : Procedure σ) :
    runAll (.widgetText :: rest) procedure =
      match procedure.widgetText with
      | (.error error, after) => (.error error, after)
      | (.ok shown, read) =>
        ((runAll rest read).1.map (shown :: ·), (runAll rest read).2) := by
  rw [runAll_cons, run]
  rcases procedure.widgetText with ⟨error | shown, read⟩ <;> rfl

end Step

theorem Procedure.trail_widgetText (procedure : Procedure σ) :
    procedure.widgetText.2.trail = procedure.trail := by
  obtain ⟨focus, scene, same⟩ := procedure.continues_widgetText
  rw [same]

/-! ## The catalogue -/

namespace Catalogue

/-- What is done before the label is read. -/
def labelSteps : List Step :=
  [.focusWidget "page-label-entry", .setWidgetText "iii", .activate]

/-- How a run fails for its label alone: the label cannot be read, or it is not the proper one and
the viewer has been closed all the same. -/
inductive MissesLabel (procedure : Procedure σ) : RunError → Procedure σ → Prop where
  | unread {left after : Procedure σ} {error : RunError}
      (entered : Step.runAll labelSteps procedure = (.ok [], left))
      (failed : left.widgetText = (.error error, after)) : MissesLabel procedure error after
  | improper {left read after : Procedure σ} {shown : String}
      (entered : Step.runAll labelSteps procedure = (.ok [], left))
      (reads : left.widgetText = (.ok shown, read)) (other : shown ≠ "III")
      (closed : Step.runAll closeWindow read = (.ok [], after)) :
      MissesLabel procedure
        (.assertionFailed <|
          s!"page label entry shows {Text.quote shown} after entering \"iii\", " ++
            "expected \"III\"") after

section

variable {scenario : Scenario} {procedure after : Procedure σ} {error : RunError}

theorem reports_labelSteps : ∀ step ∈ labelSteps, step.reports = true := by decide

theorem reports_closeWindow : ∀ step ∈ closeWindow, step.reports = true := by decide

/-- A label that is missed leaves the trail as if every step had succeeded. -/
theorem MissesLabel.grows (misses : MissesLabel procedure error after) :
    ∃ count, 0 < count ∧ procedure.trail.GrowsQuietly after.trail count := by
  have entering := Step.reported_runAll reports_labelSteps procedure
  cases misses with
  | @unread left _ _ entered failed =>
      rw [entered] at entering
      cases entering with
      | passed grows =>
          have kept := left.trail_widgetText
          rw [failed] at kept
          dsimp only at kept
          rw [kept]
          exact ⟨_, by decide, grows⟩
  | @improper left read _ shown entered reads other closed =>
      have closing := Step.reported_runAll reports_closeWindow read
      rw [entered] at entering
      rw [closed] at closing
      cases entering with
      | passed grows =>
          cases closing with
          | passed goesOn =>
              have kept := left.trail_widgetText
              rw [reads] at kept
              dsimp only at kept
              rw [kept] at goesOn
              exact ⟨_, by decide, grows.trans goesOn⟩

theorem judge_label (shown : String) :
    fileReloading.judge (.ok [shown]) =
      if shown = "III" then .ok ()
      else
        .error <| .assertionFailed <|
          s!"page label entry shows {Text.quote shown} after entering \"iii\", " ++
            "expected \"III\"" := by
  by_cases proper : shown = "III"
  · rw [if_pos proper, proper]
    rfl
  · have improper : shown ≠ properLabel := proper
    simp only [Scenario.judge, fileReloading, if_neg proper, if_neg improper]
    rfl

theorem fileReloading_tells (failed : fileReloading.run procedure = (.error error, after)) :
    after.trail.EndsWith error ∨ MissesLabel procedure error after := by
  have entering := Step.reported_runAll reports_labelSteps procedure
  have script : fileReloading.script procedure.app = labelSteps ++ .widgetText :: closeWindow := rfl
  rw [Scenario.run_eq_judge, script, Step.runAll_append] at failed
  rcases entered : Step.runAll labelSteps procedure with ⟨fault | texts, left⟩
  · rw [entered] at entering failed
    cases entering with
    | failed ends =>
        cases failed
        exact .inl ends
  · rw [entered] at entering failed
    cases entering with
    | passed _ =>
        dsimp only at failed
        rw [Step.runAll_widgetText_cons] at failed
        rcases reads : left.widgetText with ⟨fault | shown, read⟩
        · rw [reads] at failed
          cases failed
          exact .inr (.unread entered reads)
        · have closing := Step.reported_runAll reports_closeWindow read
          rw [reads] at failed
          dsimp only at failed
          rcases closed : Step.runAll closeWindow read with ⟨fault | texts, final⟩
          · rw [closed] at closing failed
            cases closing with
            | failed ends =>
                cases failed
                exact .inl ends
          · rw [closed] at closing failed
            cases closing with
            | passed _ =>
                dsimp only [Except.map, List.nil_append] at failed
                rw [judge_label] at failed
                by_cases proper : shown = "III"
                · rw [if_pos proper] at failed
                  cases failed
                · rw [if_neg proper] at failed
                  cases failed
                  exact .inr (.improper entered reads proper closed)

/-- All scenarios but the one that reads a label are made of steps that report, and have no verdict
of their own. -/
theorem reports_of_ne (listed : scenario ∈ all) (other : scenario.name ≠ "file-reloading")
    (app : String) :
    scenario.verdict = always ∧ ∀ step ∈ scenario.script app, step.reports = true := by
  rw [← List.all_eq_true]
  simp only [all, List.mem_cons, List.not_mem_nil, or_false] at listed
  rcases listed with rfl | rfl | rfl | rfl | rfl | rfl | rfl | rfl | rfl | rfl
  case inr.inr.inr.inr.inl => exact absurd rfl other
  all_goals exact ⟨rfl, rfl⟩

theorem endsWith_of_ne (listed : scenario ∈ all) (other : scenario.name ≠ "file-reloading")
    (failed : scenario.run procedure = (.error error, after)) : after.trail.EndsWith error := by
  obtain ⟨silent, report⟩ := reports_of_ne listed other procedure.app
  have reported := Step.reported_runAll report procedure
  rw [Scenario.run_eq_judge] at failed
  generalize Step.runAll (scenario.script procedure.app) procedure = outgo at reported failed
  cases reported with
  | passed grows =>
      simp only [Scenario.judge, silent, always] at failed
      cases failed
  | failed ends =>
      cases failed
      exact ends

theorem eq_fileReloading (listed : scenario ∈ all) (named : scenario.name = "file-reloading") :
    scenario = fileReloading := by
  simp only [all, List.mem_cons, List.not_mem_nil, or_false] at listed
  rcases listed with rfl | rfl | rfl | rfl | rfl | rfl | rfl | rfl | rfl | rfl
  case inr.inr.inr.inr.inl => rfl
  all_goals exact absurd named (by decide)

/-- A run of the catalogue that fails ends its trail with the failure of the step that failed, and
a report names that step, unless the scenario reads a label and fails for that label alone: then all
entries of the run are successes, and the report names no step of it. -/
theorem trail_ends_with_failed_step (listed : scenario ∈ all)
    (failed : scenario.run procedure = (.error error, after)) :
    let misses := scenario.name = "file-reloading" ∧ MissesLabel procedure error after
    (¬ misses → after.trail.EndsWith error ∧ after.trail.lastFailure? = after.trail.getLast?) ∧
    (misses → ¬ after.trail.EndsWith error ∧
      after.trail.lastFailure? = procedure.trail.lastFailure?) := by
  intro misses
  constructor
  · intro noticed
    have ends : after.trail.EndsWith error := by
      by_cases named : scenario.name = "file-reloading"
      · obtain rfl := eq_fileReloading listed named
        obtain ends | missed := fileReloading_tells failed
        · exact ends
        · exact absurd ⟨named, missed⟩ noticed
      · exact endsWith_of_ne listed named failed
    exact ⟨ends, ends.lastFailure?_eq⟩
  · rintro ⟨-, missed⟩
    obtain ⟨count, positive, grows⟩ := missed.grows
    exact ⟨grows.not_endsWith positive error, grows.lastFailure?_eq⟩

/-- A stage whose label stays as it was typed. -/
def keepingLabels : Procedure Stage :=
  let windows : Forest :=
    [Node.of "File" Role.menu [Node.leaf "Close" Role.menuItem],
      Node.bearing "page-label-entry" Role.text "1"]
  .start Stage.backend "viewer" rehearsalPatience ⟨fun _ => ⟨[]⟩, fun _ => default⟩
    ⟨.bare windows, 0⟩

theorem trail_ends_with_failed_step_mislabelled :
    let shown := Text.quote "iii"
    let error := RunError.assertionFailed <|
      s!"page label entry shows {shown} after entering \"iii\", " ++ "expected \"III\""
    let after := (fileReloading.run keepingLabels).2
    fileReloading ∈ all ∧ fileReloading.run keepingLabels = (.error error, after) ∧
      ¬ after.trail.EndsWith error ∧ after.trail.lastFailure? = none := by
  intro shown error after
  have listed : fileReloading ∈ all := by simp [all]
  have failed : fileReloading.run keepingLabels = (.error error, after) := Prod.ext rfl rfl
  have missed : MissesLabel keepingLabels error after :=
    .improper (Prod.ext rfl rfl) (Prod.ext rfl rfl) (by decide) (Prod.ext rfl rfl)
  obtain ⟨-, untold⟩ := trail_ends_with_failed_step listed failed
  exact ⟨listed, failed, untold ⟨rfl, missed⟩⟩

end

end Catalogue

end Rehearsal
