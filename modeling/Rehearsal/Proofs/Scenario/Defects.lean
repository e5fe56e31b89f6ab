import Rehearsal.Proofs.Scenario.Passwords
/-!
# The defects that scenarios detect

Each scenario of the catalogue fails on a viewer exactly when the viewer has a defect that the
scenario looks for, whatever its other habits, and closes the viewer when it passes.
-/

set_option autoImplicit false

namespace Rehearsal

open Viewer Catalogue

variable {habits : Habits}

namespace Catalogue

/-- Whether a scenario passes on viewers of some habits exactly if they are sound in its sense, and
closes the viewer when it does. -/
structure Detects (habits : Habits) (app : String) (scenario : Scenario) (sound : Prop) : Prop where
  passes : sound → ∃ texts, scenario.verdict texts = none ∧
    EndsClosed texts (scenario.rehearse habits app)
  fails : ¬ sound → ∀ texts after, scenario.rehearse habits app = some (texts, after) →
    scenario.verdict texts ≠ none

theorem Detects.of_stops {app : String} {scenario : Scenario} {sound : Prop}
    (silent : scenario.verdict = always)
    (passes : sound → EndsClosed [] (scenario.rehearse habits app))
    (stops : ¬ sound → scenario.rehearse habits app = none) :
    Detects habits app scenario sound where
  passes := fun holds => ⟨[], congrFun silent [], passes holds⟩
  fails := by
    intro unsound texts after ended
    cases (stops unsound).symm.trans ended

theorem Detects.run {app : String} {scenario : Scenario} {sound : Prop}
    {procedure : Procedure Viewer} (detects : Detects habits app scenario sound)
    (drives : procedure.Drives habits (launched app scenario.fixture))
    (named : procedure.app = app) (unfocused : procedure.focus = .none) :
    ((scenario.run procedure).1 = .ok () ↔ sound) ∧
      ((scenario.run procedure).1 = .ok () →
        (scenario.run procedure).2.scene.state.closed = true) := by
  have ran := scenario.run_on_viewer drives
  rw [named, unfocused, ← Scenario.rehearse] at ran
  by_cases holds : sound
  · obtain ⟨texts, approved, after, ended, closed⟩ := detects.passes holds
    rw [ended] at ran
    obtain ⟨left, passes⟩ := ran
    exact ⟨iff_of_true (passes.mpr approved) holds, fun _ => left ▸ closed⟩
  · have failed : (scenario.run procedure).1 ≠ .ok () := by
      intro passed
      cases ended : scenario.rehearse habits app with
      | none =>
          rw [ended] at ran
          obtain ⟨error, failed⟩ := ran
          cases failed.symm.trans passed
      | some final =>
          rw [ended] at ran
          exact detects.fails holds final.1 final.2 ended (ran.2.mp passed)
    exact ⟨iff_of_false failed holds, fun passed => absurd passed failed⟩

section

variable (habits : Habits) (app : String)

theorem detects_fileReloading :
    Detects habits app fileReloading (habits.normalizesLabels = true) where
  passes := by
    intro normal
    have ends := fileReloading_ends habits app
    rw [normal] at ends
    exact ⟨_, rfl, ends⟩
  fails := by
    intro unsound texts after ended
    obtain ⟨_, same, -⟩ := fileReloading_ends habits app
    rw [if_neg unsound, ended] at same
    obtain ⟨rfl, -⟩ : texts = ["iii"] ∧ _ := by simpa using same
    simp [fileReloading, properLabel]

theorem detects_encryptedFile :
    Detects habits app encryptedFile
      (habits.acceptsAnyPassword = false ∧ habits.keepsPasswordDialog = false) := by
  refine .of_stops rfl (fun sound => encryptedFile_passes sound.1 sound.2 app) fun unsound => ?_
  refine encryptedFile_stops ?_ app
  cases lax : habits.acceptsAnyPassword <;> cases keeps : habits.keepsPasswordDialog
  case false.false => exact absurd ⟨lax, keeps⟩ unsound
  all_goals simp

theorem detects_reload : Detects habits app reload (habits.dropsOnReload = false) :=
  .of_stops rfl (fun keeps => reload_passes keeps app) fun drops =>
    reload_stops (eq_true_of_ne_false drops) app

theorem detects_chooser {scenario : Scenario}
    (chooses : scenario ∈ [bookmarksMenu, goMenu, zoom]) :
    Detects habits app scenario (habits.missingDialog ≠ some openDialog) := by
  have stops (missing : ¬ habits.missingDialog ≠ some openDialog) :=
    chooser_stops chooses (not_not.mp missing) app
  simp only [List.mem_cons, List.not_mem_nil, or_false] at chooses
  rcases chooses with rfl | rfl | rfl
  · exact .of_stops rfl (bookmarksMenu_passes · app) stops
  · exact .of_stops rfl (goMenu_passes · app) stops
  · exact .of_stops rfl (zoom_passes · app) stops

theorem detects_fileMenu :
    Detects habits app fileMenu
      (∀ title ∈ ["Open Document", "Save a Copy", "Print", "Properties"],
        habits.missingDialog ≠ some title) := by
  have titles : ["Open Document", "Save a Copy", "Print", "Properties"] = fileParts.map (·.1) := rfl
  rw [titles, List.forall_mem_map]
  refine .of_stops rfl (fun present => fileMenu_passes present app) fun missing => ?_
  refine fileMenu_stops ?_ app
  simpa only [not_forall, not_not, exists_prop] using missing

theorem detects_helpMenu :
    Detects habits app helpMenu (habits.missingDialog ≠ some (Document.aboutTitle app)) :=
  .of_stops rfl helpMenu_passes fun missing => helpMenu_stops (not_not.mp missing)

theorem detects_editMenu : Detects habits app editMenu True :=
  .of_stops rfl (fun _ => editMenu_passes habits app) fun unsound => absurd trivial unsound

theorem detects_wrongFileExtension : Detects habits app wrongFileExtension True :=
  .of_stops rfl (fun _ => wrongFileExtension_passes habits app)
    fun unsound => absurd trivial unsound

end

/-- **A scenario passes exactly on the viewers without the defects that it looks for.** -/
theorem passes_iff_no_defect (habits : Habits) (app : String) (patience : Patience)
    (marks : Marks) (clock : Nat) :
    let run (scenario : Scenario) :=
      scenario.run (.start (Viewer.backend habits) app patience marks
        ⟨launched app scenario.fixture, clock⟩)
    let passes (scenario : Scenario) : Prop := (run scenario).1 = .ok ()
    (passes fileReloading ↔ habits.normalizesLabels = true) ∧
    (passes encryptedFile ↔
      habits.acceptsAnyPassword = false ∧ habits.keepsPasswordDialog = false) ∧
    (passes reload ↔ habits.dropsOnReload = false) ∧
    (∀ scenario ∈ [bookmarksMenu, goMenu, zoom],
      passes scenario ↔ habits.missingDialog ≠ some "Open Document") ∧
    (passes fileMenu ↔ ∀ title ∈ ["Open Document", "Save a Copy", "Print", "Properties"],
      habits.missingDialog ≠ some title) ∧
    (passes helpMenu ↔ habits.missingDialog ≠ some (Document.aboutTitle app)) ∧
    passes editMenu ∧ passes wrongFileExtension ∧
    ∀ scenario ∈ all, passes scenario → (run scenario).2.scene.state.closed = true := by
  intro run passes
  have settled {scenario : Scenario} {sound : Prop} (detects : Detects habits app scenario sound) :
      (passes scenario ↔ sound) ∧ (passes scenario → (run scenario).2.scene.state.closed = true) :=
    detects.run ⟨rfl, rfl⟩ rfl rfl
  have chooser {scenario : Scenario} (chooses : scenario ∈ [bookmarksMenu, goMenu, zoom]) :=
    settled (detects_chooser habits app chooses)
  refine ⟨(settled (detects_fileReloading habits app)).1,
    (settled (detects_encryptedFile habits app)).1, (settled (detects_reload habits app)).1,
    fun _ chooses => (chooser chooses).1, (settled (detects_fileMenu habits app)).1,
    (settled (detects_helpMenu habits app)).1,
    (settled (detects_editMenu habits app)).1.mpr trivial,
    (settled (detects_wrongFileExtension habits app)).1.mpr trivial, ?_⟩
  intro scenario listed
  simp only [all, List.mem_cons, List.not_mem_nil, or_false] at listed
  rcases listed with rfl | rfl | rfl | rfl | rfl | rfl | rfl | rfl | rfl | rfl
  · exact (chooser (by simp)).2
  · exact (settled (detects_editMenu habits app)).2
  · exact (settled (detects_encryptedFile habits app)).2
  · exact (settled (detects_fileMenu habits app)).2
  · exact (settled (detects_fileReloading habits app)).2
  · exact (chooser (by simp)).2
  · exact (settled (detects_helpMenu habits app)).2
  · exact (settled (detects_reload habits app)).2
  · exact (settled (detects_wrongFileExtension habits app)).2
  · exact (chooser (by simp)).2

end Catalogue

end Rehearsal
