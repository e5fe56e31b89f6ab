import Rehearsal.Proofs.Report.Accounting
import Rehearsal.Proofs.Tree.Outline
import Rehearsal.Proofs.Tree.Written
import Rehearsal.Proofs.Trail.Written
import Rehearsal.Proofs.Text.Utf8
/-!
# The agreement of a report

A report takes a limited time and asks the backend for one tree and one picture at most. All that it
can have it tries to save, and its files agree on one tree, one trail and one error.
-/

set_option autoImplicit false

namespace Rehearsal

open Report (Artifact Portion Filed Tried writeAll)

variable {σ τ : Type}

/-! ## The last failure -/

theorem Trail.lastFailure?_eq_some_iff {trail : Trail} {entry : Entry} :
    trail.lastFailure? = some entry ↔
      ∃ earlier later, trail = earlier ++ entry :: later ∧ entry.isFailure = true ∧
        ∀ other ∈ later, other.isFailure = false := by
  rw [lastFailure?, List.find?_eq_some_iff_append]
  constructor
  · rintro ⟨failed, later, earlier, same, clean⟩
    refine ⟨earlier.reverse, later.reverse, ?_, failed, ?_⟩
    · rw [← List.reverse_reverse trail, same]
      simp
    · intro other member
      simpa using clean other (List.mem_reverse.mp member)
  · rintro ⟨earlier, later, rfl, failed, clean⟩
    refine ⟨failed, later.reverse, earlier.reverse, by simp, ?_⟩
    intro other member
    simpa using clean other (List.mem_reverse.mp member)

theorem Trail.lastFailure?_eq_none_iff {trail : Trail} :
    trail.lastFailure? = none ↔ ∀ entry ∈ trail, entry.isFailure = false := by
  simp [lastFailure?]

namespace Report

/-- What is told of the last failure on a trail; nothing if there is none. -/
inductive LastFailureTold (trail : Trail) : String → Prop where
  | nothing (clean : ∀ entry ∈ trail, entry.isFailure = false) : LastFailureTold trail ""
  | action {earlier later : Trail} {entry : Entry} (same : trail = earlier ++ entry :: later)
      (failed : entry.isFailure = true) (clean : ∀ other ∈ later, other.isFailure = false) :
      LastFailureTold trail s!"failed action: {entry.action.describe.render}\n"

/-- The contents that an artifact is to have when an error has come up, of a procedure with some
trail and after some inquiries of its backend. -/
inductive Obtained (scenario : String) (error : RunError) (trail : Trail)
    (inquiries : List Inquiry) : Artifact → Bytes → Prop where
  | error {told : String} (last : LastFailureTold trail told) :
      Obtained scenario error trail inquiries .error (Text.Utf8.encode
        (s!"scenario: {scenario}\nkind: {error.kind}\nerror: {error.message}\n" ++
          s!"exit code: {error.exitCode}\n" ++ told))
  | outline {app : String} {forest : Forest}
      (shown : .dump app (some (.ok forest)) ∈ inquiries) :
      Obtained scenario error trail inquiries .outline (Text.Utf8.encode forest.outline)
  | tree {app : String} {forest : Forest} (shown : .dump app (some (.ok forest)) ∈ inquiries) :
      Obtained scenario error trail inquiries .tree (Text.Utf8.encode forest.toJson.pretty)
  | picture {bytes : Bytes} (taken : .screenshot (some (.ok bytes)) ∈ inquiries) :
      Obtained scenario error trail inquiries .picture bytes
  | trail : Obtained scenario error trail inquiries .trail (Text.Utf8.encode trail.lines)

theorem lastFailureTold_iff {trail : Trail} {told : String} :
    LastFailureTold trail told ↔
      told = match trail.lastFailure? with
        | some entry => s!"failed action: {entry.action.describe.render}\n"
        | none => "" := by
  constructor
  · rintro (clean | ⟨same, failed, clean⟩)
    · rw [Trail.lastFailure?_eq_none_iff.mpr clean]
    · rw [Trail.lastFailure?_eq_some_iff.mpr ⟨_, _, same, failed, clean⟩]
  · rintro rfl
    cases last : trail.lastFailure? with
    | none => exact .nothing (Trail.lastFailure?_eq_none_iff.mp last)
    | some entry =>
        obtain ⟨earlier, later, same, failed, clean⟩ := Trail.lastFailure?_eq_some_iff.mp last
        exact .action same failed clean

variable {scenario : String} {error : RunError} {trail : Trail} {inquiries : List Inquiry}
  {artifact : Artifact} {contents : Bytes}

theorem summary_lastFailure? {told : String} (last : LastFailureTold trail told) :
    Reporter.summary scenario error trail.lastFailure? =
      s!"scenario: {scenario}\nkind: {error.kind}\nerror: {error.message}\n" ++
        s!"exit code: {error.exitCode}\n" ++ told := by
  rw [lastFailureTold_iff.mp last]
  rfl

theorem mem_screen_iff :
    ⟨artifact, .ok contents⟩ ∈ screen inquiries ↔
      ∃ inquiry ∈ inquiries, ⟨artifact, .ok contents⟩ ∈ partsOf inquiry := by
  cases inquiries with
  | nil => simp [screen]
  | cons => exact List.mem_flatMap

theorem obtained_of_mem_partsOf {inquiry : Inquiry} (asked : inquiry ∈ inquiries)
    (part : ⟨artifact, .ok contents⟩ ∈ partsOf inquiry) :
    Obtained scenario error trail inquiries artifact contents := by
  rcases inquiry with ⟨app, _ | _ | forest⟩ | _ | _ | _ | bytes
  · simp [partsOf] at part
  · simp [partsOf] at part
  · simp only [partsOf, List.mem_cons, Portion.mk.injEq, Except.ok.injEq, List.not_mem_nil,
      or_false] at part
    rcases part with ⟨rfl, rfl⟩ | ⟨rfl, rfl⟩
    · exact .outline asked
    · exact .tree asked
  · simp [partsOf] at part
  · simp [partsOf] at part
  · simp [partsOf] at part
  · simp only [partsOf, List.mem_singleton, Portion.mk.injEq, Except.ok.injEq] at part
    obtain ⟨rfl, rfl⟩ := part
    exact .picture asked

end Report

theorem Scene.clock_awaitWithin_le_add {α : Type} (limit : Nat) (scene : Scene σ)
    (call : Nat → σ → Reply σ α) :
    (scene.awaitWithin limit call).2.clock ≤ scene.clock + limit := by
  rw [awaitWithin]
  split
  · next soon => exact Nat.add_le_add_left soon _
  · exact Nat.le_refl _

/-- What a report comes to whose directory has been made. -/
structure Report.Files (store : Store τ) (directory : String) (made last : τ)
    (obtained : Artifact → Bytes → Prop) (saved : List (Artifact × Bytes))
    (remarks : List (Artifact × String)) : Prop where
  /-- Everything that is saved has been written, and nothing else. -/
  written : writeAll store directory saved made = .ok last
  /-- Whatever could be obtained has been tried. -/
  tried : ∀ artifact contents, obtained artifact contents →
    Tried store directory made saved remarks artifact contents
  /-- What is saved has been obtained. -/
  honest : ∀ artifact contents, (artifact, contents) ∈ saved → obtained artifact contents

/-- What can be read in the files of a report. -/
structure Report.Legible (trail : Trail) (inquiries : List Inquiry)
    (saved : List (Artifact × Bytes)) : Prop where
  /-- The trail is told line by line. -/
  trail : ∀ written, (.trail, written) ∈ saved →
    ∃ text, Text.Utf8.decode written = .ok text ∧ trail.ToldBy text
  /-- The outline has a row for each node of a tree that an inquiry has brought. -/
  outline : ∀ drawn, (.outline, drawn) ∈ saved →
    ∃ app forest text, .dump app (some (.ok forest)) ∈ inquiries ∧
      Text.Utf8.decode drawn = .ok text ∧
      (forest.IsPlain → text.toList.splitOn '\n' = forest.rows ++ [[]])

theorem Report.legible_of_obtained {scenario : String} {error : RunError} {trail : Trail}
    {inquiries : List Inquiry} {saved : List (Artifact × Bytes)}
    (honest : ∀ artifact contents, (artifact, contents) ∈ saved →
      Obtained scenario error trail inquiries artifact contents) :
    Legible trail inquiries saved where
  trail := by
    intro written member
    cases honest _ _ member
    exact ⟨trail.lines, Text.Utf8.decode_encode _, trail.toldBy_lines⟩
  outline := by
    intro drawn member
    rcases honest _ _ member with _ | shown
    exact ⟨_, _, _, shown, Text.Utf8.decode_encode _, Forest.splitOn_outline⟩

open Report (Obtained)

namespace Reporter

variable (reporter : Reporter) (scenario : String) (error : RunError)

/-- The parts that have contents are the artifacts that could be obtained. -/
theorem mem_parts_iff {procedure : Procedure σ} {artifact : Artifact} {contents : Bytes} :
    ⟨artifact, .ok contents⟩ ∈ reporter.parts scenario error (some procedure) ↔
      Obtained scenario error procedure.trail (reporter.consult procedure).1 artifact
        contents := by
  simp only [parts, List.mem_cons, List.mem_append, Portion.mk.injEq, Except.ok.injEq,
    List.not_mem_nil, or_false]
  constructor
  · rintro (⟨rfl, same⟩ | shown | ⟨rfl, rfl⟩)
    · rw [same]
      exact .error (Report.lastFailureTold_iff.mpr rfl)
    · obtain ⟨inquiry, asked, part⟩ := Report.mem_screen_iff.mp shown
      exact Report.obtained_of_mem_partsOf asked part
    · exact .trail
  · intro obtained
    cases obtained with
    | error last => exact .inl ⟨rfl, congrArg _ (Report.summary_lastFailure? last).symm⟩
    | outline shown =>
        exact .inr (.inl (Report.mem_screen_iff.mpr ⟨_, shown, List.mem_cons_self⟩))
    | tree shown =>
        exact .inr (.inl (Report.mem_screen_iff.mpr
          ⟨_, shown, List.mem_cons_of_mem _ List.mem_cons_self⟩))
    | picture taken =>
        exact .inr (.inl (Report.mem_screen_iff.mpr ⟨_, taken, List.mem_cons_self⟩))
    | trail => exact .inr (.inr ⟨rfl, rfl⟩)

/-! ## Inquiries -/

/-- The inquiries that a report makes: none where the backend is not connected, else one for the
tree, and one for a picture if that is wanted. -/
inductive Asks (procedure : Procedure σ) : List Inquiry → Prop where
  | nothing (apart : procedure.backend.connected procedure.scene.state = false) :
      Asks procedure []
  | tree (joined : procedure.backend.connected procedure.scene.state = true)
      (plain : reporter.captureScreenshot = false) (got : Option (Except BackendError Forest)) :
      Asks procedure [.dump procedure.app got]
  | both (joined : procedure.backend.connected procedure.scene.state = true)
      (wanted : reporter.captureScreenshot = true) (got : Option (Except BackendError Forest))
      (taken : Option (Except BackendError Bytes)) :
      Asks procedure [.dump procedure.app got, .screenshot taken]

section

variable {reporter : Reporter} {procedure : Procedure σ} {inquiries : List Inquiry}

theorem Asks.sublist (asks : reporter.Asks procedure inquiries) :
    ∃ got taken, inquiries.Sublist [.dump procedure.app got, .screenshot taken] := by
  cases asks with
  | nothing => exact ⟨none, none, List.nil_sublist _⟩
  | tree _ _ got => exact ⟨got, none, (List.nil_sublist _).cons_cons _⟩
  | both _ _ got taken => exact ⟨got, taken, .refl _⟩

theorem Asks.forest_unique (asks : reporter.Asks procedure inquiries) {app other : String}
    {forest second : Forest} (shown : .dump app (some (.ok forest)) ∈ inquiries)
    (again : .dump other (some (.ok second)) ∈ inquiries) : forest = second := by
  obtain ⟨got, taken, within⟩ := asks.sublist
  have only {asked : String} {answer : Option (Except BackendError Forest)}
      (member : .dump asked answer ∈ inquiries) : answer = got := by
    have place := within.subset member
    simp only [List.mem_cons, Inquiry.dump.injEq, reduceCtorEq, List.not_mem_nil, or_false]
      at place
    exact place.2
  exact Except.ok.inj (Option.some.inj ((only shown).trans (only again).symm))

end

theorem asks_consult (procedure : Procedure σ) :
    reporter.Asks procedure (reporter.consult procedure).1 := by
  rw [consult]
  cases joined : procedure.backend.connected procedure.scene.state with
  | false => exact .nothing joined
  | true =>
      cases wanted : reporter.captureScreenshot with
      | false => exact .tree joined wanted _
      | true => exact .both joined wanted _ _

theorem clock_consult_le (procedure : Procedure σ) :
    (reporter.consult procedure).2.clock ≤ procedure.scene.clock + 2 * callLimit := by
  have tree := Scene.clock_awaitWithin_le_add callLimit procedure.scene
    (procedure.backend.dump procedure.app)
  have picture := Scene.clock_awaitWithin_le_add callLimit
    (procedure.scene.awaitWithin callLimit (procedure.backend.dump procedure.app)).2
    procedure.backend.screenshot
  rw [consult]
  cases procedure.backend.connected procedure.scene.state with
  | false => exact Nat.le_add_right _ _
  | true =>
      cases reporter.captureScreenshot with
      | false => exact Nat.le_trans tree (by omega)
      | true => exact Nat.le_trans picture (by omega)

theorem consult_tapped (procedure : Procedure σ) (inquiries : List Inquiry) :
    reporter.consult (procedure.tapped inquiries) =
      ((reporter.consult procedure).1,
        (reporter.consult procedure).2.tapped
          (inquiries ++ (reporter.consult procedure).1)) := by
  have tree := Scene.awaitWithin_tapping (.dump procedure.app)
    (procedure.backend.dump procedure.app) callLimit procedure.scene inquiries
  have picture (scene : Scene σ) (inquiries : List Inquiry) :=
    Scene.awaitWithin_tapping .screenshot procedure.backend.screenshot callLimit scene inquiries
  have joined : (procedure.tapped inquiries).backend.connected
      (procedure.tapped inquiries).scene.state =
        procedure.backend.connected procedure.scene.state := rfl
  rw [consult, consult, joined]
  cases procedure.backend.connected procedure.scene.state with
  | false => simp [Procedure.tapped]
  | true =>
      cases reporter.captureScreenshot with
      | false => simp [Procedure.tapped, Backend.tapped, tree]
      | true => simp [Procedure.tapped, Backend.tapped, tree, picture]

/-! ## Reports -/

theorem files_of_capture {store : Store τ} {time : Instant} {files made : τ}
    (procedure : Procedure σ)
    (there : store.makeDirectories (Path.join reporter.root (directoryName scenario time)) files =
      .ok made) :
    let directory := Path.join reporter.root (directoryName scenario time)
    let report := reporter.capture store scenario error time (some procedure) files
    ∃ saved remarks,
      report.1 = Report.diagnostics directory saved remarks ∧
      Report.Files store directory made report.2.1
        (Obtained scenario error procedure.trail (reporter.consult procedure).1) saved remarks := by
  intro directory report
  obtain ⟨last, saved, remarks, filed, same⟩ :=
    reporter.filed_of_capture scenario error (some procedure) there
  have captured : report = _ := same
  rw [captured]
  refine ⟨saved, remarks, rfl, filed.writeAll_saved, ?_, ?_⟩
  · intro artifact contents obtained
    exact filed.tried ((reporter.mem_parts_iff scenario error).mpr obtained)
  · intro artifact contents member
    exact (reporter.mem_parts_iff scenario error).mp (filed.part_of_saved member)

/-- A report over a tap is the same, and what it asks is kept. -/
theorem capture_tapped {store : Store τ} {time : Instant} {files made : τ}
    (procedure : Procedure σ)
    (there : store.makeDirectories (Path.join reporter.root (directoryName scenario time)) files =
      .ok made) :
    let report := reporter.capture store scenario error time (some procedure) files
    let consulted := reporter.consult procedure
    report.2.2 = some (procedure.on consulted.2) ∧
    reporter.capture store scenario error time (some (procedure.tapped [])) files =
      (report.1, report.2.1, some ((procedure.on consulted.2).tapped consulted.1)) := by
  intro report consulted
  -- The parts depend on what has been asked, which is the same over the tap.
  have same : reporter.parts scenario error (some (procedure.tapped [])) =
      reporter.parts scenario error (some procedure) := by
    rw [parts, parts, consult_tapped]
    rfl
  simp only [report, reporter.capture_of_made scenario error _ there, same, Option.map_some,
    consult_tapped, List.nil_append]
  exact ⟨rfl, rfl⟩

/-- A report of a procedure's failure takes at most twenty seconds and asks the backend for one tree
and one picture at most. In its directory all is tried that could be obtained, whatever comes of the
rest, and what is saved is of one tree, which its two files agree on, one trail and one error. The
outline tells the tree row by row, and the trail's file tells the trail entry by entry. -/
theorem capture_agrees (store : Store τ) (time : Instant) (procedure : Procedure σ) (files : τ) :
    let directory := Path.join reporter.root (directoryName scenario time)
    let report := reporter.capture store scenario error time (some procedure) files
    ∃ inquiries scene,
      report.2.2 = some (procedure.on scene) ∧
      reporter.capture store scenario error time (some (procedure.tapped [])) files =
        (report.1, report.2.1, some ((procedure.on scene).tapped inquiries)) ∧
      scene.clock ≤ procedure.scene.clock + 20000 ∧
      (∃ got taken, inquiries.Sublist [.dump procedure.app got, .screenshot taken]) ∧
      ∀ made, store.makeDirectories directory files = .ok made →
        reporter.Asks procedure inquiries ∧
        ∃ saved remarks,
          report.1 = Report.diagnostics directory saved remarks ∧
          Report.Files store directory made report.2.1
            (Obtained scenario error procedure.trail inquiries) saved remarks ∧
          Report.Legible procedure.trail inquiries saved ∧
          ∀ outline tree, (.outline, outline) ∈ saved → (.tree, tree) ∈ saved →
            ∃ forest text, outline = Text.Utf8.encode forest.outline ∧
              Text.Utf8.decode tree = .ok text ∧
              (Forest.depth forest ≤ 63 →
                Json.decode (Json.list Node.decoder) text = .ok forest) := by
  intro directory report
  cases there : store.makeDirectories directory files with
  | error fault =>
      -- Without a directory nothing is asked.
      have captured := reporter.capture_of_refused scenario error (some procedure) there
      have tapped := reporter.capture_of_refused scenario error (some (procedure.tapped [])) there
      refine ⟨[], procedure.scene, ?_, ?_, Nat.le_add_right _ _, ⟨none, none, List.nil_sublist _⟩,
        nofun⟩
      · simp only [report, captured]
        rfl
      · simp only [report, captured, tapped]
        rfl
  | ok made =>
      obtain ⟨after, tapped⟩ := reporter.capture_tapped scenario error procedure there
      refine ⟨(reporter.consult procedure).1, (reporter.consult procedure).2, after, tapped,
        reporter.clock_consult_le procedure, ?_, ?_⟩
      · exact (reporter.asks_consult procedure).sublist
      · rintro _ ⟨⟩
        obtain ⟨saved, remarks, diagnostics, holds⟩ :=
          reporter.files_of_capture scenario error procedure there
        refine ⟨reporter.asks_consult procedure, saved, remarks, diagnostics, holds,
          Report.legible_of_obtained holds.honest, ?_⟩
        -- Both files come of an inquiry for the tree, and there is only one.
        intro outline tree outlined treed
        rcases holds.honest _ _ outlined with _ | shown
        rcases holds.honest _ _ treed with _ | _ | again
        cases (reporter.asks_consult procedure).forest_unique shown again
        exact ⟨_, _, rfl, Text.Utf8.decode_encode _, fun shallow => Forest.decode_pretty shallow⟩

/-- Where the picture does not come, the rest is written all the same, and the trail can be read
back. -/
theorem capture_agrees_stalled :
    let identifier : Identifier := ⟨List.replicate 32 10⟩
    let launch : Entry := ⟨identifier, ⟨2026, 2, 28, 23, 59, 59, 1000000⟩, .launch "viewer" none,
      .success, some 0⟩
    let click : Entry := ⟨identifier, ⟨2026, 3, 1, 0, 0, 0, 0⟩, .click "Open" (some "button"),
      .failure "no \"Open\"\nin sight", none⟩
    let stage := { Stage.bare [.bearing "Page" "label" "1\n2"] with picture := .stall }
    let marks : Marks := ⟨fun _ => identifier, fun _ => .epoch⟩
    let procedure := { Procedure.start Stage.backend "viewer" ⟨1, 0⟩ marks ⟨stage, 0⟩ with
      trail := [launch, click] }
    let reporter : Reporter := ⟨"diag", true⟩
    let directory := Path.join "diag" (directoryName "zoom" .epoch)
    let report := reporter.capture Volume.store "zoom" (.assertionFailed "mismatch") .epoch
      (some procedure) ⟨.directory [], []⟩
    report.1 = ⟨some directory,
      [Artifact.error, .outline, .tree, .trail].map (·.path directory),
      ["screenshot.png: timed out"]⟩ ∧
    (∃ scene, report.2.2 = some (procedure.on scene) ∧ scene.clock ≤ 20000) ∧
    ∃ saved remarks written, ∃ rows : List String,
      report.1 = Report.diagnostics directory saved remarks ∧
      (.trail, written) ∈ saved ∧
      (∃ text, Text.Utf8.decode written = .ok text ∧
        text.toList.splitOn '\n' = rows.map String.toList ++ [[]]) ∧
      rows.map (Json.decode Entry.decoder) = [.ok launch, .ok click] := by
  intro identifier launch click stage marks procedure reporter directory report
  have there : Volume.store.makeDirectories (Path.join "diag" (directoryName "zoom" .epoch))
      ⟨.directory [], []⟩ =
        .ok ⟨.directory [("diag", .directory [("zoom-19700101T000000.000Z", .directory [])])],
          []⟩ :=
    rfl
  have told : report.1 = ⟨some directory,
      [Artifact.error, .outline, .tree, .trail].map (·.path directory),
      ["screenshot.png: timed out"]⟩ := by
    decide +kernel
  obtain ⟨inquiries, scene, after, -, soon, -, filed⟩ :=
    reporter.capture_agrees "zoom" (.assertionFailed "mismatch") Volume.store .epoch procedure
      ⟨.directory [], []⟩
  obtain ⟨-, saved, remarks, diagnostics, -, legible, -⟩ := filed _ there
  change scene.clock ≤ 0 + 20000 at soon
  rw [Nat.zero_add] at soon
  refine ⟨told, ⟨scene, after, soon⟩, saved, remarks, ?_⟩
  have trailed : .trail ∈ saved.map Prod.fst := by
    apply Report.has_diagnostics_iff.mp
    rw [← diagnostics, told]
    exact List.mem_map_of_mem (by decide)
  obtain ⟨written, member⟩ : ∃ written, (.trail, written) ∈ saved := by simpa using trailed
  obtain ⟨text, decoded, rows, split, entries⟩ := legible.trail written member
  refine ⟨written, rows, diagnostics, member, ⟨text, decoded, split⟩, ?_⟩
  obtain _ | ⟨first, _ | ⟨second, _ | _⟩⟩ := entries
  exact congrArg₂ (fun one other => [one, other]) (first (by decide)) (second (by decide))

end Reporter

end Rehearsal
