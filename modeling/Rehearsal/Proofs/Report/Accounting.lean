import Rehearsal.Backend.Stage
import Rehearsal.Proofs.Report.Filing
/-!
# The account of a report

A report tells of an artifact by the path of its file or by a remark that begins with its name, and
never by both. What it is asked for it tells of, but for two that it passes over: the tree as JSON
where no tree has come, and the picture where the backend is not connected.
-/

set_option autoImplicit false

namespace Rehearsal

open Report (Artifact Portion Filed)

variable {σ τ : Type}

/-! ## Telling of artifacts -/

namespace Report

theorem Artifact.path_injective {directory : String} {artifact other : Artifact}
    (same : artifact.path directory = other.path directory) : artifact = other := by
  have join (name : Artifact) : name.path directory =
      (if directory.isEmpty then "" else if directory.toList.getLast? == some '/' then directory
        else directory ++ "/") ++ name.name := by
    have relative : Path.isAbsolute name.name = false := by cases name <;> decide
    simp only [path, Path.join, relative, Bool.false_or]
    split
    · exact (String.empty_append).symm
    · split <;> rfl
  rw [join, join, String.append_right_inj] at same
  revert same
  cases artifact <;> cases other <;> decide

theorem Artifact.remark_injective {artifact other : Artifact} {reason otherReason : String}
    (same : artifact.remark reason = other.remark otherReason) : artifact = other := by
  -- The name of an artifact is what stands before the first colon.
  have named (artifact : Artifact) (reason : String) :
      (artifact.remark reason).toList.takeWhile (· ≠ ':') = artifact.name.toList := by
    cases artifact <;> simp [remark, name, toString]
  have names : artifact.name.toList = other.name.toList := by
    rw [← named artifact reason, same, named]
  revert names
  cases artifact <;> cases other <;> decide

end Report

/-- Whether a report has a file of an artifact. -/
def Diagnostics.Has (diagnostics : Diagnostics) (directory : String) (artifact : Artifact) : Prop :=
  artifact.path directory ∈ diagnostics.written

/-- Whether a report has a remark on an artifact. -/
def Diagnostics.Names (diagnostics : Diagnostics) (artifact : Artifact) : Prop :=
  ∃ reason, artifact.remark reason ∈ diagnostics.failures

section

variable {directory : String} {saved : List (Artifact × Bytes)} {remarks : List (Artifact × String)}
  {artifact : Artifact}

theorem Report.has_diagnostics_iff :
    (diagnostics directory saved remarks).Has directory artifact ↔
      artifact ∈ saved.map Prod.fst := by
  simp only [diagnostics, Diagnostics.Has, List.mem_map]
  constructor
  · rintro ⟨one, member, same⟩
    exact ⟨one, member, Artifact.path_injective same⟩
  · rintro ⟨one, member, rfl⟩
    exact ⟨one, member, rfl⟩

theorem Report.names_diagnostics_iff :
    (diagnostics directory saved remarks).Names artifact ↔ artifact ∈ remarks.map Prod.fst := by
  simp only [diagnostics, Diagnostics.Names, List.mem_map]
  constructor
  · rintro ⟨reason, one, member, same⟩
    exact ⟨one, member, Artifact.remark_injective same⟩
  · rintro ⟨one, member, rfl⟩
    exact ⟨one.2, one, member, rfl⟩

end

/-! ## What is told of -/

/-- The forest that a procedure's backend shows in time, if it is connected. -/
def Procedure.sight? (procedure : Procedure σ) : Option Forest :=
  if procedure.backend.connected procedure.scene.state then
    ((procedure.scene.awaitWithin Reporter.callLimit
      (procedure.backend.dump procedure.app)).1.bind Except.toOption)
  else none

namespace Reporter

variable (reporter : Reporter)

/-- Whether a report is asked for an artifact. -/
def Asked (context : Option (Procedure σ)) : Artifact → Prop
  | .error => True
  | .picture => context.isSome ∧ reporter.captureScreenshot = true
  | .outline => context.isSome
  | .tree => context.isSome
  | .trail => context.isSome

/-- Whether an artifact is passed over, although it may have been asked for. -/
def PassesOver (context : Option (Procedure σ)) : Artifact → Prop
  | .tree => ∃ procedure ∈ context, procedure.sight? = none
  | .picture => ∃ procedure ∈ context,
      procedure.backend.connected procedure.scene.state = false
  | _ => False

variable (scenario : String) (error : RunError)

theorem artifacts_parts (procedure : Procedure σ) :
    (reporter.parts scenario error (some procedure)).map Portion.artifact =
      [.error, .outline] ++ (if procedure.sight?.isSome then [.tree] else []) ++
        (if procedure.backend.connected procedure.scene.state && reporter.captureScreenshot
          then [.picture] else []) ++ [.trail] := by
  have tree (app : String) (got : Option (Except BackendError Forest)) :
      (Report.partsOf (.dump app got)).map Portion.artifact =
        .outline :: if (got.bind Except.toOption).isSome then [.tree] else [] := by
    rcases got with _ | _ | _ <;> rfl
  have picture (got : Option (Except BackendError Bytes)) :
      (Report.partsOf (.screenshot got)).map Portion.artifact = [.picture] := by
    rcases got with _ | _ | _ <;> rfl
  rw [parts, consult, Procedure.sight?]
  cases procedure.backend.connected procedure.scene.state with
  | false => simp [Report.screen]
  | true =>
      cases reporter.captureScreenshot with
      | false => simp [Report.screen, tree]
      | true => simp [Report.screen, tree, picture]

theorem nodup_artifacts_parts (context : Option (Procedure σ)) :
    ((reporter.parts scenario error context).map Portion.artifact).Nodup := by
  cases context with
  | none => simp [parts]
  | some procedure =>
      rw [artifacts_parts]
      split <;> split <;> decide

theorem mem_artifacts_parts_iff (context : Option (Procedure σ)) (artifact : Artifact) :
    artifact ∈ (reporter.parts scenario error context).map Portion.artifact ↔
      reporter.Asked context artifact ∧ ¬ PassesOver context artifact := by
  cases context with
  | none => cases artifact <;> simp [parts, Asked, PassesOver]
  | some procedure =>
      rw [artifacts_parts]
      cases artifact <;> simp [Asked, PassesOver, Option.isSome_iff_ne_none, and_comm]

/-- A report whose directory could be made tells of the artifacts that it is asked for, but for
those that it passes over, and of no others: either by a file or by a remark. -/
theorem capture_tells_once {store : Store τ} {time : Instant} {files made : τ}
    (context : Option (Procedure σ))
    (there : store.makeDirectories (Path.join reporter.root (directoryName scenario time)) files =
      .ok made)
    (artifact : Artifact) :
    let directory := Path.join reporter.root (directoryName scenario time)
    let diagnostics := (reporter.capture store scenario error time context files).1
    (diagnostics.Has directory artifact ∨ diagnostics.Names artifact ↔
      reporter.Asked context artifact ∧ ¬ PassesOver context artifact) ∧
    ¬ (diagnostics.Has directory artifact ∧ diagnostics.Names artifact) := by
  intro directory diagnostics
  obtain ⟨last, saved, remarks, filed, captured⟩ :=
    reporter.filed_of_capture scenario error context there
  have same : diagnostics = Report.diagnostics directory saved remarks :=
    congrArg Prod.fst captured
  have once := filed.perm.nodup_iff.mpr (reporter.nodup_artifacts_parts scenario error context)
  rw [same, Report.has_diagnostics_iff, Report.names_diagnostics_iff, ← List.mem_append,
    filed.perm.mem_iff, mem_artifacts_parts_iff]
  exact ⟨Iff.rfl, fun both => (List.nodup_append.mp once).2.2 _ both.1 _ both.2 rfl⟩

/-- Of a backend that is not connected a report is asked for the tree and a picture, and tells of
neither of these two files. -/
theorem capture_tells_once_unconnected :
    let stage := { Stage.bare [] with connected := false }
    let marks : Marks := ⟨fun _ => ⟨[]⟩, fun _ => .epoch⟩
    let context := some (Procedure.start Stage.backend "viewer" ⟨1, 0⟩ marks ⟨stage, 0⟩)
    let reporter : Reporter := ⟨"diag", true⟩
    let directory := Path.join "diag" (directoryName "zoom" .epoch)
    let diagnostics := (reporter.capture Volume.store "zoom" (.assertionFailed "mismatch") .epoch
      context ⟨.directory [], []⟩).1
    ∀ artifact ∈ [Artifact.tree, Artifact.picture], reporter.Asked context artifact ∧
      ¬ (diagnostics.Has directory artifact ∨ diagnostics.Names artifact) := by
  intro stage marks context reporter directory diagnostics artifact member
  have there : Volume.store.makeDirectories (Path.join "diag" (directoryName "zoom" .epoch))
      ⟨.directory [], []⟩ =
        .ok ⟨.directory [("diag", .directory [("zoom-19700101T000000.000Z", .directory [])])],
          []⟩ :=
    rfl
  have told := (reporter.capture_tells_once "zoom" (.assertionFailed "mismatch") context there
    artifact).1
  have asked : reporter.Asked context artifact ∧ PassesOver context artifact := by
    simp only [List.mem_cons, List.not_mem_nil, or_false] at member
    rcases member with rfl | rfl
    · exact ⟨rfl, _, rfl, rfl⟩
    · exact ⟨⟨rfl, rfl⟩, _, rfl, rfl⟩
  exact ⟨asked.1, fun either => (told.mp either).2 asked.2⟩

end Reporter

end Rehearsal
