import Rehearsal.Procedure.Basic
import Rehearsal.Report.Basic
/-!
# The filing of a report

A report is filed part by part. What a part is to hold, or why it cannot be had, is known before
anything is written, and each part is tried in its turn whatever has come of those before it. What
the backend has been asked for is kept by a tap on it.
-/

set_option autoImplicit false

namespace Rehearsal

variable {σ τ α : Type}

/-! ## Tapped backends

A backend can be wrapped so that it keeps every call with what its caller has got of the answer. The
log of a run over it tells all that the caller knows of the backend itself. -/

/-- A call to a backend with what its caller has got: nothing if it has stopped waiting. -/
inductive Inquiry where
  | dump (app : String) (got : Option (Except BackendError Forest))
  | input (app : String) (given : Input) (got : Option (Except BackendError Unit))
  | screenshot (got : Option (Except BackendError Bytes))

structure Tapped (σ : Type) where
  state : σ
  /-- Oldest first. -/
  inquiries : List Inquiry

/-- A call of which a note is kept, made from what its caller gets. -/
def tapping (note : Option (Except BackendError α) → Inquiry) (call : Nat → σ → Reply σ α)
    (time : Nat) (tapped : Tapped σ) : Reply (Tapped σ) α :=
  let reply := call time tapped.state
  ⟨reply.delay, reply.answer, ⟨reply.after, tapped.inquiries ++ [note (some reply.answer)]⟩,
    fun waited => ⟨reply.abandoned waited, tapped.inquiries ++ [note none]⟩⟩

def Backend.tapped (backend : Backend σ) : Backend (Tapped σ) where
  connected := fun tapped => backend.connected tapped.state
  dump := fun app => tapping (.dump app) (backend.dump app)
  perform := fun app given => tapping (.input app given) (backend.perform app given)
  screenshot := tapping .screenshot backend.screenshot

def Scene.tapped (scene : Scene σ) (inquiries : List Inquiry) : Scene (Tapped σ) :=
  ⟨⟨scene.state, inquiries⟩, scene.clock⟩

/-- The procedure over the tapped backend, with the inquiries that have been kept so far. -/
def Procedure.tapped (procedure : Procedure σ) (inquiries : List Inquiry) :
    Procedure (Tapped σ) :=
  { procedure with
    backend := procedure.backend.tapped
    scene := procedure.scene.tapped inquiries }

/-- A limited call comes to the same over the tap, which keeps what has come of it. -/
theorem Scene.awaitWithin_tapping (note : Option (Except BackendError α) → Inquiry)
    (call : Nat → σ → Reply σ α) (limit : Nat) (scene : Scene σ) (inquiries : List Inquiry) :
    (scene.tapped inquiries).awaitWithin limit (tapping note call) =
      ((scene.awaitWithin limit call).1,
        (scene.awaitWithin limit call).2.tapped
          (inquiries ++ [note (scene.awaitWithin limit call).1])) := by
  by_cases soon : (call scene.clock scene.state).delay ≤ limit <;>
    simp [awaitWithin, tapping, tapped, soon]

/-! ## Parts -/

namespace Report

/-- The files that a report may have. -/
inductive Artifact where
  | error
  | outline
  | tree
  | picture
  | trail
  deriving DecidableEq

def Artifact.name : Artifact → String
  | .error => "error.txt"
  | .outline => "tree.txt"
  | .tree => "tree.json"
  | .picture => "screenshot.png"
  | .trail => "actions.jsonl"

def Artifact.path (directory : String) (artifact : Artifact) : String :=
  Path.join directory artifact.name

/-- The remark that an artifact could not be had. -/
def Artifact.remark (artifact : Artifact) (reason : String) : String :=
  s!"{artifact.name}: {reason}"

structure Portion where
  artifact : Artifact
  /-- The contents, or why there are none. -/
  yield : Except String Bytes

/-- What a report tells of itself: the paths of what is saved, and the remarks. -/
def diagnostics (directory : String) (saved : List (Artifact × Bytes))
    (remarks : List (Artifact × String)) : Diagnostics :=
  ⟨some directory, saved.map fun one => one.1.path directory,
    remarks.map fun one => one.1.remark one.2⟩

/-- What comes of parts that are filed in a directory: the artifacts that are saved with their
contents, and those of which it is remarked why they are not. -/
inductive Filed (store : Store τ) (directory : String) :
    List Portion → τ → List (Artifact × Bytes) → List (Artifact × String) → τ → Prop where
  | done (files : τ) : Filed store directory [] files [] [] files
  | saved {artifact : Artifact} {contents : Bytes} {rest : List Portion} {files next last : τ}
      {saved : List (Artifact × Bytes)} {remarks : List (Artifact × String)}
      (written : store.write (artifact.path directory) contents files = .ok next)
      (others : Filed store directory rest next saved remarks last) :
      Filed store directory (⟨artifact, .ok contents⟩ :: rest) files
        ((artifact, contents) :: saved) remarks last
  | refused {artifact : Artifact} {contents : Bytes} {fault : FileFault} {rest : List Portion}
      {files last : τ} {saved : List (Artifact × Bytes)} {remarks : List (Artifact × String)}
      (failed : store.write (artifact.path directory) contents files = .error fault)
      (others : Filed store directory rest files saved remarks last) :
      Filed store directory (⟨artifact, .ok contents⟩ :: rest) files saved
        ((artifact, fault.message) :: remarks) last
  | lacking {artifact : Artifact} {reason : String} {rest : List Portion} {files last : τ}
      {saved : List (Artifact × Bytes)} {remarks : List (Artifact × String)}
      (others : Filed store directory rest files saved remarks last) :
      Filed store directory (⟨artifact, .error reason⟩ :: rest) files saved
        ((artifact, reason) :: remarks) last

/-- Writes artifacts one after the other, if none of them is refused. -/
def writeAll (store : Store τ) (directory : String) :
    List (Artifact × Bytes) → τ → Except FileFault τ
  | [], files => .ok files
  | (artifact, contents) :: rest, files => do
    let next ← store.write (artifact.path directory) contents files
    writeAll store directory rest next

/-- Whether an artifact has been tried by itself: what becomes of it is up to the store, which it
meets with some of what is saved already there. -/
def Tried (store : Store τ) (directory : String) (files : τ) (saved : List (Artifact × Bytes))
    (remarks : List (Artifact × String)) (artifact : Artifact) (contents : Bytes) : Prop :=
  ∃ earlier before, earlier <+: saved ∧ writeAll store directory earlier files = .ok before ∧
    match store.write (artifact.path directory) contents before with
    | .ok _ => (artifact, contents) ∈ saved
    | .error fault => (artifact, fault.message) ∈ remarks

section

variable {store : Store τ} {directory : String} {parts : List Portion} {files last : τ}
  {saved : List (Artifact × Bytes)} {remarks : List (Artifact × String)} {artifact : Artifact}
  {contents : Bytes}

/-- What is tried in the files after a writing is tried in the files before it. -/
theorem Tried.after_saved {other : Artifact} {bytes : Bytes} {next : τ}
    (written : store.write (other.path directory) bytes files = .ok next)
    (tried : Tried store directory next saved remarks artifact contents) :
    Tried store directory files ((other, bytes) :: saved) remarks artifact contents := by
  obtain ⟨earlier, before, within, wrote, comes⟩ := tried
  refine ⟨(other, bytes) :: earlier, before, List.prefix_cons_inj _ |>.mpr within, ?_, ?_⟩
  · simpa [writeAll, written, bind, Except.bind] using wrote
  · split at comes
    · exact List.mem_cons_of_mem _ comes
    · exact comes

theorem Tried.after_remark (tried : Tried store directory files saved remarks artifact contents)
    (remark : Artifact × String) :
    Tried store directory files saved (remark :: remarks) artifact contents := by
  obtain ⟨earlier, before, within, wrote, comes⟩ := tried
  refine ⟨earlier, before, within, wrote, ?_⟩
  split at comes
  · exact comes
  · exact List.mem_cons_of_mem _ comes

namespace Filed

/-- Every part is either saved or remarked on. -/
theorem perm (filed : Filed store directory parts files saved remarks last) :
    (saved.map Prod.fst ++ remarks.map Prod.fst).Perm (parts.map Portion.artifact) := by
  induction filed with
  | done => exact .refl _
  | saved _ _ ih => exact ih.cons _
  | refused _ _ ih => exact List.perm_middle.trans (ih.cons _)
  | lacking _ ih => exact List.perm_middle.trans (ih.cons _)

theorem part_of_saved (filed : Filed store directory parts files saved remarks last)
    (member : (artifact, contents) ∈ saved) : ⟨artifact, .ok contents⟩ ∈ parts := by
  induction filed with
  | done => cases member
  | saved _ _ ih =>
      rcases List.mem_cons.mp member with same | later
      · cases same
        exact List.mem_cons_self
      · exact List.mem_cons_of_mem _ (ih later)
  | refused _ _ ih => exact List.mem_cons_of_mem _ (ih member)
  | lacking _ ih => exact List.mem_cons_of_mem _ (ih member)

theorem writeAll_saved (filed : Filed store directory parts files saved remarks last) :
    writeAll store directory saved files = .ok last := by
  induction filed with
  | done => rfl
  | saved written _ ih => simpa [writeAll, written, bind, Except.bind] using ih
  | refused _ _ ih => exact ih
  | lacking _ ih => exact ih

theorem tried (filed : Filed store directory parts files saved remarks last)
    (member : ⟨artifact, .ok contents⟩ ∈ parts) :
    Tried store directory files saved remarks artifact contents := by
  -- Only what is written changes the files that the later parts meet.
  induction filed with
  | done => cases member
  | @saved _ _ _ files _ _ _ _ written _ ih =>
      rcases List.mem_cons.mp member with same | later
      · cases same
        exact ⟨[], files, List.nil_prefix, rfl, by simp [written]⟩
      · exact (ih later).after_saved written
  | @refused _ _ _ _ files _ _ _ failed _ ih =>
      rcases List.mem_cons.mp member with same | later
      · cases same
        exact ⟨[], files, List.nil_prefix, rfl, by simp [failed]⟩
      · exact (ih later).after_remark _
  | lacking _ ih =>
      rcases List.mem_cons.mp member with same | later
      · cases same
      · exact (ih later).after_remark _

end Filed

end

/-- The parts that come of an inquiry. A tree that has not come is remarked on for its outline
alone. -/
def partsOf : Inquiry → List Portion
  | .dump _ (some (.ok forest)) =>
    [⟨.outline, .ok (Text.Utf8.encode forest.outline)⟩,
      ⟨.tree, .ok (Text.Utf8.encode forest.toJson.pretty)⟩]
  | .dump _ (some (.error error)) => [⟨.outline, .error error.wording⟩]
  | .dump _ none => [⟨.outline, .error "timed out"⟩]
  | .screenshot (some (.ok bytes)) => [⟨.picture, .ok bytes⟩]
  | .screenshot (some (.error error)) => [⟨.picture, .error error.wording⟩]
  | .screenshot none => [⟨.picture, .error "timed out"⟩]
  | .input _ _ _ => []

/-- The parts that the screen has. Where nothing could be asked, that is remarked on for the outline
alone. -/
def screen : List Inquiry → List Portion
  | [] => [⟨.outline, .error "driver not connected"⟩]
  | inquiries => inquiries.flatMap partsOf

end Report

open Report (Artifact Portion Filed)

/-! ## Filing a part -/

namespace Draft

def file (draft : Draft τ) (part : Portion) : Draft τ :=
  match part.yield with
  | .ok contents => draft.save part.artifact.name contents
  | .error reason => draft.note part.artifact.name reason

/-- The draft after some artifacts have been saved and others remarked on. -/
def having (draft : Draft τ) (files : τ) (saved : List (Artifact × Bytes))
    (remarks : List (Artifact × String)) : Draft τ :=
  { draft with
    files := files
    diagnostics :=
      { draft.diagnostics with
        written := draft.diagnostics.written ++ saved.map fun one => one.1.path draft.directory
        failures := draft.diagnostics.failures ++ remarks.map fun one => one.1.remark one.2 } }

theorem having_having (draft : Draft τ) (files last : τ) (saved more : List (Artifact × Bytes))
    (remarks others : List (Artifact × String)) :
    (draft.having files saved remarks).having last more others =
      draft.having last (saved ++ more) (remarks ++ others) := by
  simp [having]

section

variable {draft : Draft τ} {artifact : Artifact}

theorem file_of_written {contents : Bytes} {next : τ}
    (written : draft.store.write (artifact.path draft.directory) contents draft.files = .ok next) :
    draft.file ⟨artifact, .ok contents⟩ = draft.having next [(artifact, contents)] [] := by
  rw [Artifact.path] at written
  simp [file, save, having, written, Artifact.path]

theorem file_of_refused {contents : Bytes} {fault : FileFault}
    (refused : draft.store.write (artifact.path draft.directory) contents draft.files =
      .error fault) :
    draft.file ⟨artifact, .ok contents⟩ =
      draft.having draft.files [] [(artifact, fault.message)] := by
  rw [Artifact.path] at refused
  simp [file, save, note, having, refused, Artifact.remark]

theorem file_of_lacking (reason : String) :
    draft.file ⟨artifact, .error reason⟩ = draft.having draft.files [] [(artifact, reason)] := by
  simp [file, note, having, Artifact.remark]

end

theorem filed_of_parts (parts : List Portion) (draft : Draft τ) :
    ∃ files saved remarks,
      Filed draft.store draft.directory parts draft.files saved remarks files ∧
      parts.foldl file draft = draft.having files saved remarks := by
  induction parts generalizing draft with
  | nil => exact ⟨draft.files, [], [], .done _, by simp [having]⟩
  | cons part rest ih =>
      -- Whatever comes of the first part, the others are filed in the draft that it leaves.
      obtain ⟨artifact, reason | contents⟩ := part
      · obtain ⟨files, saved, remarks, others, same⟩ :=
          ih (draft.having draft.files [] [(artifact, reason)])
        exact ⟨files, saved, (artifact, reason) :: remarks, .lacking others, by
          rw [List.foldl_cons, file_of_lacking, same, having_having]; rfl⟩
      · cases written : draft.store.write (artifact.path draft.directory) contents draft.files with
        | ok next =>
            obtain ⟨files, saved, remarks, others, same⟩ :=
              ih (draft.having next [(artifact, contents)] [])
            exact ⟨files, (artifact, contents) :: saved, remarks, .saved written others, by
              rw [List.foldl_cons, file_of_written written, same, having_having]; rfl⟩
        | error fault =>
            obtain ⟨files, saved, remarks, others, same⟩ :=
              ih (draft.having draft.files [] [(artifact, fault.message)])
            exact ⟨files, saved, (artifact, fault.message) :: remarks, .refused written others, by
              rw [List.foldl_cons, file_of_refused written, same, having_having]; rfl⟩

end Draft

/-! ## Filing a report -/

namespace Reporter

variable (reporter : Reporter) (scenario : String) (error : RunError)

def consult (procedure : Procedure σ) : List Inquiry × Scene σ :=
  let backend := procedure.backend
  if backend.connected procedure.scene.state then
    let tree := procedure.scene.awaitWithin callLimit (backend.dump procedure.app)
    if reporter.captureScreenshot then
      let picture := tree.2.awaitWithin callLimit backend.screenshot
      ([.dump procedure.app tree.1, .screenshot picture.1], picture.2)
    else ([.dump procedure.app tree.1], tree.2)
  else ([], procedure.scene)

def parts : Option (Procedure σ) → List Portion
  | none => [⟨.error, .ok (Text.Utf8.encode (summary scenario error none))⟩]
  | some procedure =>
    ⟨.error, .ok (Text.Utf8.encode (summary scenario error procedure.trail.lastFailure?))⟩ ::
      (Report.screen (reporter.consult procedure).1 ++
        [⟨.trail, .ok (Text.Utf8.encode procedure.trail.lines)⟩])

theorem captureScreen_eq (procedure : Procedure σ) (draft : Draft τ) :
    reporter.captureScreen procedure draft =
      ((Report.screen (reporter.consult procedure).1).foldl Draft.file draft,
        (reporter.consult procedure).2) := by
  -- What a call has yielded is written as the parts of its inquiry.
  have tree (got : Option (Except BackendError Forest)) (draft : Draft τ) :
      draft.saveAnswer "tree.txt" saveTree got =
        (Report.partsOf (.dump procedure.app got)).foldl Draft.file draft := by
    rcases got with _ | _ | _ <;> rfl
  have picture (got : Option (Except BackendError Bytes)) (draft : Draft τ) :
      draft.saveAnswer "screenshot.png" (fun bytes draft => draft.save "screenshot.png" bytes)
        got = (Report.partsOf (.screenshot got)).foldl Draft.file draft := by
    rcases got with _ | _ | _ <;> rfl
  rw [captureScreen, consult]
  cases procedure.backend.connected procedure.scene.state with
  | false => rfl
  | true =>
      cases reporter.captureScreenshot with
      | false => simp [Report.screen, tree]
      | true => simp [Report.screen, tree, picture]

variable {store : Store τ} {time : Instant} {files made : τ} (context : Option (Procedure σ))

theorem capture_of_refused {fault : FileFault}
    (refused : store.makeDirectories (Path.join reporter.root (directoryName scenario time))
      files = .error fault) :
    reporter.capture store scenario error time context files =
      (⟨none, [], [s!"diagnostics directory: {fault.message}"]⟩, files, context) := by
  simp only [capture, refused]

theorem capture_of_made
    (there : store.makeDirectories (Path.join reporter.root (directoryName scenario time)) files =
      .ok made) :
    let directory := Path.join reporter.root (directoryName scenario time)
    let drafted := (reporter.parts scenario error context).foldl Draft.file
      ⟨store, made, directory, ⟨some directory, [], []⟩⟩
    reporter.capture store scenario error time context files =
      (drafted.diagnostics, drafted.files,
        context.map fun procedure => procedure.on (reporter.consult procedure).2) := by
  cases context with
  | none =>
      simp only [capture, there]
      rfl
  | some procedure =>
      simp only [capture, there, captureContext, captureScreen_eq, parts, List.foldl_cons,
        List.foldl_append, List.foldl_nil]
      rfl

/-- A report whose directory could be made is filed part by part. -/
theorem filed_of_capture
    (there : store.makeDirectories (Path.join reporter.root (directoryName scenario time)) files =
      .ok made) :
    let directory := Path.join reporter.root (directoryName scenario time)
    ∃ last saved remarks,
      Filed store directory (reporter.parts scenario error context) made saved remarks last ∧
      reporter.capture store scenario error time context files =
        (Report.diagnostics directory saved remarks, last,
          context.map fun procedure => procedure.on (reporter.consult procedure).2) := by
  intro directory
  obtain ⟨last, saved, remarks, filed, same⟩ :=
    Draft.filed_of_parts (reporter.parts scenario error context)
      ⟨store, made, directory, ⟨some directory, [], []⟩⟩
  refine ⟨last, saved, remarks, filed, ?_⟩
  rw [capture_of_made reporter scenario error context there, same]
  rfl

end Reporter

end Rehearsal
