import Rehearsal.Procedure.Basic
/-!
# Waits before a tree that stands still

When a backend answers every dump at once with the same tree, a wait is decided by its first round:
it takes the first place of its candidates that the tree has, or goes through all its rounds for
nothing.
-/

set_option autoImplicit false

namespace Rehearsal

variable {σ α : Type}

/-- Whether a backend in some state answers every dump at once with the same tree. -/
def Backend.Stands (backend : Backend σ) (app : String) (state : σ) (forest : Forest) : Prop :=
  ∀ clock, backend.dump app clock state = .now (.ok forest) state

/-- The first of some places that a tree has, with what is there. -/
def Forest.firstOf (forest : Forest) (candidates : List Locator) : Option (Locator × Node) :=
  candidates.findSome? fun locator => (forest.locate? locator).map fun node => (locator, node)

theorem Forest.isSome_firstOf_iff {forest : Forest} {candidates : List Locator} :
    (forest.firstOf candidates).isSome = true ↔
      ∃ locator ∈ candidates, (forest.locate? locator).isSome = true := by
  simp [firstOf, List.findSome?_isSome_iff]

theorem Forest.firstOf_cons_of_located {forest : Forest} {locator : Locator} {node : Node}
    (located : forest.locate? locator = some node) (others : List Locator) :
    forest.firstOf (locator :: others) = some (locator, node) := by
  rw [firstOf, List.findSome?_cons, located]
  rfl

theorem Forest.of_firstOf_eq_some {forest : Forest} {candidates : List Locator}
    {found : Locator × Node} (first : forest.firstOf candidates = some found) :
    found.1 ∈ candidates ∧ forest.locate? found.1 = some found.2 := by
  obtain ⟨locator, member, located⟩ := List.exists_of_findSome?_eq_some first
  obtain ⟨node, there, rfl⟩ := Option.map_eq_some_iff.mp located
  exact ⟨member, there⟩

namespace Polling

variable {backend : Backend σ} {app : String} {forest : Forest} {scene : Scene σ}

theorem find_of_stands (stands : backend.Stands app scene.state forest) (locator : Locator) :
    backend.find app locator scene = (.ok (forest.locate? locator), scene) := by
  rw [Backend.find, Scene.await, stands scene.clock]
  rfl

theorem lookUp_of_stands (stands : backend.Stands app scene.state forest)
    (candidates : List Locator) :
    lookUp backend app candidates scene = (.ok (forest.firstOf candidates), scene) := by
  induction candidates with
  | nil => rfl
  | cons locator rest ih =>
      rw [lookUp, find_of_stands stands, Forest.firstOf, List.findSome?_cons]
      cases forest.locate? locator with
      | none => exact ih
      | some node => rfl

theorem lookAway_of_stands (stands : backend.Stands app scene.state forest) (locator : Locator) :
    lookAway backend app locator scene =
      (.ok (if (forest.locate? locator).isSome then none else some ()), scene) := by
  rw [lookAway, find_of_stands stands]
  cases forest.locate? locator <;> rfl

theorem repeatRound_of_same {round : Scene σ → Round α × Scene σ} {found : Option α}
    (same : ∀ other : Scene σ, other.state = scene.state → round other = (.ok found, other))
    (backoff rounds : Nat) :
    ∃ after, after.state = scene.state ∧ (found.isSome = true → after = scene) ∧
      repeatRound round backoff (rounds + 1) scene = (.ok found, after) := by
  induction rounds generalizing scene with
  | zero =>
      refine ⟨scene, rfl, fun _ => rfl, ?_⟩
      rw [repeatRound, same scene rfl]
      cases found <;> rfl
  | succ rounds ih =>
      rw [repeatRound, same scene rfl]
      cases found with
      | some value => exact ⟨scene, rfl, fun _ => rfl, rfl⟩
      | none =>
          obtain ⟨after, kept, -, ended⟩ := @ih (scene.pause backoff) same
          exact ⟨after, kept, nofun, ended⟩

theorem rounds_pos (patience : Patience) : 0 < patience.rounds :=
  Nat.le_max_left 1 patience.attempts

theorem rounds_eq_succ (patience : Patience) : patience.rounds = patience.rounds - 1 + 1 :=
  (Nat.sub_add_cancel (rounds_pos patience)).symm

end Polling

namespace Procedure

variable {procedure : Procedure σ} {forest : Forest}

/-- Whether the backend of a procedure stands still, as it is. -/
def Faces (procedure : Procedure σ) (forest : Forest) : Prop :=
  procedure.backend.Stands procedure.app procedure.scene.state forest

theorem waitForAny_of_faces (faces : procedure.Faces forest) (first : Locator)
    (others : List Locator) :
    match forest.firstOf (first :: others) with
    | some found => procedure.waitForAny first others = (.ok found, procedure)
    | none => ∃ error after, procedure.waitForAny first others = (.error error, after) := by
  have same (other : Scene σ) (state : other.state = procedure.scene.state) :
      Polling.lookUp procedure.backend procedure.app (first :: others) other =
        (.ok (forest.firstOf (first :: others)), other) :=
    Polling.lookUp_of_stands (by rw [state]; exact faces) _
  obtain ⟨after, -, still, ended⟩ := Polling.repeatRound_of_same same
    procedure.patience.backoff (procedure.patience.rounds - 1)
  rw [← Polling.rounds_eq_succ] at ended
  rw [waitForAny, Polling.waitForAny, ended]
  cases found : forest.firstOf (first :: others) with
  | none => exact ⟨_, _, rfl⟩
  | some value =>
      rw [still (by rw [found]; rfl)]
      rfl

theorem waitUntilGone_of_faces (faces : procedure.Faces forest) (locator : Locator) :
    if (forest.locate? locator).isSome then
      ∃ error after, procedure.waitUntilGone locator = (.error error, after)
    else procedure.waitUntilGone locator = (.ok (), procedure) := by
  have same (other : Scene σ) (state : other.state = procedure.scene.state) :
      Polling.lookAway procedure.backend procedure.app locator other =
        (.ok (if (forest.locate? locator).isSome then none else some ()), other) :=
    Polling.lookAway_of_stands (by rw [state]; exact faces) _
  obtain ⟨after, -, still, ended⟩ := Polling.repeatRound_of_same same
    procedure.patience.backoff (procedure.patience.rounds - 1)
  rw [← Polling.rounds_eq_succ] at ended
  rw [waitUntilGone, Polling.waitUntilGone, ended]
  cases there : (forest.locate? locator).isSome with
  | true => exact ⟨_, _, rfl⟩
  | false =>
      rw [there] at still
      rw [still rfl]
      rfl

end Procedure

end Rehearsal
