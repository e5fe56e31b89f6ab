import Rehearsal.Proofs.Backend.Exchange
/-!
# Calls of a session

The calls that a session takes as a backend, as data, so that runs of any calls can be spoken of. A
caller waits for an answer to the end or gives up after some time.
-/

set_option autoImplicit false

namespace Rehearsal

open Wire (Request Response)

variable {σ α β γ : Type}

/-- A reply with another answer. -/
def Reply.map (change : α → β) (reply : Reply σ α) : Reply σ β :=
  ⟨reply.delay, reply.answer.map change, reply.after, reply.abandoned⟩

/-- Calls a backend and waits, for so long at most if there is a limit. Nothing is the answer of a
caller who has given up. -/
def Scene.awaitUpTo (scene : Scene σ) (patience : Option Nat) (call : Nat → σ → Reply σ α) :
    Option (Except BackendError α) × Scene σ :=
  match patience with
  | none => (some (scene.await call).1, (scene.await call).2)
  | some limit => scene.awaitWithin limit call

/-- Whether a caller waits for a reply to the end. -/
def Waits (patience : Option Nat) (reply : Reply σ α) : Prop :=
  ∀ limit ∈ patience, reply.delay ≤ limit

instance (patience : Option Nat) (reply : Reply σ α) : Decidable (Waits patience reply) :=
  Option.decidableForallMem patience

theorem Scene.awaitUpTo_of_waits {scene : Scene σ} {patience : Option Nat}
    {call : Nat → σ → Reply σ α} (waits : Waits patience (call scene.clock scene.state)) :
    scene.awaitUpTo patience call =
      (some (call scene.clock scene.state).answer,
        ⟨(call scene.clock scene.state).after,
          scene.clock + (call scene.clock scene.state).delay⟩) := by
  cases patience with
  | none => rfl
  | some limit =>
      have within := waits limit rfl
      simp [awaitUpTo, awaitWithin, within]

theorem Scene.awaitUpTo_of_now {scene : Scene σ} {patience : Option Nat}
    {call : Nat → σ → Reply σ α} {answer : Except BackendError α} {after : σ}
    (atOnce : call scene.clock scene.state = .now answer after) :
    scene.awaitUpTo patience call = (some answer, ⟨after, scene.clock⟩) := by
  have waits : Waits patience (call scene.clock scene.state) := by
    intro limit _
    rw [atOnce]
    exact Nat.zero_le limit
  rw [awaitUpTo_of_waits waits, atOnce]
  rfl

theorem Scene.awaitUpTo_of_not_waits {scene : Scene σ} {patience : Option Nat}
    {call : Nat → σ → Reply σ α} (gives : ¬ Waits patience (call scene.clock scene.state)) :
    ∃ limit, limit < (call scene.clock scene.state).delay ∧
      scene.awaitUpTo patience call =
        (none, ⟨(call scene.clock scene.state).abandoned limit, scene.clock + limit⟩) := by
  cases patience with
  | none => exact absurd (fun limit member => nomatch member) gives
  | some limit =>
      have beyond : ¬ (call scene.clock scene.state).delay ≤ limit := by
        intro within
        exact gives fun other member => Option.some.inj member ▸ within
      exact ⟨limit, Nat.not_le.mp beyond, by simp [awaitUpTo, awaitWithin, beyond]⟩

namespace Session

/-- A call of a session. -/
inductive Call where
  | dump (app : String)
  | perform (app : String) (input : Input)
  | screenshot
  deriving DecidableEq, Repr

/-- What a call yields. -/
inductive Gain where
  | forest (forest : Forest)
  | done
  | picture (bytes : Bytes)

namespace Call

/-- The request that is sent for a call. -/
def request : Call → Request
  | .dump app => .dumpTree app
  | .perform app input => .input app input
  | .screenshot => .screenshot

/-- Makes a call. -/
def make (agency : Agency α) (call : Call) (now : Nat) (session : Session α) :
    Reply (Session α) Gain :=
  match call with
  | .dump app => ((backend agency).dump app now session).map .forest
  | .perform app input =>
    ((backend agency).perform app input now session).map fun _ => .done
  | .screenshot => ((backend agency).screenshot now session).map .picture

/-- What a call takes from a response. -/
def expected : Call → Response → Except BackendError Gain
  | .dump _, response => (expectTree response).map .forest
  | .perform _ _, response => (expectOk response).map fun _ => .done
  | .screenshot, response => (expectPicture response).map .picture

/-- What bytes come to as the answer of a call. -/
def heard (call : Call) (bytes : Bytes) : Except BackendError Gain :=
  (hear bytes).bind call.expected

theorem map_expecting (expected : Response → Except BackendError β) (change : β → γ)
    (reply : Reply (Session α) Response) :
    (expecting expected reply).map change =
      expecting (fun response => (expected response).map change) reply := by
  obtain ⟨delay, answer, after, abandoned⟩ := reply
  cases answer <;> rfl

theorem make_eq_expecting (agency : Agency α) (call : Call) (now : Nat) (session : Session α) :
    call.make agency now session =
      expecting call.expected (session.exchange agency call.request now) := by
  cases call <;> exact map_expecting _ _ _

theorem make_of_unlinked {agency : Agency α} {session : Session α} (absent : session.link = none)
    (call : Call) (now : Nat) :
    call.make agency now session = .now (.error .notConnected) session := by
  rw [make_eq_expecting, exchange_of_unlinked absent]
  rfl

end Call

/-- A call in the course of a run: how long after the one before it is made, and how long the caller
waits. -/
structure Attempt where
  pause : Nat
  call : Call
  patience : Option Nat
  deriving DecidableEq, Repr

namespace Attempt

/-- Makes a call and waits as long as the caller does. -/
def make (agency : Agency α) (attempt : Attempt) (scene : Scene (Session α)) :
    Option (Except BackendError Gain) × Scene (Session α) :=
  (scene.pause attempt.pause).awaitUpTo attempt.patience (attempt.call.make agency)

/-- Makes calls one after the other. -/
def run (agency : Agency α) : List Attempt → Scene (Session α) →
    List (Option (Except BackendError Gain)) × Scene (Session α)
  | [], scene => ([], scene)
  | attempt :: rest, scene =>
    let (answer, after) := attempt.make agency scene
    let (answers, last) := run agency rest after
    (answer :: answers, last)

@[simp] theorem run_nil (agency : Agency α) (scene : Scene (Session α)) :
    run agency [] scene = ([], scene) := rfl

@[simp] theorem run_cons (agency : Agency α) (attempt : Attempt) (rest : List Attempt)
    (scene : Scene (Session α)) :
    run agency (attempt :: rest) scene =
      ((attempt.make agency scene).1 :: (run agency rest (attempt.make agency scene).2).1,
        (run agency rest (attempt.make agency scene).2).2) := rfl

@[simp] theorem length_run (agency : Agency α) (attempts : List Attempt)
    (scene : Scene (Session α)) : (run agency attempts scene).1.length = attempts.length := by
  induction attempts generalizing scene with
  | nil => rfl
  | cons attempt rest ih => simp [ih]

theorem make_of_unlinked {agency : Agency α} {scene : Scene (Session α)}
    (absent : scene.state.link = none) (attempt : Attempt) :
    attempt.make agency scene =
      (some (.error .notConnected), scene.pause attempt.pause) :=
  Scene.awaitUpTo_of_now (Call.make_of_unlinked absent _ _)

/-- A session that has lost its connection answers every call alike and is left as it is. -/
theorem run_of_unlinked {agency : Agency α} {scene : Scene (Session α)}
    (absent : scene.state.link = none) (attempts : List Attempt) :
    (run agency attempts scene).1 = attempts.map (fun _ => some (.error .notConnected)) ∧
      (run agency attempts scene).2.state = scene.state := by
  induction attempts generalizing scene with
  | nil => exact ⟨rfl, rfl⟩
  | cons attempt rest ih =>
      obtain ⟨answers, state⟩ := @ih (scene.pause attempt.pause) absent
      rw [run_cons, make_of_unlinked absent]
      exact ⟨congrArg _ answers, state⟩

end Attempt

end Session

end Rehearsal
