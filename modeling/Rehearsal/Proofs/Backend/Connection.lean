import Rehearsal.Proofs.Backend.Call
/-!
# What becomes of a connection

An exchange takes the connection away exactly when it fails with one of three errors: the answer is
late, the agent or its output has ended, or what it writes is not text. No other failure of a call
does.
-/

set_option autoImplicit false

namespace Rehearsal

open Wire (Request Response)

variable {α β : Type}

/-- The errors with which a session loses its connection. -/
def BackendError.Disconnects (error : BackendError) : Prop :=
  error = .timedOut ∨ (∃ message, error = .connectionLost message) ∨ ∃ message, error = .io message

theorem BackendError.Disconnects.eq_timedOut {error : BackendError}
    (disconnects : error.Disconnects) (bearable : error.isFatal = false) : error = .timedOut := by
  rcases disconnects with rfl | ⟨message, rfl⟩ | ⟨message, rfl⟩
  · rfl
  · cases bearable
  · cases bearable

namespace Session

/-- Whether an answer tells what has become of the connection. -/
def Tells (answer : Except BackendError β) (after : Session α) : Prop :=
  after.isConnected = false ↔ ∃ error, answer = .error error ∧ error.Disconnects

theorem tells_of_dropped {error : BackendError} (disconnects : error.Disconnects)
    (session : Session α) : Tells (.error error : Except BackendError β) session.dropped :=
  ⟨fun _ => ⟨error, rfl, disconnects⟩, fun _ => rfl⟩

theorem tells_of_linked {answer : Except BackendError β}
    (bearable : ∀ error, answer = .error error → ¬ error.Disconnects) (session : Session α)
    (link : Link α) : Tells answer (session.linked link) := by
  constructor
  · intro gone
    cases gone
  · rintro ⟨error, failed, disconnects⟩
    exact absurd disconnects (bearable error failed)

theorem bearable_commandFailed (message : String) :
    ¬ (BackendError.commandFailed message).Disconnects := by
  rintro (same | ⟨_, same⟩ | ⟨_, same⟩) <;> cases same

theorem bearable_garbled (fault : Wire.MessageFault) :
    ¬ (BackendError.garbled fault).Disconnects := by
  rintro (same | ⟨_, same⟩ | ⟨_, same⟩) <;> cases same

/-- What a line says never takes the connection away. -/
theorem bearable_answerOf {line : String} {error : BackendError}
    (failed : answerOf line = .error error) : ¬ error.Disconnects := by
  rw [answerOf] at failed
  split at failed
  · cases failed
    exact bearable_garbled _
  · cases failed
    exact bearable_commandFailed _
  · cases failed

theorem tells_readAnswer (bytes : Bytes) (link : Link α) (session : Session α) :
    Tells (session.readAnswer bytes link).1 (session.readAnswer bytes link).2 := by
  rw [readAnswer]
  cases Text.Utf8.decode bytes with
  | error fault => exact tells_of_dropped (.inr (.inr ⟨_, rfl⟩)) session
  | ok line =>
      dsimp only
      exact tells_of_linked (fun error failed => bearable_answerOf failed) session link

/-- Waiting for an answer, bytes are read or the connection is dropped. -/
theorem awaitAnswer_cases (now : Nat) (link : Link α) (session : Session α) :
    (∃ delay bytes left, session.awaitAnswer now link =
      ⟨delay, (session.readAnswer bytes left).1, (session.readAnswer bytes left).2,
        session.abandonedAfter now link⟩) ∨
    ∃ delay error, error.Disconnects ∧ session.awaitAnswer now link =
      ⟨delay, .error error, session.dropped, session.abandonedAfter now link⟩ := by
  rw [awaitAnswer]
  cases takeLine [] link.pending with
  | ok taken =>
      dsimp only
      split
      · exact .inl ⟨_, _, _, rfl⟩
      · exact .inr ⟨_, _, .inl rfl, rfl⟩
  | error bytes =>
      dsimp only
      cases link.departure with
      | none => exact .inr ⟨_, _, .inl rfl, rfl⟩
      | some departure =>
          dsimp only
          split
          · cases bytes with
            | nil => exact .inr ⟨_, _, .inr (.inl (exists_outputEnded departure)), rfl⟩
            | cons byte bytes => exact .inl ⟨_, _, _, rfl⟩
          · exact .inr ⟨_, _, .inl rfl, rfl⟩

theorem tells_awaitAnswer (now : Nat) (link : Link α) (session : Session α) :
    Tells (session.awaitAnswer now link).answer (session.awaitAnswer now link).after := by
  rcases awaitAnswer_cases now link session with
    ⟨delay, bytes, left, read⟩ | ⟨delay, error, disconnects, dropped⟩
  · rw [read]
    exact tells_readAnswer bytes left session
  · rw [dropped]
    exact tells_of_dropped disconnects session

/-- An exchange on a connection takes it away exactly when it fails for that. -/
theorem tells_exchange {session : Session α} (connected : session.isConnected = true)
    (agency : Agency α) (request : Request) (now : Nat) :
    Tells (session.exchange agency request now).answer
      (session.exchange agency request now).after := by
  obtain ⟨link, present⟩ := Option.isSome_iff_exists.mp connected
  cases lost : gone now link with
  | true =>
      rw [exchange_of_gone present lost]
      exact tells_of_dropped (.inr (.inl ⟨_, rfl⟩)) session
  | false =>
      rw [exchange_of_linked present lost]
      exact tells_awaitAnswer _ _ _

/-- What a call takes from a response makes no difference to the connection. -/
theorem tells_expecting {expected : Response → Except BackendError β}
    (bearable : ∀ response error, expected response = .error error → ¬ error.Disconnects)
    {reply : Reply (Session α) Response} (tells : Tells reply.answer reply.after) :
    Tells (expecting expected reply).answer (expecting expected reply).after := by
  obtain ⟨delay, answer, after, abandoned⟩ := reply
  cases answer with
  | error error =>
      refine tells.trans ⟨?_, ?_⟩
      · rintro ⟨_, failed, disconnects⟩
        cases failed
        exact ⟨error, rfl, disconnects⟩
      · rintro ⟨_, failed, disconnects⟩
        cases failed
        exact ⟨error, rfl, disconnects⟩
  | ok response =>
      constructor
      · intro gone
        obtain ⟨error, failed, -⟩ := tells.mp gone
        cases failed
      · rintro ⟨error, failed, disconnects⟩
        exact absurd disconnects (bearable response error failed)

theorem bearable_unexpected (response : Response) : ¬ (unexpected response).Disconnects := by
  rw [unexpected]
  exact bearable_commandFailed _

theorem bearable_expectTree {response : Response} {error : BackendError}
    (failed : expectTree response = .error error) : ¬ error.Disconnects := by
  cases response with
  | tree nodes => cases failed
  | _ =>
      cases failed
      exact bearable_unexpected _

/-- A request for the tree on a connection takes it away exactly when it fails for that. -/
theorem tells_dump {session : Session α} (connected : session.isConnected = true)
    (agency : Agency α) (app : String) (now : Nat) :
    Tells ((backend agency).dump app now session).answer
      ((backend agency).dump app now session).after :=
  tells_expecting (fun _ _ failed => bearable_expectTree failed)
    (tells_exchange connected agency _ now)

theorem link_of_disconnected {session : Session α} (lost : session.isConnected = false) :
    session.link = none :=
  Option.isNone_iff_eq_none.mp (Option.isSome_eq_false_iff.mp lost)

/-- A session without a connection says so and is left as it is. -/
theorem dump_of_disconnected {session : Session α} (lost : session.isConnected = false)
    (agency : Agency α) (app : String) (now : Nat) :
    (backend agency).dump app now session = .now (.error .notConnected) session := by
  change expecting expectTree (session.exchange agency (.dumpTree app) now) = _
  rw [exchange_of_unlinked (link_of_disconnected lost)]
  rfl

end Session

end Rehearsal
