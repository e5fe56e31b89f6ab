import Rehearsal.Proofs.Backend.Output
import Rehearsal.Proofs.Text.Utf8
/-!
# What an exchange comes to

A request that has been given to an agent is answered by the first line of what has not been read,
whichever request that line was written for. There are three endings: a line in time, the end of the
output in time, or neither.
-/

set_option autoImplicit false

namespace Rehearsal

open Wire (Request Response)

/-- A connection whose output comes in order, all of it before the agent is done. -/
structure Link.Orderly {α : Type} (link : Link α) : Prop where
  ordered : Session.InOrder link.pending
  done : ∀ piece ∈ link.pending, piece.1 ≤ link.busyUntil

namespace Session

variable {α β : Type}

/-! ## Giving a request -/

/-- What an agent makes of a request that it reads. -/
def reactionTo (agency : Agency α) (request : Request) (agent : α) : Reaction α :=
  agency.receive (Text.Utf8.encode request.line) agent

theorem reaction_of_reading {link : Link α} (reading : link.departure = none) (agency : Agency α)
    (request : Request) :
    reaction agency request.line link = reactionTo agency request link.agent := by
  simp only [reaction, reading, reactionTo]

/-- As long as an agent reads, it can be written to. -/
theorem not_gone_of_reading {link : Link α} (reading : link.departure = none) (now : Nat) :
    gone now link = false := by
  simp only [gone, reading]

theorem bytesOf_give (agency : Agency α) (request : Request) (now : Nat) (link : Link α) :
    bytesOf (give agency request.line now link).pending =
      bytesOf link.pending ++ bytesOf (reaction agency request.line link).output := by
  simp [give]

theorem orderly_give (agency : Agency α) (line : String) (now : Nat) {link : Link α}
    (orderly : link.Orderly) : (give agency line now link).Orderly where
  ordered := by
    refine List.pairwise_append.mpr ⟨orderly.ordered, inOrder_schedule _ _, ?_⟩
    intro earlier old later new
    calc earlier.1 ≤ link.busyUntil := orderly.done earlier old
      _ ≤ max now link.busyUntil := Nat.le_max_right _ _
      _ ≤ later.1 := le_of_mem_schedule new
  done := by
    intro piece member
    rcases List.mem_append.mp member with old | new
    · calc piece.1 ≤ link.busyUntil := orderly.done piece old
        _ ≤ max now link.busyUntil := Nat.le_max_right _ _
        _ ≤ _ := le_finish _ _
    · exact le_finish_of_mem_schedule new

theorem orderly_cutOff (time : Nat) {link : Link α} (orderly : link.Orderly) :
    (cutOff time link).Orderly where
  ordered := orderly.ordered.filter _
  done := fun piece member => orderly.done piece (List.mem_filter.mp member).1

theorem orderly_left {link : Link α} (orderly : link.Orderly) {rest : Bytes} {time : Nat}
    {left : List (Nat × Bytes)} (taken : TakenFrom link.pending rest time left) :
    Link.Orderly { link with pending := left } where
  ordered := taken.ordered orderly.ordered
  done := by
    intro piece member
    obtain ⟨before, present, same⟩ := taken.times piece member
    exact same ▸ orderly.done before present

/-! ## Hearing the answer -/

/-- What bytes come to as an answer. -/
def hear (bytes : Bytes) : Except BackendError Response :=
  match Text.Utf8.decode bytes with
  | .error fault => .error (.io fault.message)
  | .ok line => answerOf line

theorem readAnswer_of_text {bytes : Bytes} {line : String}
    (text : Text.Utf8.decode bytes = .ok line) (link : Link α) (session : Session α) :
    session.readAnswer bytes link = (hear bytes, session.linked link) := by
  simp [readAnswer, hear, text]

theorem readAnswer_of_fault {bytes : Bytes} {fault : Text.Utf8.Fault}
    (garbage : Text.Utf8.decode bytes = .error fault) (link : Link α) (session : Session α) :
    session.readAnswer bytes link = (.error (.io fault.message), session.dropped) := by
  simp [readAnswer, garbage]

/-! ## Waiting for the answer -/

/-- The connection when a caller has stopped waiting after some time. -/
def abandonedAfter (now : Nat) (link : Link α) (session : Session α) (time : Nat) : Session α :=
  session.linked (cutOff (now + time) link)

theorem awaitAnswer_of_line {now : Nat} {link : Link α} {session : Session α} {line rest : Bytes}
    (orderly : link.Orderly) (cut : cutLine (bytesOf link.pending) = some (line, rest))
    (inTime : lineEnd ∈ arrived (now + session.readLimit) link.pending) :
    ∃ time left, TakenFrom link.pending rest time left ∧ time ≤ now + session.readLimit ∧
      session.awaitAnswer now link =
        ⟨time - now, (session.readAnswer line { link with pending := left }).1,
          (session.readAnswer line { link with pending := left }).2,
          session.abandonedAfter now link⟩ := by
  obtain ⟨time, left, taken, spec⟩ := takeLine_of_cutLine cut []
  have early := (spec.complete orderly.ordered _).mp inTime
  refine ⟨time, left, spec, early, ?_⟩
  have within : time - now ≤ session.readLimit := by omega
  rw [awaitAnswer]
  simp only [taken, within, if_true, List.nil_append]
  rfl

/-- Neither a line nor the end of the output comes in time. -/
def Overdue (now limit : Nat) (link : Link α) : Prop :=
  lineEnd ∉ arrived (now + limit) link.pending ∧
    (link.departure ≠ none → lineEnd ∉ bytesOf link.pending → now + limit < link.busyUntil)

theorem awaitAnswer_of_overdue {now : Nat} {link : Link α} {session : Session α}
    (orderly : link.Orderly) (overdue : Overdue now session.readLimit link) :
    session.awaitAnswer now link =
      ⟨session.readLimit, .error .timedOut, session.dropped, session.abandonedAfter now link⟩ := by
  obtain ⟨noLine, noEnd⟩ := overdue
  rw [awaitAnswer]
  cases cut : cutLine (bytesOf link.pending) with
  | some parts =>
      obtain ⟨time, left, taken, spec⟩ := takeLine_of_cutLine cut []
      have late : ¬ time ≤ now + session.readLimit :=
        fun early => noLine ((spec.complete orderly.ordered _).mpr early)
      have beyond : ¬ time - now ≤ session.readLimit := by omega
      simp only [taken, beyond, if_false]
      rfl
  | none =>
      have absent := (cutLine_eq_none_iff _).mp cut
      simp only [takeLine_of_not_mem absent]
      cases departure : link.departure with
      | none => rfl
      | some left =>
          have late := noEnd (departure ▸ Option.some_ne_none left) absent
          have beyond : ¬ link.busyUntil - now ≤ session.readLimit := by omega
          simp only [beyond, if_false]
          rfl

theorem exists_outputEnded (departure : Departure) :
    ∃ message, outputEnded departure = .connectionLost message := by
  cases departure <;> exact ⟨_, rfl⟩

theorem awaitAnswer_of_silence {now : Nat} {link : Link α} {session : Session α}
    {departure : Departure} (nothing : bytesOf link.pending = [])
    (leaves : link.departure = some departure)
    (inTime : link.busyUntil ≤ now + session.readLimit) :
    session.awaitAnswer now link =
      ⟨link.busyUntil - now, .error (outputEnded departure), session.dropped,
        session.abandonedAfter now link⟩ := by
  have noEnd : lineEnd ∉ bytesOf link.pending := by simp [nothing]
  have within : link.busyUntil - now ≤ session.readLimit := by omega
  rw [awaitAnswer]
  simp only [takeLine_of_not_mem noEnd, leaves, within, nothing, List.nil_append, List.isEmpty_nil,
    if_true]
  rfl

/-- What stands at the end of the output is heard like a line. -/
theorem awaitAnswer_of_rest {now : Nat} {link : Link α} {session : Session α}
    {departure : Departure} (something : bytesOf link.pending ≠ [])
    (noEnd : lineEnd ∉ bytesOf link.pending) (leaves : link.departure = some departure)
    (inTime : link.busyUntil ≤ now + session.readLimit) :
    session.awaitAnswer now link =
      ⟨link.busyUntil - now,
        (session.readAnswer (bytesOf link.pending) { link with pending := [] }).1,
        (session.readAnswer (bytesOf link.pending) { link with pending := [] }).2,
        session.abandonedAfter now link⟩ := by
  have within : link.busyUntil - now ≤ session.readLimit := by omega
  rw [awaitAnswer]
  simp only [takeLine_of_not_mem noEnd, leaves, within, if_true, List.nil_append, List.isEmpty_iff,
    something, if_false]
  rfl

/-! ## Exchanges -/

/-- The session when a request has been noted as sent. -/
def noted (request : Request) (session : Session α) : Session α :=
  { session with sent := session.sent ++ [request.toJson.compact] }

@[simp] theorem readLimit_noted (request : Request) (session : Session α) :
    (session.noted request).readLimit = session.readLimit := rfl

theorem exchange_of_linked {agency : Agency α} {session : Session α} {link : Link α}
    {now : Nat} (present : session.link = some link) (writable : gone now link = false)
    (request : Request) :
    session.exchange agency request now =
      (session.noted request).awaitAnswer now (give agency request.line now link) := by
  simp only [exchange, present, writable, Bool.false_eq_true, if_false]
  rfl

theorem exchange_of_gone {agency : Agency α} {session : Session α} {link : Link α} {now : Nat}
    (present : session.link = some link) (lost : gone now link = true) (request : Request) :
    session.exchange agency request now = .now (.error brokenPipe) session.dropped := by
  simp only [exchange, present, lost, if_true]

theorem exchange_of_unlinked {agency : Agency α} {session : Session α}
    (absent : session.link = none) (request : Request) (now : Nat) :
    session.exchange agency request now = .now (.error .notConnected) session := by
  simp only [exchange, absent]

end Session

end Rehearsal
