import Rehearsal.Proofs.Backend.Call
import Rehearsal.Proofs.Text.Blank
/-!
# Answers of one line

What a request comes to on a connection of which everything has been read: it is settled by the one
line that the agent answers, or the answer fails to come and the connection is taken away.
-/

set_option autoImplicit false

namespace Rehearsal

open Wire (Request Response)

variable {α : Type}

/-! ## Lines of text -/

theorem lineBytes_eq (line : String) :
    lineBytes line = Text.Utf8.encode line ++ [Session.lineEnd] := by
  rw [lineBytes, Text.Utf8.encode_append]
  rfl

theorem lineEnd_not_mem_encode {line : String} (oneLine : '\n' ∉ line.toList) :
    Session.lineEnd ∉ Text.Utf8.encode line :=
  fun member => oneLine ((Text.Utf8.mem_encode_ten_iff line).mp member)

theorem Session.cutLine_lineBytes {line : String} (oneLine : '\n' ∉ line.toList) :
    Session.cutLine (lineBytes line) = some (lineBytes line, []) := by
  rw [lineBytes_eq]
  exact Session.cutLine_of_line (lineEnd_not_mem_encode oneLine) []

theorem Wire.ofLine_newline (line : String) :
    Response.ofLine (line ++ "\n") = Response.ofLine line := by
  rw [Response.ofLine, Response.ofLine, Text.trim_newline]

theorem Session.hear_lineBytes (line : String) :
    Session.hear (lineBytes line) = Session.answerOf line := by
  simp only [hear, lineBytes, Text.Utf8.decode_encode, answerOf, Wire.ofLine_newline]

theorem Session.readAnswer_lineBytes (line : String) (link : Link α) (session : Session α) :
    session.readAnswer (lineBytes line) link = (Session.answerOf line, session.linked link) := by
  have text : Text.Utf8.decode (lineBytes line) = .ok (line ++ "\n") :=
    Text.Utf8.decode_encode (line ++ "\n")
  rw [readAnswer_of_text text, hear_lineBytes]

namespace Session

/-- How a call is settled by a line of text. -/
def Call.result (call : Call) (line : String) : Except BackendError Gain :=
  match Response.ofLine line with
  | .error fault => .error (.garbled fault)
  | .ok (.error message) => .error (.commandFailed message)
  | .ok response =>
    match call, response with
    | .dump _, .tree nodes => .ok (.forest nodes)
    | .perform _ _, .ok => .ok .done
    | .screenshot, .screenshot data =>
      match Wire.pictureBytes data with
      | .ok bytes => .ok (.picture bytes)
      | .error fault => .error (.garbled fault)
    | _, other => .error (unexpected other)

theorem Call.heard_lineBytes (call : Call) (line : String) :
    call.heard (lineBytes line) = call.result line := by
  rw [heard, hear_lineBytes, answerOf, result]
  cases Response.ofLine line with
  | error fault => rfl
  | ok response =>
      cases call with
      | dump app => cases response <;> rfl
      | perform app input => cases response <;> rfl
      | screenshot =>
          cases response with
          | screenshot data =>
              simp only [Except.bind, expected, expectPicture]
              cases Wire.pictureBytes data <;> rfl
          | ok => rfl
          | tree nodes => rfl
          | error message => rfl

/-! ## One exchange -/

/-- A connection of which everything has been read. -/
structure AtRest (link : Link α) : Prop where
  orderly : link.Orderly
  nothing : bytesOf link.pending = []

/-- What an agent puts out for a request, with the times at which it comes. -/
def scheduled (agency : Agency α) (request : Request) (now : Nat) (link : Link α) :
    List (Nat × Bytes) :=
  schedule (max now link.busyUntil) (reaction agency request.line link).output

/-- The agent of a connection answers a request by one line of text in time. The line has an end, or
else the output ends after it. -/
inductive Answered (agency : Agency α) (limit now : Nat) (link : Link α) (request : Request)
    (line : String) : Prop where
  | line (writable : gone now link = false) (oneLine : '\n' ∉ line.toList)
      (output : bytesOf (reaction agency request.line link).output = lineBytes line)
      (inTime : lineEnd ∈ arrived (now + limit) (scheduled agency request now link))
  | rest {departure : Departure} (writable : gone now link = false) (oneLine : '\n' ∉ line.toList)
      (filled : Text.Utf8.encode line ≠ [])
      (output : bytesOf (reaction agency request.line link).output = Text.Utf8.encode line)
      (leaves : (reaction agency request.line link).departure = some departure)
      (inTime : (give agency request.line now link).busyUntil ≤ now + limit)

/-- The agent of a connection fails to answer a request, and how the call fails for that. -/
inductive Breaks (agency : Agency α) (limit now : Nat) (link : Link α) (request : Request) :
    BackendError → Prop where
  /-- The agent's process has ended. -/
  | unwritten (lost : gone now link = true) : Breaks agency limit now link request brokenPipe
  /-- Neither a line nor the end of the output comes in time. -/
  | late (writable : gone now link = false)
      (overdue : Overdue now limit (give agency request.line now link)) :
      Breaks agency limit now link request .timedOut
  /-- The output ends without an answer. -/
  | closed {departure : Departure} (writable : gone now link = false)
      (silent : bytesOf (reaction agency request.line link).output = [])
      (leaves : (reaction agency request.line link).departure = some departure)
      (inTime : (give agency request.line now link).busyUntil ≤ now + limit) :
      Breaks agency limit now link request (outputEnded departure)
  /-- The line is no text. -/
  | garbage {front : Bytes} {fault : Text.Utf8.Fault} (writable : gone now link = false)
      (noEnd : lineEnd ∉ front)
      (output : bytesOf (reaction agency request.line link).output = front ++ [lineEnd])
      (inTime : lineEnd ∈ arrived (now + limit) (scheduled agency request now link))
      (undecodable : Text.Utf8.decode (front ++ [lineEnd]) = .error fault) :
      Breaks agency limit now link request (.io fault.message)
  /-- What stands at the end of the output is no text. -/
  | garbageRest {departure : Departure} {fault : Text.Utf8.Fault} (writable : gone now link = false)
      (filled : bytesOf (reaction agency request.line link).output ≠ [])
      (noEnd : lineEnd ∉ bytesOf (reaction agency request.line link).output)
      (leaves : (reaction agency request.line link).departure = some departure)
      (inTime : (give agency request.line now link).busyUntil ≤ now + limit)
      (undecodable : Text.Utf8.decode (bytesOf (reaction agency request.line link).output) =
        .error fault) :
      Breaks agency limit now link request (.io fault.message)

theorem bytesOf_give_of_atRest (agency : Agency α) (request : Request) (now : Nat) {link : Link α}
    (rest : AtRest link) :
    bytesOf (give agency request.line now link).pending =
      bytesOf (reaction agency request.line link).output := by
  rw [bytesOf_give, rest.nothing, List.nil_append]

theorem mem_arrived_give {agency : Agency α} {request : Request} {now time : Nat} {link : Link α}
    {byte : UInt8} (come : byte ∈ arrived time (scheduled agency request now link)) :
    byte ∈ arrived time (give agency request.line now link).pending := by
  obtain ⟨piece, member, inside⟩ := List.mem_flatMap.mp come
  obtain ⟨listed, early⟩ := List.mem_filter.mp member
  exact List.mem_flatMap.mpr
    ⟨piece, List.mem_filter.mpr ⟨List.mem_append_right _ listed, early⟩, inside⟩

/-- A request that is answered by one line is settled by that line, and all of it has been read. -/
theorem exchange_of_answered {agency : Agency α} {session : Session α} {link : Link α}
    {request : Request} {line : String} {now : Nat} (present : session.link = some link)
    (rest : AtRest link) (answered : Answered agency session.readLimit now link request line) :
    ∃ delay left abandoned,
      AtRest { give agency request.line now link with pending := left } ∧
      session.exchange agency request now =
        ⟨delay, answerOf line,
          (session.noted request).linked { give agency request.line now link with pending := left },
          abandoned⟩ := by
  have orderly := orderly_give agency request.line now rest.orderly
  cases answered with
  | line writable oneLine output inTime =>
      have cut : cutLine (bytesOf (give agency request.line now link).pending) =
          some (lineBytes line, []) := by
        rw [bytesOf_give_of_atRest agency request now rest, output]
        exact cutLine_lineBytes oneLine
      have come : lineEnd ∈ arrived (now + (session.noted request).readLimit)
          (give agency request.line now link).pending := mem_arrived_give inTime
      obtain ⟨time, left, taken, -, awaited⟩ := awaitAnswer_of_line orderly cut come
      refine ⟨time - now, left,
        (session.noted request).abandonedAfter now (give agency request.line now link),
        ⟨orderly_left orderly taken, taken.bytes⟩, ?_⟩
      rw [exchange_of_linked present writable, awaited, readAnswer_lineBytes]
  | rest writable oneLine filled output leaves inTime =>
      have all := bytesOf_give_of_atRest agency request now rest
      rw [output] at all
      have noEnd : lineEnd ∉ bytesOf (give agency request.line now link).pending := by
        rw [all]
        exact lineEnd_not_mem_encode oneLine
      have awaited : (session.noted request).awaitAnswer now (give agency request.line now link) =
          _ := awaitAnswer_of_rest (by rwa [all]) noEnd leaves inTime
      refine ⟨(give agency request.line now link).busyUntil - now, [],
        (session.noted request).abandonedAfter now (give agency request.line now link),
        ⟨⟨.nil, fun _ member => nomatch member⟩, rfl⟩, ?_⟩
      rw [exchange_of_linked present writable, awaited, all,
        readAnswer_of_text (Text.Utf8.decode_encode line), hear, Text.Utf8.decode_encode]

theorem Breaks.gone {agency : Agency α} {limit now : Nat} {link : Link α} {request : Request}
    {error : BackendError} (breaks : Breaks agency limit now link request error) :
    error = .timedOut ∨ (∃ message, error = .connectionLost message) ∨
      ∃ message, error = .io message := by
  cases breaks with
  | unwritten lost => exact .inr (.inl ⟨_, rfl⟩)
  | late writable overdue => exact .inl rfl
  | closed writable silent leaves inTime => exact .inr (.inl (exists_outputEnded _))
  | garbage writable noEnd output inTime undecodable => exact .inr (.inr ⟨_, rfl⟩)
  | garbageRest writable filled noEnd leaves inTime undecodable => exact .inr (.inr ⟨_, rfl⟩)

/-- A request that is not answered fails for that and takes the connection away. -/
theorem exchange_of_breaks {agency : Agency α} {session : Session α} {link : Link α}
    {request : Request} {error : BackendError} {now : Nat} (present : session.link = some link)
    (rest : AtRest link) (breaks : Breaks agency session.readLimit now link request error) :
    (session.exchange agency request now).answer = .error error ∧
      (session.exchange agency request now).after.link = none := by
  have orderly := orderly_give agency request.line now rest.orderly
  cases breaks with
  | unwritten lost =>
      rw [exchange_of_gone present lost]
      exact ⟨rfl, rfl⟩
  | late writable overdue =>
      have awaited : (session.noted request).awaitAnswer now (give agency request.line now link) =
          _ := awaitAnswer_of_overdue orderly overdue
      rw [exchange_of_linked present writable, awaited]
      exact ⟨rfl, rfl⟩
  | closed writable silent leaves inTime =>
      have nothing := bytesOf_give_of_atRest agency request now rest
      rw [silent] at nothing
      have awaited : (session.noted request).awaitAnswer now (give agency request.line now link) =
          _ := awaitAnswer_of_silence nothing leaves inTime
      rw [exchange_of_linked present writable, awaited]
      exact ⟨rfl, rfl⟩
  | @garbage front fault writable noEnd output inTime undecodable =>
      have cut : cutLine (bytesOf (give agency request.line now link).pending) =
          some (front ++ [lineEnd], []) := by
        rw [bytesOf_give_of_atRest agency request now rest, output]
        exact cutLine_of_line noEnd []
      have come : lineEnd ∈ arrived (now + (session.noted request).readLimit)
          (give agency request.line now link).pending := mem_arrived_give inTime
      obtain ⟨time, left, taken, -, awaited⟩ := awaitAnswer_of_line orderly cut come
      rw [exchange_of_linked present writable, awaited, readAnswer_of_fault undecodable]
      exact ⟨rfl, rfl⟩
  | garbageRest writable filled noEnd leaves inTime undecodable =>
      rw [← bytesOf_give_of_atRest agency request now rest] at filled noEnd undecodable
      have awaited : (session.noted request).awaitAnswer now (give agency request.line now link) =
          _ := awaitAnswer_of_rest filled noEnd leaves inTime
      rw [exchange_of_linked present writable, awaited, readAnswer_of_fault undecodable]
      exact ⟨rfl, rfl⟩

/-! ## Calls and connections -/

theorem make_of_patient (agency : Agency α) {attempt : Attempt} (patient : attempt.patience = none)
    (scene : Scene (Session α)) :
    ∃ reply : Reply (Session α) Response,
      reply = scene.state.exchange agency attempt.call.request (scene.clock + attempt.pause) ∧
      attempt.make agency scene =
        (some (reply.answer.bind attempt.call.expected),
          ⟨reply.after, scene.clock + attempt.pause + reply.delay⟩) := by
  refine ⟨_, rfl, ?_⟩
  rw [Attempt.make, patient]
  simp only [Scene.awaitUpTo, Scene.await, Call.make_eq_expecting, expecting]
  rfl

theorem atRest_new (agent : α) (now : Nat) : AtRest ⟨agent, none, now, []⟩ :=
  ⟨⟨.nil, fun _ member => nomatch member⟩, rfl⟩

theorem connect_of_started {agency : Agency α} {session : Session α} {program : String}
    {arguments : List String} {agent : α} {now : Nat}
    (command : session.command = program :: arguments)
    (started : agency.start program arguments = .ok agent) :
    connect agency now session =
      expecting expectOk
        ((session.linked ⟨agent, none, now, []⟩).exchange agency .ping now) := by
  simp only [connect, command, started]

end Session

end Rehearsal
