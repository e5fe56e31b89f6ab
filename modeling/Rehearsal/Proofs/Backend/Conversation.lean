import Rehearsal.Proofs.Backend.Scripted
import Rehearsal.Proofs.Backend.Settlement
/-!
# Conversations

As long as each request is answered by one line in time, every call is settled by its own line and
the connection is kept, whatever the lines say. The first answer that fails to come takes the
connection away, and nothing is sent after that.
-/

set_option autoImplicit false

namespace Rehearsal.Session

open Wire (Request Response)

variable {α : Type}

theorem Call.result_refusal (call : Call) (message : String) :
    call.result (Response.error message).toJson.compact = .error (.commandFailed message) := by
  have read : Response.ofLine (Response.error message).toJson.compact = .ok (.error message) :=
    Wire.ofLine_compact_of_shallow (Nat.zero_le _)
  rw [result, read]

/-- A session whose connection has nothing left to be read. -/
def Resting (session : Session α) : Prop :=
  ∃ link, session.link = some link ∧ AtRest link

/-- As long as there is a connection, its agent answers every call of a run by a line of its own. -/
def AnswersAll (agency : Agency α) : List (Attempt × String) → Scene (Session α) → Prop
  | [], _ => True
  | (attempt, line) :: rest, scene =>
    (∀ link, scene.state.link = some link →
      Answered agency scene.state.readLimit (scene.clock + attempt.pause) link
        attempt.call.request line) ∧
    AnswersAll agency rest (attempt.make agency scene).2

/-- A call that is answered by a line is settled by it, and the connection is at rest again. -/
theorem make_of_answered {agency : Agency α} {attempt : Attempt} {line : String}
    {scene : Scene (Session α)} {link : Link α} (patient : attempt.patience = none)
    (present : scene.state.link = some link) (rest : AtRest link)
    (answered : Answered agency scene.state.readLimit (scene.clock + attempt.pause) link
      attempt.call.request line) :
    (attempt.make agency scene).1 = some (attempt.call.result line) ∧
      Resting (attempt.make agency scene).2.state := by
  obtain ⟨delay, left, abandoned, restAfter, exchanged⟩ :=
    exchange_of_answered present rest answered
  obtain ⟨reply, same, made⟩ := make_of_patient agency patient scene
  rw [exchanged] at same
  rw [made, same]
  refine ⟨?_, ⟨_, rfl, restAfter⟩⟩
  rw [← Call.heard_lineBytes, Call.heard, hear_lineBytes]

theorem make_of_breaks {agency : Agency α} {attempt : Attempt} {error : BackendError}
    {scene : Scene (Session α)} {link : Link α} (patient : attempt.patience = none)
    (present : scene.state.link = some link) (rest : AtRest link)
    (breaks : Breaks agency scene.state.readLimit (scene.clock + attempt.pause) link
      attempt.call.request error) :
    (attempt.make agency scene).1 = some (.error error) ∧
      (attempt.make agency scene).2.state.link = none := by
  obtain ⟨answer, after⟩ := exchange_of_breaks present rest breaks
  obtain ⟨reply, same, made⟩ := make_of_patient agency patient scene
  rw [made, same]
  refine ⟨?_, after⟩
  rw [answer]
  rfl

/-- A run in which every call is answered by a line is settled line by line. -/
theorem run_of_answersAll {agency : Agency α} {exchanges : List (Attempt × String)}
    {scene : Scene (Session α)} (patient : ∀ entry ∈ exchanges, entry.1.patience = none)
    (resting : Resting scene.state) (answers : AnswersAll agency exchanges scene) :
    (Attempt.run agency (exchanges.map Prod.fst) scene).1 =
        exchanges.map (fun entry => some (entry.1.call.result entry.2)) ∧
      Resting (Attempt.run agency (exchanges.map Prod.fst) scene).2.state := by
  induction exchanges generalizing scene with
  | nil => exact ⟨rfl, resting⟩
  | cons entry exchanges ih =>
      obtain ⟨attempt, line⟩ := entry
      obtain ⟨link, present, rest⟩ := resting
      obtain ⟨first, others⟩ := answers
      obtain ⟨settled, restingAfter⟩ := make_of_answered
        (patient (attempt, line) List.mem_cons_self) present rest (first link present)
      obtain ⟨results, last⟩ := ih
        (fun entry member => patient entry (List.mem_cons_of_mem _ member)) restingAfter others
      refine ⟨?_, last⟩
      rw [List.map_cons, List.map_cons, Attempt.run_cons, settled, results]

theorem connect_of_answered {agency : Agency α} {session : Session α} {program : String}
    {arguments : List String} {agent : α} {now : Nat} {line : String}
    (command : session.command = program :: arguments)
    (started : agency.start program arguments = .ok agent)
    (answered : Answered agency session.readLimit now ⟨agent, none, now, []⟩ .ping line) :
    (connect agency now session).answer = (answerOf line).bind expectOk ∧
      Resting (connect agency now session).after := by
  obtain ⟨delay, left, abandoned, rest, exchanged⟩ :=
    @exchange_of_answered _ _ (session.linked ⟨agent, none, now, []⟩) _ _ _ _ rfl
      (atRest_new agent now) answered
  rw [connect_of_started command started, exchanged]
  simp only [expecting, true_and]
  exact ⟨_, rfl, rest⟩

/-- After a connection has been made, a run of calls that nobody abandons is settled line by line as
long as each request is answered by a line in time, and the connection is kept. Each line settles
its call for one thing alone, by what it says and, for a picture, by how its payload is laid out.
The first call that is not answered fails for that and takes the connection away; every later one
fails for want of a connection and changes nothing. -/
theorem conversation {agency : Agency α} {scene : Scene (Session α)} {program : String}
    {arguments : List String} {agent : α} {pong : String}
    (command : scene.state.command = program :: arguments)
    (started : agency.start program arguments = .ok agent)
    (answered : Answered agency scene.state.readLimit scene.clock
      ⟨agent, none, scene.clock, []⟩ .ping pong)
    {exchanges : List (Attempt × String)}
    (patient : ∀ entry ∈ exchanges, entry.1.patience = none)
    (answers : AnswersAll agency exchanges (scene.await (connect agency)).2) :
    let run := Attempt.run agency (exchanges.map Prod.fst) (scene.await (connect agency)).2
    (scene.await (connect agency)).1 = (answerOf pong).bind expectOk ∧
    run.1 = exchanges.map (fun entry => some (entry.1.call.result entry.2)) ∧
    (∀ entry ∈ exchanges, ∀ answer,
      entry.1.call.Settles entry.2 answer ↔ answer = entry.1.call.result entry.2) ∧
    run.2.state.isConnected = true ∧
    ∀ (attempt : Attempt) (error : BackendError), attempt.patience = none →
      (∀ link, run.2.state.link = some link →
        Breaks agency run.2.state.readLimit (run.2.clock + attempt.pause) link
          attempt.call.request error) →
      let broken := attempt.make agency run.2
      broken.1 = some (.error error) ∧
      (error = .timedOut ∨ (∃ message, error = .connectionLost message) ∨
        ∃ message, error = .io message) ∧
      broken.2.state.isConnected = false ∧
      ∀ later, (Attempt.run agency later broken.2).1 =
          later.map (fun _ => some (.error .notConnected)) ∧
        (Attempt.run agency later broken.2).2.state = broken.2.state := by
  intro run
  obtain ⟨connected, resting⟩ := connect_of_answered command started answered
  obtain ⟨results, last⟩ := run_of_answersAll patient resting answers
  obtain ⟨link, present, rest⟩ := last
  refine ⟨connected, results, fun entry _ answer => Call.settles_iff, ?_, ?_⟩
  · rw [isConnected, present]
    rfl
  · intro attempt error patientToo fails broken
    have breaks := fails link present
    obtain ⟨answer, absent⟩ := make_of_breaks patientToo present rest breaks
    refine ⟨answer, breaks.gone, ?_, Attempt.run_of_unlinked absent⟩
    rw [isConnected, absent]
    rfl

/-- An agent whose script begins with some lines answers calls by them, and goes on with the rest of
its script. -/
theorem answersAll_of_follows {missing : String → Option FileFault} {script rest : List Act}
    {exchanges : List (Attempt × String)} {scene : Scene (Session (List Act))}
    {link : Link (List Act)} (patient : ∀ entry ∈ exchanges, entry.1.patience = none)
    (oneLine : ∀ entry ∈ exchanges, '\n' ∉ entry.2.toList)
    (present : scene.state.link = some link)
    (follows : Follows (exchanges.map (fun entry => .reply (lineBytes entry.2)) ++ rest)
      scene.clock link) :
    let agency := scriptedAgency missing script
    let run := Attempt.run agency (exchanges.map Prod.fst) scene
    AnswersAll agency exchanges scene ∧
      ∃ after, run.2.state.link = some after ∧ Follows rest run.2.clock after := by
  induction exchanges generalizing scene link with
  | nil => exact ⟨trivial, link, present, follows⟩
  | cons entry exchanges ih =>
      obtain ⟨attempt, line⟩ := entry
      have solid : '\n' ∉ line.toList := oneLine (attempt, line) List.mem_cons_self
      obtain ⟨after, presentAfter, followsAfter⟩ := @follows_of_make missing script _ _ _ _ _
        (patient (attempt, line) List.mem_cons_self) present follows solid
      obtain ⟨others, last⟩ := ih
        (fun entry member => patient entry (List.mem_cons_of_mem _ member))
        (fun entry member => oneLine entry (List.mem_cons_of_mem _ member)) presentAfter
        followsAfter
      refine ⟨⟨?_, others⟩, last⟩
      intro other same
      cases present.symm.trans same
      have begins := follows.later (Nat.le_add_right _ attempt.pause)
      exact answered_of_reply begins.next begins.reading begins.free solid

/-- An agent that answers a call for a picture by one, and the next ones by a blank line, a refusal, a
line that says nothing and a response of another kind, and then ends. -/
theorem conversation_scripted :
    let ok := Response.ok.toJson.compact
    let exchanges : List (Attempt × String) :=
      [(⟨5, .screenshot, none⟩, (Response.screenshot "TWE=").toJson.compact),
        (⟨0, .dump "viewer", none⟩, ""),
        (⟨0, .screenshot, none⟩, (Response.error "no display").toJson.compact),
        (⟨0, .perform "viewer" (.typeText "a"), none⟩, "nonsense"),
        (⟨0, .dump "viewer", none⟩, ok)]
    let agency := scriptedAgency (fun _ => none)
      (.reply (lineBytes ok) :: exchanges.map (fun entry => .reply (lineBytes entry.2)))
    let scene : Scene (Session (List Act)) := ⟨.ofCommand ["bridge"] 30000, 0⟩
    let run := Attempt.run agency (exchanges.map Prod.fst) (scene.await (connect agency)).2
    (scene.await (connect agency)).1 = .ok () ∧
    run.1 = [some (.ok (.picture [77, 97])), some (.error (.garbled .empty)),
      some (.error (.commandFailed "no display")),
      some (.error (.garbled (.invalidMessage "expected ident"))),
      some (.error (.commandFailed "unexpected response: Ok"))] ∧
    run.2.state.isConnected = true ∧
    (Attempt.make agency ⟨5, .dump "viewer", none⟩ run.2).1 =
      some (.error (outputEnded (.exited (.code 0)))) := by
  have okLine := Json.newline_not_mem_compact Response.ok.toJson
  have pictureLine := Json.newline_not_mem_compact (Response.screenshot "TWE=").toJson
  have refusalLine := Json.newline_not_mem_compact (Response.error "no display").toJson
  have okMeans : Means Response.ok.toJson.compact .ok := means_compact (Nat.zero_le _)
  have pictureMeans : Call.Settles .screenshot (Response.screenshot "TWE=").toJson.compact
      (.ok (.picture [77, 97])) :=
    .picture (means_compact (Nat.zero_le _)) (Text.Base64.encodes_iff.mpr (by decide))
  have blankMeans : Call.Settles (.dump "viewer") "" (.error (.garbled .empty)) :=
    .blank (by simp [Text.AllBlank])
  have refusalMeans : Call.Settles .screenshot (Response.error "no display").toJson.compact
      (.error (.commandFailed "no display")) := .refused (means_compact (Nat.zero_le _))
  have nonsense : Response.ofLine "nonsense" = .error (.invalidMessage "expected ident") := rfl
  have nonsenseMeans : Call.result (.perform "viewer" (.typeText "a")) "nonsense" =
      .error (.garbled (.invalidMessage "expected ident")) := by rw [Call.result, nonsense]
  have otherMeans : Call.Settles (.dump "viewer") Response.ok.toJson.compact
      (.error (.commandFailed "unexpected response: Ok")) := by
    refine .unexpected okMeans ?_ (by simp)
    intro asked
    cases asked
  generalize Response.ok.toJson.compact = ok at *
  generalize (Response.screenshot "TWE=").toJson.compact = picture at *
  generalize (Response.error "no display").toJson.compact = refusal at *
  intro ok exchanges agency scene run
  have patient : ∀ entry ∈ exchanges, entry.1.patience = none := by
    simp [exchanges]
  have oneLine : ∀ entry ∈ exchanges, '\n' ∉ entry.2.toList := by
    simp [exchanges, ok, okLine, pictureLine, refusalLine]
  obtain ⟨first, present, follows⟩ := @follows_of_connect (fun _ => none)
    (exchanges.map (fun entry => .reply (lineBytes entry.2))) ok scene "bridge" [] rfl rfl okLine
  obtain ⟨answers, last, presentAfter, followsAfter⟩ :=
    @answersAll_of_follows (fun _ => none) _ [] exchanges _ first patient oneLine present
      (by rwa [List.append_nil])
  have answered : Answered agency scene.state.readLimit scene.clock
      ⟨.reply (lineBytes ok) :: exchanges.map (fun entry => .reply (lineBytes entry.2)), none,
        scene.clock, []⟩ .ping ok :=
    answered_of_reply rfl rfl (Nat.le_refl _) okLine
  obtain ⟨connected, results, settles, kept, breaking⟩ :=
    conversation rfl rfl answered patient answers
  have ending := followsAfter.later (Nat.le_add_right _ 5)
  obtain ⟨broken, -⟩ := breaking ⟨5, .dump "viewer", none⟩ (outputEnded (.exited (.code 0))) rfl (by
    intro link same
    cases presentAfter.symm.trans same
    exact breaks_of_scriptEnd ending.next ending.reading ending.free)
  refine ⟨?_, ?_, kept, broken⟩
  · rw [connected, answerOf, okMeans.1]
    rfl
  · rw [show run.1 = _ from results]
    simp only [exchanges, List.map_cons, List.map_nil]
    rw [← Call.settles_iff.mp pictureMeans, ← Call.settles_iff.mp blankMeans,
      ← Call.settles_iff.mp refusalMeans, nonsenseMeans, ← Call.settles_iff.mp otherMeans]

end Rehearsal.Session
