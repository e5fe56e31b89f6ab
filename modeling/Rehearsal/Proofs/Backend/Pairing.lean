import Rehearsal.Proofs.Backend.Backlog
import Rehearsal.Proofs.Backend.Conversation
/-!
# Which line a call hears

Lines are paired with calls by their order alone. A call that somebody has given up leaves its line
to the next call, and every call after it is answered by the line of an earlier one, for as long as
the connection lasts.
-/

set_option autoImplicit false

namespace Rehearsal.Session

open Wire (Request Response)

variable {α β : Type}

/-! ## The lines of an agent -/

/-- An agent that has been given requests. -/
def agentAfter (agency : Agency α) (agent : α) (requests : List Request) : α :=
  requests.foldl (fun agent request => (reactionTo agency request agent).after) agent

/-- What an agent puts out for each of some requests. -/
def replies (agency : Agency α) : α → List Request → List Bytes
  | _, [] => []
  | agent, request :: rest =>
    bytesOf (reactionTo agency request agent).output ::
      replies agency (reactionTo agency request agent).after rest

theorem agentAfter_concat (agency : Agency α) (agent : α) (requests : List Request)
    (request : Request) :
    agentAfter agency agent (requests ++ [request]) =
      (reactionTo agency request (agentAfter agency agent requests)).after := by
  simp [agentAfter, List.foldl_append]

theorem replies_concat (agency : Agency α) (agent : α) (requests : List Request)
    (request : Request) :
    replies agency agent (requests ++ [request]) =
      replies agency agent requests ++
        [bytesOf (reactionTo agency request (agentAfter agency agent requests)).output] := by
  induction requests generalizing agent with
  | nil => rfl
  | cons first rest ih =>
      rw [List.cons_append, replies, ih, replies, List.cons_append]
      rfl

theorem length_replies (agency : Agency α) (agent : α) (requests : List Request) :
    (replies agency agent requests).length = requests.length := by
  induction requests generalizing agent with
  | nil => rfl
  | cons request rest ih => simp [replies, ih]

/-! ## What has not been read -/

/-- Of the lines that answer requests, the last `abandoned` ones have still to be read from the
connection that an agent was started for, but for some bytes at the beginning of the first one. -/
def Unread (agency : Agency α) (agent : α) (requests : List Request) (abandoned : Nat)
    (session : Session α) : Prop :=
  ∀ link, session.link = some link →
    link.agent = agentAfter agency agent requests ∧
    ∃ lost heard owed, Owes link lost owed ∧ replies agency agent requests = heard ++ owed ∧
      owed.length = abandoned ∧ (abandoned = 0 → lost = [])

theorem unread_of_unlinked {agency : Agency α} {agent : α} {requests : List Request}
    {abandoned : Nat} {session : Session α} (absent : session.link = none) :
    Unread agency agent requests abandoned session := by
  intro link present
  rw [absent] at present
  cases present

theorem unread_new (agency : Agency α) (agent : α) (session : Session α) (now : Nat) :
    Unread agency agent [] 0 (session.linked ⟨agent, none, now, []⟩) := by
  intro link present
  cases present
  refine ⟨rfl, [], [], [], ?_, rfl, rfl, fun _ => rfl⟩
  exact ⟨⟨.nil, fun _ member => nomatch member⟩, rfl, (fun _ member => nomatch member),
    List.not_mem_nil, rfl⟩

/-- A call hears what is left of the line of an earlier request, so many requests back as calls have
been abandoned; it is the call's own line, and the whole of it, if none has been. -/
def Hears (agency : Agency α) (agent : α) (requests : List Request) (request : Request)
    (abandoned : Nat) (kept : Bytes) : Prop :=
  ∃ lost, lineEnd ∉ lost ∧ (abandoned = 0 → lost = []) ∧
    (replies agency agent (requests ++ [request]))[requests.length - abandoned]? =
      some (lost ++ kept)

section

variable {agency : Agency α} {agent : α} {requests : List Request} {abandoned : Nat}
  {session : Session α} {link : Link α}

/-- What an exchange makes of a session with unread lines. -/
structure Exchanged (agency : Agency α) (agent : α) (requests : List Request) (request : Request)
    (abandoned : Nat) (reply : Reply (Session α) Response) : Prop where
  after : Unread agency agent (requests ++ [request]) abandoned reply.after
  givenUp : ∀ time, time < reply.delay →
    Unread agency agent (requests ++ [request]) (abandoned + 1) (reply.abandoned time)
  answer : (reply.answer = .error .timedOut ∧ reply.after.link = none) ∨
    ∃ kept, Hears agency agent requests request abandoned kept ∧ reply.answer = hear kept

theorem exchange_of_unread (answers : AnswersEachRequest agency)
    (present : session.link = some link)
    (unread : Unread agency agent requests abandoned session) (request : Request) (now : Nat) :
    Exchanged agency agent requests request abandoned (session.exchange agency request now) := by
  obtain ⟨same, lost, heard, owed, owes, lines, count, fresh⟩ := unread link present
  have backlogged := exchange_of_owes answers present owes request now
  rw [same] at backlogged
  have all : replies agency agent (requests ++ [request]) =
      heard ++ (owed ++ [bytesOf (reactionTo agency request
        (agentAfter agency agent requests)).output]) := by
    rw [replies_concat, lines, List.append_assoc]
  refine ⟨?_, ?_, ?_⟩
  · rcases backlogged.answer with ⟨-, absent⟩ | ⟨kept, rest, first, -, gone | more⟩
    · exact unread_of_unlinked absent
    · exact unread_of_unlinked gone
    · obtain ⟨after, linked, moved, owesAfter⟩ := more
      intro other presentAfter
      cases linked.symm.trans presentAfter
      have length := congrArg List.length first
      simp only [List.length_append, List.length_cons, List.length_nil] at length
      refine ⟨moved.trans (agentAfter_concat _ _ _ _).symm, [], heard ++ [lost ++ kept], rest,
        owesAfter, ?_, by omega, fun _ => rfl⟩
      rw [all, first, List.append_assoc]
      rfl
  · intro time early
    obtain ⟨after, more, linked, moved, owesAfter⟩ := backlogged.abandoned time early
    intro other presentAfter
    cases linked.symm.trans presentAfter
    refine ⟨moved.trans (agentAfter_concat _ _ _ _).symm, more, heard, _, owesAfter, all, ?_, ?_⟩
    · rw [List.length_append, count]
      rfl
    · exact fun none => absurd none (Nat.succ_ne_zero _)
  · rcases backlogged.answer with late | ⟨kept, rest, first, answer, -⟩
    · exact .inl late
    · refine .inr ⟨kept, ⟨lost, owes.open', fresh, ?_⟩, answer⟩
      have position : requests.length - abandoned = heard.length := by
        have length := congrArg List.length lines
        rw [length_replies, List.length_append, count] at length
        omega
      rw [all, first, position, List.getElem?_append_right (Nat.le_refl _), Nat.sub_self]
      rfl

/-! ## Calls and runs -/

/-- What a caller hears of an exchange, and what a caller who gives up leaves behind. -/
theorem awaitUpTo_of_exchanged {scene : Scene (Session α)} {patience : Option Nat}
    {call : Nat → Session α → Reply (Session α) β} {expected : Response → Except BackendError β}
    {request : Request} {reply : Reply (Session α) Response}
    (made : call scene.clock scene.state = expecting expected reply)
    (exchanged : Exchanged agency agent requests request abandoned reply) :
    let awaited := scene.awaitUpTo patience call
    Unread agency agent (requests ++ [request])
        (abandoned + if awaited.1.isNone then 1 else 0) awaited.2.state ∧
      (awaited.1 = none ∨
        (awaited.1 = some (.error .timedOut) ∧ awaited.2.state.link = none) ∨
        ∃ kept, Hears agency agent requests request abandoned kept ∧
          awaited.1 = some ((hear kept).bind expected)) := by
  intro awaited
  by_cases waits : Waits patience (call scene.clock scene.state)
  · have settled : awaited = (some (reply.answer.bind expected),
        ⟨reply.after, scene.clock + reply.delay⟩) := by
      rw [show awaited = scene.awaitUpTo patience call from rfl, Scene.awaitUpTo_of_waits waits,
        made]
      rfl
    rw [settled]
    refine ⟨exchanged.after, .inr ?_⟩
    rcases exchanged.answer with ⟨late, absent⟩ | ⟨kept, hears, answer⟩
    · refine .inl ⟨?_, absent⟩
      rw [late]
      rfl
    · exact .inr ⟨kept, hears, by rw [answer]⟩
  · obtain ⟨limit, early, given⟩ := Scene.awaitUpTo_of_not_waits waits
    have left : awaited = (none, ⟨reply.abandoned limit, scene.clock + limit⟩) := by
      rw [show awaited = scene.awaitUpTo patience call from rfl, given, made]
      rfl
    rw [made] at early
    rw [left]
    exact ⟨exchanged.givenUp limit early, .inl rfl⟩

theorem unread_connect (answers : AnswersEachRequest agency) {scene : Scene (Session α)}
    {program : String} {arguments : List String}
    (command : scene.state.command = program :: arguments)
    (started : agency.start program arguments = .ok agent) (patience : Option Nat) :
    let connected := scene.awaitUpTo patience (connect agency)
    Unread agency agent [.ping] (if connected.1.isNone then 1 else 0) connected.2.state := by
  intro connected
  have exchanged := exchange_of_unread answers rfl
    (unread_new agency agent scene.state scene.clock) .ping scene.clock
  have unread := (@awaitUpTo_of_exchanged _ _ _ _ _ _ _ patience _ _ _ _
    (connect_of_started command started) exchanged).1
  rw [Nat.zero_add] at unread
  exact unread

theorem unread_make (answers : AnswersEachRequest agency) (attempt : Attempt)
    {scene : Scene (Session α)} (unread : Unread agency agent requests abandoned scene.state) :
    let made := attempt.make agency scene
    Unread agency agent (requests ++ [attempt.call.request])
      (abandoned + if made.1.isNone then 1 else 0) made.2.state := by
  intro made
  cases present : scene.state.link with
  | none =>
      apply unread_of_unlinked
      rw [show made = attempt.make agency scene from rfl, Attempt.make_of_unlinked present]
      exact present
  | some link =>
      have exchanged := exchange_of_unread answers present unread attempt.call.request
        (scene.clock + attempt.pause)
      exact (@awaitUpTo_of_exchanged _ _ _ _ _ _ (scene.pause attempt.pause) attempt.patience _ _ _ _
        (Call.make_eq_expecting agency attempt.call _ _) exchanged).1

/-- In a run, each call that is given up leaves one more line unread, and no other does. -/
theorem unread_run (answers : AnswersEachRequest agency) (attempts : List Attempt)
    {scene : Scene (Session α)} (unread : Unread agency agent requests abandoned scene.state) :
    Unread agency agent (requests ++ attempts.map (·.call.request))
      (abandoned + (Attempt.run agency attempts scene).1.countP Option.isNone)
      (Attempt.run agency attempts scene).2.state := by
  induction attempts generalizing requests abandoned scene with
  | nil => simpa using unread
  | cons attempt rest ih =>
      have later := ih (unread_make answers attempt unread)
      simp only [Attempt.run_cons, List.map_cons, List.countP_cons]
      rw [List.append_assoc, List.singleton_append, Nat.add_right_comm, Nat.add_assoc] at later
      exact later

theorem make_of_unread (answers : AnswersEachRequest agency) (attempt : Attempt)
    {scene : Scene (Session α)} (present : scene.state.link = some link)
    (unread : Unread agency agent requests abandoned scene.state) :
    let made := attempt.make agency scene
    made.1 = none ∨ (made.1 = some (.error .timedOut) ∧ made.2.state.link = none) ∨
      ∃ kept, Hears agency agent requests attempt.call.request abandoned kept ∧
        made.1 = some (attempt.call.heard kept) := by
  have exchanged := exchange_of_unread answers present unread attempt.call.request
    (scene.clock + attempt.pause)
  exact (@awaitUpTo_of_exchanged _ _ _ _ _ _ (scene.pause attempt.pause) attempt.patience _ _ _ _
    (Call.make_eq_expecting agency attempt.call _ _) exchanged).2

end

/-! ## Agents that take their time -/

/-- Agents that count the requests they are given and answer each one by a line of its own after
some time. -/
def countingAgency (delay : Nat → Nat) (line : Nat → String) : Agency Nat where
  start := fun _ _ => .ok 0
  receive := fun _ count => ⟨[(delay count, lineBytes (line count))], none, count + 1⟩

theorem answersEachRequest_counting {delay : Nat → Nat} {line : Nat → String}
    (oneLine : ∀ count, '\n' ∉ (line count).toList) :
    AnswersEachRequest (countingAgency delay line) := by
  intro request count
  refine ⟨⟨_, lineEnd_not_mem_encode (oneLine count), ?_⟩, rfl⟩
  rw [← lineBytes_eq]
  exact List.append_nil _

/-- A line that stands at the beginning of what has not been read is the answer. -/
theorem exchange_of_line_first {agency : Agency α} {session : Session α} {link : Link α}
    (present : session.link = some link) {request : Request} {now time : Nat}
    (writable : gone now link = false) {line : String} {rest : List (Nat × Bytes)}
    (oneLine : '\n' ∉ line.toList)
    (pending : (give agency request.line now link).pending = (time, lineBytes line) :: rest)
    (inTime : time - now ≤ session.readLimit) :
    session.exchange agency request now =
      ⟨time - now, answerOf line,
        (session.noted request).linked { give agency request.line now link with pending := rest },
        (session.noted request).abandonedAfter now (give agency request.line now link)⟩ := by
  rw [exchange_of_linked present writable, awaitAnswer, pending, takeLine,
    cutLine_lineBytes oneLine]
  simp only [readLimit_noted, inTime, if_true, List.nil_append, readAnswer_lineBytes]
  rfl

/-- An agent that takes a second over its second request, whose answer the caller does not wait for:
the next caller hears that answer. -/
theorem hears_late_line {line : Nat → String} (oneLine : ∀ count, '\n' ∉ (line count).toList)
    (pong : Response.ofLine (line 0) = .ok .ok) :
    let agency := countingAgency (fun count => if count = 1 then 1000 else 0) line
    let scene : Scene (Session Nat) := ⟨.ofCommand ["bridge"] 30000, 0⟩
    let connected := scene.awaitUpTo none (connect agency)
    let run := Attempt.run agency [⟨0, .dump "viewer", some 400⟩] connected.2
    connected.1 = some (.ok ()) ∧ run.1 = [none] ∧ run.2.state.isConnected = true ∧
    (Attempt.make agency ⟨0, .dump "viewer", none⟩ run.2).1 =
      some (Call.result (.dump "viewer") (line 1)) := by
  intro agency scene connected run
  have ping := @exchange_of_line_first _ agency (scene.state.linked ⟨0, none, 0, []⟩) _ rfl
    .ping 0 0 rfl (line 0) [] (oneLine 0) rfl (Nat.zero_le _)
  obtain ⟨session, present, limit, ready⟩ : ∃ session : Session Nat,
      session.link = some ⟨1, none, 0, []⟩ ∧ session.readLimit = 30000 ∧
      connected = (some (.ok ()), ⟨session, 0⟩) := by
    refine ⟨((scene.state.linked ⟨0, none, 0, []⟩).noted .ping).linked ⟨1, none, 0, []⟩,
      rfl, rfl, ?_⟩
    have reply : connect agency 0 scene.state = _ :=
      (connect_of_started rfl rfl).trans (congrArg _ ping)
    simp only [connected, Scene.awaitUpTo, Scene.await]
    rw [show scene.clock = 0 from rfl, reply]
    simp only [expecting, answerOf, pong]
    rfl
  have first := @exchange_of_line_first _ agency session _ present (.dumpTree "viewer") 0 1000
    rfl (line 1) [] (oneLine 1) rfl (by rw [limit]; decide)
  obtain ⟨behind, late, limitAfter, left⟩ : ∃ behind : Session Nat,
      behind.link = some ⟨2, none, 1000, [(1000, lineBytes (line 1))]⟩ ∧
      behind.readLimit = 30000 ∧ run = ([none], ⟨behind, 400⟩) := by
    refine ⟨(session.noted (.dumpTree "viewer")).abandonedAfter 0
      (give agency (Request.dumpTree "viewer").line 0 ⟨1, none, 0, []⟩) 400, rfl, limit, ?_⟩
    have reply : Call.make agency (.dump "viewer") 0 session = _ :=
      (Call.make_eq_expecting _ _ _ _).trans (congrArg _ first)
    simp only [run, ready, Attempt.run_cons, Attempt.run_nil, Attempt.make, Scene.pause,
      Scene.awaitUpTo, Scene.awaitWithin, Nat.add_zero, reply]
    rfl
  have second := @exchange_of_line_first _ agency behind _ late (.dumpTree "viewer") 400 1000
    rfl (line 1) [(1000, lineBytes (line 2))] (oneLine 1) rfl (by rw [limitAfter]; decide)
  have reply : Call.make agency (.dump "viewer") 400 behind = _ :=
    (Call.make_eq_expecting _ _ _ _).trans (congrArg _ second)
  refine ⟨congrArg Prod.fst ready, congrArg Prod.fst left, ?_, ?_⟩
  · rw [left, isConnected, late]
    rfl
  · simp only [left, Attempt.make, Scene.pause, Scene.awaitUpTo, Scene.await, Nat.add_zero, reply]
    simp only [expecting, ← Call.heard_lineBytes, Call.heard, hear_lineBytes]

/-- A connection is made and calls follow, each given up after some time or waited for. The next
call fails if the connection has gone. Else it is given up itself, or takes the connection away
because no line comes in time, or it hears the line that is owed to the request made so many
requests before it as calls have been given up until then. -/
theorem make_hears_oldest_unread {agency : Agency α} (answers : AnswersEachRequest agency)
    {scene : Scene (Session α)} {program : String} {arguments : List String} {agent : α}
    (command : scene.state.command = program :: arguments)
    (started : agency.start program arguments = .ok agent) (patience : Option Nat)
    (since : List Attempt) (attempt : Attempt) :
    let connected := scene.awaitUpTo patience (connect agency)
    let run := Attempt.run agency since connected.2
    let requests := Request.ping :: since.map (·.call.request)
    let abandoned := (if connected.1.isNone then 1 else 0) + run.1.countP Option.isNone
    let made := attempt.make agency run.2
    abandoned ≤ requests.length ∧
    (run.2.state.isConnected = false → made.1 = some (.error .notConnected)) ∧
    (run.2.state.isConnected = true →
      made.1 = none ∨
      (made.1 = some (.error .timedOut) ∧ made.2.state.isConnected = false) ∨
      ∃ kept, Hears agency agent requests attempt.call.request abandoned kept ∧
        made.1 = some (attempt.call.heard kept)) := by
  intro connected run requests abandoned made
  have unread : Unread agency agent requests abandoned run.2.state :=
    unread_run answers since (unread_connect answers command started patience)
  refine ⟨?_, ?_, ?_⟩
  · have first : (if connected.1.isNone then 1 else 0) ≤ 1 := by
      cases connected.1.isNone <;> decide
    calc abandoned ≤ 1 + run.1.length := Nat.add_le_add first List.countP_le_length
      _ = requests.length := by
        rw [show run = Attempt.run agency since connected.2 from rfl, Attempt.length_run,
          List.length_cons, List.length_map, Nat.add_comm]
  · intro gone
    have absent : run.2.state.link = none := by simpa [isConnected] using gone
    exact congrArg Prod.fst (Attempt.make_of_unlinked absent attempt)
  · intro there
    obtain ⟨link, present⟩ := Option.isSome_iff_exists.mp there
    rcases make_of_unread answers attempt present unread with given | ⟨late, absent⟩ | hears
    · exact .inl given
    · refine .inr (.inl ⟨late, ?_⟩)
      rw [isConnected, absent]
      rfl
    · exact .inr (.inr hears)

/-- The first dump is given up before its answer comes, and that answer is taken for the one to the
second dump. -/
theorem make_hears_oldest_unread_late :
    let line := fun count =>
      if count = 0 then Response.ok.toJson.compact
      else (Response.error (if count = 1 then "first" else "second")).toJson.compact
    let agency := countingAgency (fun count => if count = 1 then 1000 else 0) line
    let scene : Scene (Session Nat) := ⟨.ofCommand ["bridge"] 30000, 0⟩
    let connected := scene.awaitUpTo none (connect agency)
    let run := Attempt.run agency [⟨0, .dump "viewer", some 400⟩] connected.2
    let made := Attempt.make agency ⟨0, .dump "viewer", none⟩ run.2
    connected.1 = some (.ok ()) ∧ run.1 = [none] ∧
    (∃ kept, Hears agency 0 [.ping, .dumpTree "viewer"] (.dumpTree "viewer") 1 kept ∧
      made.1 = some (Call.heard (.dump "viewer") kept)) ∧
    made.1 = some (.error (.commandFailed "first")) := by
  have oneLine := fun (response : Response) => Json.newline_not_mem_compact response.toJson
  have pong : Response.ofLine Response.ok.toJson.compact = .ok .ok :=
    Wire.ofLine_compact_of_shallow (Nat.zero_le _)
  have refusal := Call.result_refusal (.dump "viewer") "first"
  intro line
  have lines : ∀ count, '\n' ∉ (line count).toList := by
    intro count
    simp only [line]
    split
    · exact oneLine .ok
    · exact oneLine (.error _)
  rw [show Response.ok.toJson.compact = line 0 from rfl] at pong
  rw [show (Response.error "first").toJson.compact = line 1 from rfl] at refusal
  clear_value line
  intro agency scene connected run made
  obtain ⟨ready, left, there, stale⟩ := hears_late_line lines pong
  have answer : made.1 = some (.error (.commandFailed "first")) :=
    stale.trans (congrArg some refusal)
  obtain ⟨-, -, outcomes⟩ := @make_hears_oldest_unread _ agency (answersEachRequest_counting lines)
    scene "bridge" [] 0 rfl rfl none [⟨0, .dump "viewer", some 400⟩] ⟨0, .dump "viewer", none⟩
  rcases outcomes there with given | ⟨late, -⟩ | hears
  · exact absurd (answer.symm.trans given) (by simp)
  · exact absurd (answer.symm.trans late) (by simp)
  · rw [ready, left] at hears
    exact ⟨ready, left, hears, answer⟩

end Rehearsal.Session
