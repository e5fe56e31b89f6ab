import Mathlib.Data.List.Induction
import Rehearsal.Proofs.Backend.Connection
import Rehearsal.Proofs.Backend.Conversation
/-!
# When a session is connected

A session may be connected and called in any order, by callers who wait for the answer or do not,
while agents come and go. It is connected when an agent has been started since which no exchange has
taken the connection away. Whether the agent's sign of life was accepted makes no difference to
that, nor does a later attempt to start an agent that cannot be started.
-/

set_option autoImplicit false

namespace Rehearsal.Session

open Wire (Request Response)

variable {α β γ : Type}

/-! ## Histories -/

/-- What is asked of a session. -/
inductive Deed where
  | connect
  | call (call : Call)
  deriving DecidableEq, Repr

/-- Something that is asked in the course of a history: of which agents at that time, how long after
what was asked before it, and how long the caller waits. -/
structure Turn (α : Type) where
  agency : Agency α
  pause : Nat
  deed : Deed
  patience : Option Nat

/-- A turn and how it was answered, if the caller waited for that. -/
structure Told (α : Type) where
  turn : Turn α
  answer : Option (Except BackendError Gain)

def replyTo (agency : Agency α) (deed : Deed) (now : Nat) (session : Session α) :
    Reply (Session α) Gain :=
  match deed with
  | .connect => (connect agency now session).map fun _ => .done
  | .call call => call.make agency now session

namespace Turn

def make (turn : Turn α) (scene : Scene (Session α)) :
    Option (Except BackendError Gain) × Scene (Session α) :=
  (scene.pause turn.pause).awaitUpTo turn.patience (replyTo turn.agency turn.deed)

/-- Takes one turn after the other, and keeps the answers. -/
def run : List (Turn α) → Scene (Session α) → List (Told α) × Scene (Session α)
  | [], scene => ([], scene)
  | turn :: rest, scene =>
    let (answer, after) := turn.make scene
    let (history, last) := run rest after
    (⟨turn, answer⟩ :: history, last)

/-- Whether the turn is a connect that an agent can be started for by a command. -/
def Starts (command : List String) (turn : Turn α) : Prop :=
  turn.deed = .connect ∧ ∃ program arguments agent,
    command = program :: arguments ∧ turn.agency.start program arguments = .ok agent

theorem run_concat (turns : List (Turn α)) (turn : Turn α) (scene : Scene (Session α)) :
    run (turns ++ [turn]) scene =
      ((run turns scene).1 ++ [⟨turn, (turn.make (run turns scene).2).1⟩],
        (turn.make (run turns scene).2).2) := by
  induction turns generalizing scene with
  | nil => rfl
  | cons first rest ih =>
      simp only [List.cons_append, run, ih]

end Turn

/-- Whether an answer is one with which the connection goes. -/
def Loses (answer : Option (Except BackendError β)) : Prop :=
  ∃ error, answer = some (.error error) ∧ error.Disconnects

/-- Whether something has happened in a history after which only things of some kind have. -/
def Since (first later : Told α → Prop) (history : List (Told α)) : Prop :=
  ∃ before told after, history = before ++ told :: after ∧ first told ∧
    ∀ other ∈ after, later other

section

variable {first later : Told α → Prop}

theorem not_since_nil : ¬ Since first later [] := by
  rintro ⟨before, told, after, same, -⟩
  exact List.append_ne_nil_of_right_ne_nil before (List.cons_ne_nil told after) same.symm

theorem since_concat_iff {history : List (Told α)} {last : Told α} :
    Since first later (history ++ [last]) ↔
      first last ∨ later last ∧ Since first later history := by
  constructor
  · rintro ⟨before, told, after, same, happened, kept⟩
    rcases List.eq_nil_or_concat after with rfl | ⟨after, other, rfl⟩
    · obtain ⟨-, ended⟩ := List.append_inj' same rfl
      obtain rfl : last = told := List.head_eq_of_cons_eq ended
      exact .inl happened
    · rw [List.concat_eq_append, ← List.cons_append, ← List.append_assoc] at same
      obtain ⟨earlier, ended⟩ := List.append_inj' same rfl
      obtain rfl : last = other := List.head_eq_of_cons_eq ended
      exact .inr ⟨kept last (by simp), before, told, after, earlier, happened,
        fun other member => kept other (by simp [member])⟩
  · rintro (happened | ⟨kept, before, told, after, rfl, happened, keptBefore⟩)
    · exact ⟨history, last, [], rfl, happened,
        fun other member => absurd member List.not_mem_nil⟩
    · refine ⟨before, told, after ++ [last], by simp, happened, fun other member => ?_⟩
      rcases List.mem_append.mp member with earlier | final
      · exact keptBefore other earlier
      · rw [List.mem_singleton.mp final]
        exact kept

end

/-! ## Exchanges -/

theorem bearable_expectOk {response : Response} {error : BackendError}
    (failed : expectOk response = .error error) : ¬ error.Disconnects := by
  cases response with
  | ok => cases failed
  | _ =>
      cases failed
      exact bearable_unexpected _

theorem bearable_expectPicture {response : Response} {error : BackendError}
    (failed : expectPicture response = .error error) : ¬ error.Disconnects := by
  cases response with
  | screenshot data =>
      simp only [expectPicture] at failed
      split at failed
      · cases failed
      · cases failed
        exact bearable_garbled _
  | _ =>
      cases failed
      exact bearable_unexpected _

theorem bearable_map {expected : Response → Except BackendError β}
    (bearable : ∀ response error, expected response = .error error → ¬ error.Disconnects)
    (change : β → γ) (response : Response) (error : BackendError)
    (failed : (expected response).map change = .error error) : ¬ error.Disconnects := by
  cases taken : expected response with
  | error other =>
      rw [taken] at failed
      cases failed
      exact bearable response error taken
  | ok gain =>
      rw [taken] at failed
      cases failed

theorem bearable_expected (call : Call) (response : Response) (error : BackendError)
    (failed : call.expected response = .error error) : ¬ error.Disconnects := by
  cases call with
  | dump app => exact bearable_map (fun _ _ => bearable_expectTree) _ response error failed
  | perform app input => exact bearable_map (fun _ _ => bearable_expectOk) _ response error failed
  | screenshot => exact bearable_map (fun _ _ => bearable_expectPicture) _ response error failed

theorem command_readAnswer (bytes : Bytes) (link : Link α) (session : Session α) :
    (session.readAnswer bytes link).2.command = session.command := by
  rw [readAnswer]
  cases Text.Utf8.decode bytes <;> rfl

theorem command_awaitAnswer (now : Nat) (link : Link α) (session : Session α) :
    (session.awaitAnswer now link).after.command = session.command := by
  rcases awaitAnswer_cases now link session with
    ⟨delay, bytes, left, read⟩ | ⟨delay, error, -, dropped⟩
  · rw [read]
    exact command_readAnswer bytes left session
  · rw [dropped]
    rfl

theorem abandoned_awaitAnswer (now : Nat) (link : Link α) (session : Session α) :
    (session.awaitAnswer now link).abandoned = session.abandonedAfter now link := by
  rcases awaitAnswer_cases now link session with
    ⟨delay, bytes, left, read⟩ | ⟨delay, error, -, dropped⟩
  · rw [read]
  · rw [dropped]

/-- What the reply to an exchange over a connection leaves. A caller who gives up leaves the
connection as it is. -/
structure Upholds (command : List String) (reply : Reply (Session α) β) : Prop where
  tells : Tells reply.answer reply.after
  givenUp : ∀ limit < reply.delay, (reply.abandoned limit).isConnected = true
  keeps : reply.after.command = command
  keepsGivenUp : ∀ limit, (reply.abandoned limit).command = command

theorem upholds_exchange {session : Session α} (connected : session.isConnected = true)
    (agency : Agency α) (request : Request) (now : Nat) :
    Upholds session.command (session.exchange agency request now) := by
  obtain ⟨link, present⟩ := Option.isSome_iff_exists.mp connected
  have tells := tells_exchange connected agency request now
  cases lost : gone now link with
  | true =>
      rw [exchange_of_gone present lost] at tells ⊢
      exact ⟨tells, fun limit late => absurd late (Nat.not_lt_zero limit), rfl, fun _ => rfl⟩
  | false =>
      rw [exchange_of_linked present lost] at tells ⊢
      refine ⟨tells, fun limit _ => ?_, command_awaitAnswer _ _ _, fun limit => ?_⟩
      · rw [abandoned_awaitAnswer]
        rfl
      · rw [abandoned_awaitAnswer]
        rfl

theorem Upholds.expecting {command : List String} {reply : Reply (Session α) Response}
    (upholds : Upholds command reply) {expected : Response → Except BackendError β}
    (bearable : ∀ response error, expected response = .error error → ¬ error.Disconnects) :
    Upholds command (expecting expected reply) :=
  ⟨tells_expecting bearable upholds.tells, upholds.givenUp, upholds.keeps, upholds.keepsGivenUp⟩

theorem not_loses_iff {answer : Except BackendError β} {after : Session α}
    (tells : Tells answer after) : ¬ Loses (some answer) ↔ after.isConnected = true := by
  have lost : Loses (some answer) ↔ after.isConnected = false :=
    ⟨fun ⟨error, same, disconnects⟩ => tells.mpr ⟨error, Option.some.inj same, disconnects⟩,
      fun gone => (tells.mp gone).imp fun error failed => ⟨congrArg some failed.1, failed.2⟩⟩
  rw [lost, Bool.not_eq_false]

theorem not_loses_none : ¬ Loses (none : Option (Except BackendError β)) := by
  rintro ⟨error, same, -⟩
  cases same

/-- Waited for or not, an exchange takes the connection away exactly with an answer that says so. -/
theorem Upholds.awaitUpTo {command : List String} {scene : Scene (Session α)}
    {call : Nat → Session α → Reply (Session α) β}
    (upholds : Upholds command (call scene.clock scene.state)) (patience : Option Nat) :
    ((scene.awaitUpTo patience call).2.state.isConnected = true ↔
      ¬ Loses (scene.awaitUpTo patience call).1) ∧
    (scene.awaitUpTo patience call).2.state.command = command := by
  by_cases waits : Waits patience (call scene.clock scene.state)
  · rw [Scene.awaitUpTo_of_waits waits]
    exact ⟨(not_loses_iff upholds.tells).symm, upholds.keeps⟩
  · obtain ⟨limit, late, left⟩ := Scene.awaitUpTo_of_not_waits waits
    rw [left]
    exact ⟨iff_of_true (upholds.givenUp limit late) not_loses_none, upholds.keepsGivenUp limit⟩

/-! ## One turn -/

theorem connect_refused {agency : Agency α} {session : Session α}
    (idle : ∀ program arguments agent, session.command = program :: arguments →
      agency.start program arguments ≠ .ok agent) (now : Nat) :
    ∃ error, connect agency now session = .now (.error error) session := by
  cases command : session.command with
  | nil =>
      simp only [connect, command]
      exact ⟨_, rfl⟩
  | cons program arguments =>
      cases started : agency.start program arguments with
      | error fault =>
          simp only [connect, command, started]
          exact ⟨_, rfl⟩
      | ok agent => exact absurd started (idle program arguments agent command)

namespace Turn

/-- What a turn comes to. It has an exchange, over the connection that is there or one that it
makes, or it is refused and leaves the session as it is. -/
inductive Outcome (turn : Turn α) (scene : Scene (Session α)) : Prop where
  | exchanged
      (via : turn.Starts scene.state.command ∨
        turn.deed ≠ .connect ∧ scene.state.isConnected = true)
      (upheld : (turn.make scene).2.state.isConnected = true ↔ ¬ Loses (turn.make scene).1)
      (command : (turn.make scene).2.state.command = scene.state.command)
  | refused (idle : ¬ turn.Starts scene.state.command)
      (without : turn.deed = .connect ∨ scene.state.isConnected = false)
      (made : ∃ error, turn.make scene = (some (.error error), scene.pause turn.pause))

theorem make_call_of_disconnected {turn : Turn α} {scene : Scene (Session α)}
    (called : turn.deed ≠ .connect) (lost : scene.state.isConnected = false) :
    turn.make scene = (some (.error .notConnected), scene.pause turn.pause) := by
  obtain ⟨agency, pause, deed, patience⟩ := turn
  cases deed with
  | connect => exact absurd rfl called
  | call call =>
      exact Scene.awaitUpTo_of_now (Call.make_of_unlinked (link_of_disconnected lost) call _)

theorem outcome_of_call {agency : Agency α} {pause : Nat} {call : Call} {patience : Option Nat}
    {scene : Scene (Session α)} : Outcome ⟨agency, pause, .call call, patience⟩ scene := by
  have called : Deed.call call ≠ .connect := nofun
  cases connected : scene.state.isConnected with
  | false =>
      exact .refused (fun starts => called starts.1) (.inr connected)
        ⟨_, make_call_of_disconnected called connected⟩
  | true =>
      have upholds : Upholds scene.state.command
          (call.make agency (scene.pause pause).clock (scene.pause pause).state) := by
        rw [Call.make_eq_expecting]
        exact (upholds_exchange connected _ _ _).expecting (bearable_expected call)
      obtain ⟨upheld, command⟩ := upholds.awaitUpTo patience
      exact .exchanged (.inr ⟨called, connected⟩) upheld command

theorem outcome_of_connect {agency : Agency α} {pause : Nat} {patience : Option Nat}
    {scene : Scene (Session α)} : Outcome ⟨agency, pause, .connect, patience⟩ scene := by
  by_cases starts : Starts scene.state.command ⟨agency, pause, .connect, patience⟩
  · obtain ⟨-, program, arguments, agent, command, started⟩ := id starts
    have upholds : Upholds scene.state.command
        (replyTo agency .connect (scene.pause pause).clock (scene.pause pause).state) := by
      rw [replyTo, @connect_of_started _ agency (scene.pause pause).state _ _ _ _ command started,
        Call.map_expecting]
      exact (@upholds_exchange _ ((scene.pause pause).state.linked _) rfl _ _ _).expecting
        (bearable_map (fun _ _ => bearable_expectOk) _)
    obtain ⟨upheld, kept⟩ := upholds.awaitUpTo patience
    exact .exchanged (.inl starts) upheld kept
  · have idle : ∀ program arguments agent,
        (scene.pause pause).state.command = program :: arguments →
        agency.start program arguments ≠ .ok agent :=
      fun program arguments agent command started =>
        starts ⟨rfl, program, arguments, agent, command, started⟩
    obtain ⟨error, refused⟩ := connect_refused idle (scene.pause pause).clock
    refine .refused starts (.inl rfl) ⟨error, Scene.awaitUpTo_of_now ?_⟩
    rw [replyTo, refused]
    rfl

theorem outcome (turn : Turn α) (scene : Scene (Session α)) : Outcome turn scene := by
  obtain ⟨agency, pause, deed, patience⟩ := turn
  cases deed with
  | connect => exact outcome_of_connect
  | call call => exact outcome_of_call

theorem command_make (turn : Turn α) (scene : Scene (Session α)) :
    (turn.make scene).2.state.command = scene.state.command := by
  cases turn.outcome scene with
  | exchanged via upheld command => exact command
  | refused idle without made =>
      obtain ⟨error, made⟩ := made
      rw [made]
      rfl

theorem isConnected_make_iff (turn : Turn α) (scene : Scene (Session α)) :
    (turn.make scene).2.state.isConnected = true ↔
      turn.Starts scene.state.command ∧ ¬ Loses (turn.make scene).1 ∨
        (¬ turn.Starts scene.state.command ∧
          (turn.deed = .connect ∨ ¬ Loses (turn.make scene).1)) ∧
        scene.state.isConnected = true := by
  cases turn.outcome scene with
  | exchanged via upheld command =>
      rw [upheld]
      rcases via with starts | ⟨called, connected⟩
      · simp [starts]
      · simp [called, connected, Starts]
  | refused idle without made =>
      obtain ⟨error, made⟩ := made
      have same : (turn.make scene).2.state = scene.state := by
        rw [made]
        rfl
      rw [same]
      rcases without with connects | lost
      · simp [idle, connects]
      · simp [idle, lost]

/-- A connect that is accepted has started an agent. -/
theorem starts_of_accepted {turn : Turn α} {scene : Scene (Session α)}
    (connects : turn.deed = .connect) (accepted : (turn.make scene).1 = some (.ok .done)) :
    turn.Starts scene.state.command ∧ ¬ Loses (turn.make scene).1 := by
  cases turn.outcome scene with
  | exchanged via upheld command =>
      refine ⟨via.resolve_right fun called => called.1 connects, ?_⟩
      rintro ⟨error, same, -⟩
      cases accepted.symm.trans same
  | refused idle without made =>
      obtain ⟨error, made⟩ := made
      rw [made] at accepted
      cases accepted

theorem command_run (turns : List (Turn α)) (scene : Scene (Session α)) :
    (run turns scene).2.state.command = scene.state.command := by
  induction turns generalizing scene with
  | nil => rfl
  | cons turn rest ih => rw [run, ih, command_make]

end Turn

/-! ## Histories of turns -/

/-- A connect that has been accepted. -/
def Accepted (told : Told α) : Prop :=
  told.turn.deed = .connect ∧ told.answer = some (.ok .done)

theorem isConnected_run_iff (turns : List (Turn α)) {scene : Scene (Session α)}
    (unconnected : scene.state.isConnected = false) :
    (Turn.run turns scene).2.state.isConnected = true ↔
      Since (fun told => told.turn.Starts scene.state.command ∧ ¬ Loses told.answer)
        (fun told => ¬ told.turn.Starts scene.state.command ∧
          (told.turn.deed = .connect ∨ ¬ Loses told.answer))
        (Turn.run turns scene).1 := by
  induction turns using List.reverseRecOn with
  | nil => exact iff_of_false (ne_true_of_eq_false unconnected) not_since_nil
  | append_singleton turns turn ih =>
      rw [Turn.run_concat, since_concat_iff, ← ih, Turn.isConnected_make_iff, Turn.command_run]

/-- For as long as the connect that came last was accepted, what is lost is what answers say. -/
theorem since_accepted_iff (turns : List (Turn α)) (scene : Scene (Session α)) :
    Since Accepted (fun told => told.turn.deed ≠ .connect ∧ ¬ Loses told.answer)
        (Turn.run turns scene).1 ↔
      (Turn.run turns scene).2.state.isConnected = true ∧
        Since Accepted (fun told => told.turn.deed ≠ .connect) (Turn.run turns scene).1 := by
  induction turns using List.reverseRecOn with
  | nil => exact iff_of_false not_since_nil fun both => not_since_nil both.2
  | append_singleton turns turn ih =>
      rw [Turn.run_concat, since_concat_iff, since_concat_iff, ih, Turn.isConnected_make_iff]
      generalize (Turn.run turns scene).2 = before
      -- A connect decides both sides by its own answer; after any other turn both sides ask for more.
      by_cases connects : turn.deed = .connect
      · by_cases accepted : (turn.make before).1 = some (.ok .done)
        · exact iff_of_true (.inl ⟨connects, accepted⟩)
            ⟨.inl (Turn.starts_of_accepted connects accepted), .inl ⟨connects, accepted⟩⟩
        · simp [Accepted, connects, accepted]
      · simp only [Accepted, Turn.Starts, connects, false_and, not_false_eq_true, true_and, false_or,
          ne_eq]
        exact and_assoc.symm

/-- A session is connected exactly when an agent has been started since which no answer has said
that the connection is gone. Where the connect that came last was accepted, it is therefore
connected exactly when no answer after it has said so. A further connect that has started its agent
leaves the session connected whatever the agent's first answer says, unless that takes the
connection away, and one that cannot start its agent leaves it as connected as it was. What is not
connected says so to every call. -/
theorem connected_iff_upheld (command : List String) (readLimit clock : Nat)
    (turns : List (Turn α)) :
    let history := (Turn.run turns ⟨.ofCommand command readLimit, clock⟩).1
    let scene := (Turn.run turns ⟨.ofCommand command readLimit, clock⟩).2
    (scene.state.isConnected = true ↔
      Since (fun told => told.turn.Starts command ∧ ¬ Loses told.answer)
        (fun told => ¬ told.turn.Starts command ∧
          (told.turn.deed = .connect ∨ ¬ Loses told.answer)) history) ∧
    (Since Accepted (fun told => told.turn.deed ≠ .connect ∧ ¬ Loses told.answer) history ↔
      scene.state.isConnected = true ∧
        Since Accepted (fun told => told.turn.deed ≠ .connect) history) ∧
    ∀ next : Turn α,
      (next.deed = .connect →
        ((next.make scene).2.state.isConnected = true ↔
          next.Starts command ∧ ¬ Loses (next.make scene).1 ∨
            ¬ next.Starts command ∧ scene.state.isConnected = true)) ∧
      (next.deed ≠ .connect → scene.state.isConnected = false →
        next.make scene = (some (.error .notConnected), scene.pause next.pause)) := by
  intro history scene
  have fresh : (⟨.ofCommand command readLimit, clock⟩ :
      Scene (Session α)).state.isConnected = false := rfl
  refine ⟨isConnected_run_iff turns fresh, since_accepted_iff turns _, fun next => ⟨?_, ?_⟩⟩
  · intro connects
    have same : scene.state.command = command := Turn.command_run turns _
    rw [Turn.isConnected_make_iff, same]
    simp [connects]
  · exact Turn.make_call_of_disconnected

/-- A connect whose agent refuses to give a sign of life fails and leaves the session connected. -/
theorem connected_iff_upheld_refused :
    let agency := scriptedAgency (fun _ => none)
      [.reply (lineBytes (Response.error "no display").toJson.compact)]
    let scene : Scene (Session (List Act)) := ⟨.ofCommand ["bridge"] 30000, 0⟩
    let turn : Turn (List Act) := ⟨agency, 0, .connect, none⟩
    let (history, after) := Turn.run [turn] scene
    history.map Told.answer = [some (.error (.commandFailed "no display"))] ∧
    after.state.isConnected = true ∧
    ¬ Since Accepted (fun told => told.turn.deed ≠ .connect ∧ ¬ Loses told.answer) history := by
  have refusalLine := Json.newline_not_mem_compact (Response.error "no display").toJson
  have refusalMeans : answerOf (Response.error "no display").toJson.compact =
      .error (.commandFailed "no display") := by
    rw [answerOf, Wire.ofLine_compact_of_shallow (Nat.zero_le _)]
  generalize (Response.error "no display").toJson.compact = refusal at *
  intro agency scene turn
  have answered : Answered agency scene.state.readLimit scene.clock
      ⟨[.reply (lineBytes refusal)], none, scene.clock, []⟩ .ping refusal :=
    answered_of_reply rfl rfl (Nat.le_refl _) refusalLine
  obtain ⟨refused, -⟩ := @connect_of_answered _ agency scene.state _ _ _ _ _ rfl rfl answered
  have answer : (turn.make scene).1 = some (.error (.commandFailed "no display")) := by
    change some ((connect agency 0 scene.state).map fun _ => Gain.done).answer = _
    rw [Reply.map, refused, refusalMeans]
    rfl
  have starts : turn.Starts ["bridge"] :=
    ⟨rfl, "bridge", [], [.reply (lineBytes refusal)], rfl, rfl⟩
  have bearable : ¬ Loses (turn.make scene).1 := by
    rw [answer]
    rintro ⟨error, same, disconnects⟩
    cases same
    exact bearable_commandFailed _ disconnects
  obtain ⟨-, -, further⟩ := connected_iff_upheld ["bridge"] 30000 0 ([] : List (Turn (List Act)))
  refine ⟨?_, ((further turn).1 rfl).mpr (.inl ⟨starts, bearable⟩), ?_⟩
  · change [(turn.make scene).1] = _
    rw [answer]
  · change ¬ Since _ _ ([] ++ [⟨turn, (turn.make scene).1⟩])
    rw [answer, since_concat_iff]
    rintro (⟨-, accepted⟩ | ⟨-, before⟩)
    · cases accepted
    · exact not_since_nil before

end Rehearsal.Session
