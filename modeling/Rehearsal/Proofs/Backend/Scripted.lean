import Rehearsal.Proofs.Backend.Answering
/-!
# Answers of scripted agents

An agent that follows a script answers at once for as long as the script has replies, and ends with
the next request after it.
-/

set_option autoImplicit false

namespace Rehearsal.Session

open Wire (Request Response)

variable {missing : String → Option FileFault} {script rest : List Act} {line : String}
  {link : Link (List Act)} {now : Nat} {request : Request}

theorem give_of_reply (next : link.agent = .reply (lineBytes line) :: rest)
    (reading : link.departure = none) (free : link.busyUntil ≤ now) (given : String) :
    give (scriptedAgency missing script) given now link =
      ⟨rest, none, now, link.pending ++ [(now, lineBytes line)]⟩ := by
  simp [give, reaction, reading, scriptedAgency, next, Act.react, schedule, finish,
    Nat.max_eq_left free]

/-- A scripted agent that replies with a line answers by it at once. -/
theorem answered_of_reply {limit : Nat} (next : link.agent = .reply (lineBytes line) :: rest)
    (reading : link.departure = none) (free : link.busyUntil ≤ now)
    (oneLine : '\n' ∉ line.toList) :
    Answered (scriptedAgency missing script) limit now link request line := by
  have reacts : reaction (scriptedAgency missing script) request.line link =
      ⟨[(0, lineBytes line)], none, rest⟩ := by
    rw [reaction_of_reading reading, reactionTo, next]
    rfl
  refine .line (not_gone_of_reading reading now) oneLine (by simp [reacts]) ?_
  simp [scheduled, reacts, schedule, arrived, Nat.max_eq_left free, lineBytes_eq]

/-- A scripted agent whose script is over ends at the next request. -/
theorem breaks_of_scriptEnd {limit : Nat} (exhausted : link.agent = [])
    (reading : link.departure = none) (free : link.busyUntil ≤ now) :
    Breaks (scriptedAgency missing script) limit now link request
      (outputEnded (.exited (.code 0))) := by
  have reacts : reaction (scriptedAgency missing script) request.line link =
      ⟨[], some (.exited (.code 0)), []⟩ := by
    rw [reaction_of_reading reading, reactionTo, exhausted]
    rfl
  refine .closed (not_gone_of_reading reading now) (by simp [reacts]) (by rw [reacts]) ?_
  simp [give, reacts, finish, Nat.max_eq_left free]

/-- A connection whose agent is free and has the rest of a script to follow. -/
structure Follows (script : List Act) (now : Nat) (link : Link (List Act)) : Prop where
  next : link.agent = script
  reading : link.departure = none
  free : link.busyUntil ≤ now
  atRest : AtRest link

theorem Follows.later {time : Nat} (follows : Follows script now link) (after : now ≤ time) :
    Follows script time link :=
  ⟨follows.next, follows.reading, Nat.le_trans follows.free after, follows.atRest⟩

theorem follows_of_exchange {session : Session (List Act)} (present : session.link = some link)
    (follows : Follows (.reply (lineBytes line) :: rest) now link)
    (oneLine : '\n' ∉ line.toList) {reply : Reply (Session (List Act)) Response}
    (exchanged : reply = session.exchange (scriptedAgency missing script) request now) :
    ∃ after, reply.after.link = some after ∧ Follows rest (now + reply.delay) after := by
  obtain ⟨delay, left, abandoned, restAfter, same⟩ := exchange_of_answered present follows.atRest
    (answered_of_reply follows.next follows.reading follows.free oneLine)
  rw [give_of_reply follows.next follows.reading follows.free] at restAfter same
  rw [exchanged, same]
  exact ⟨_, rfl, rfl, rfl, Nat.le_add_right _ _, restAfter⟩

theorem follows_of_make {scene : Scene (Session (List Act))} {attempt : Attempt}
    (patient : attempt.patience = none) (present : scene.state.link = some link)
    (follows : Follows (.reply (lineBytes line) :: rest) scene.clock link)
    (oneLine : '\n' ∉ line.toList) :
    ∃ after, (attempt.make (scriptedAgency missing script) scene).2.state.link = some after ∧
      Follows rest (attempt.make (scriptedAgency missing script) scene).2.clock after := by
  obtain ⟨reply, exchanged, made⟩ := make_of_patient (scriptedAgency missing script) patient scene
  rw [made]
  exact follows_of_exchange present (follows.later (Nat.le_add_right _ _)) oneLine exchanged

theorem follows_of_connect {scene : Scene (Session (List Act))} {program : String}
    {arguments : List String} (command : scene.state.command = program :: arguments)
    (there : missing program = none) (oneLine : '\n' ∉ line.toList) :
    ∃ after,
      (scene.await (connect (scriptedAgency missing (.reply (lineBytes line) :: rest)))).2.state.link =
        some after ∧
      Follows rest
        (scene.await (connect (scriptedAgency missing (.reply (lineBytes line) :: rest)))).2.clock
        after := by
  have started : (scriptedAgency missing (.reply (lineBytes line) :: rest)).start program arguments =
      .ok (.reply (lineBytes line) :: rest) := by
    simp [scriptedAgency, there]
  rw [Scene.await, connect_of_started command started]
  have follows : Follows (.reply (lineBytes line) :: rest) scene.clock
      ⟨.reply (lineBytes line) :: rest, none, scene.clock, []⟩ :=
    ⟨rfl, rfl, Nat.le_refl _, atRest_new _ _⟩
  exact follows_of_exchange rfl follows oneLine rfl

end Rehearsal.Session
