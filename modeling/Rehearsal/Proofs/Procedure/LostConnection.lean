import Rehearsal.Proofs.Backend.Connection
import Rehearsal.Proofs.Procedure.Quest
/-!
# Steps that lose their connection

A session and the waits over it do not agree on which errors mean the end: an answer that is late
takes the connection away, but a wait bears it as it bears an answer that makes no sense. Mostly the
next look tells, for it finds no connection. There is no next look after the last one: a wait whose
very last answer is late fails as if its looks had been in vain.
-/

set_option autoImplicit false

namespace Rehearsal

variable {α : Type}

namespace Quest

open Polling (Move Round)

section

variable (agency : Agency α) (app : String)

/-- What a session answers to a look. -/
def answer (scene : Scene (Session α)) : Except BackendError Forest :=
  (scene.await ((Session.backend agency).dump app)).1

/-- Whether a look takes the connection away. -/
def Cuts (scene : Scene (Session α)) : Prop :=
  scene.state.isConnected = true ∧
    (scene.await ((Session.backend agency).dump app)).2.state.isConnected = false

/-- Whether all the looks that may be taken are taken and the last is answered too late. -/
def EndsLate (looks : Nat) (asked : List (Scene (Session α))) : Prop :=
  ∃ earlier last, asked = earlier ++ [last] ∧ asked.length = looks ∧
    answer agency app last = .error .timedOut

/-- What becomes of a connection over the looks of a pursuit. -/
inductive Fate (looks : Nat) (pursuit : Pursuit (Session α)) : Prop where
  | kept (uncut : ∀ scene ∈ pursuit.asked, ¬ Cuts agency app scene)
      (connected : pursuit.outcome.2.state.isConnected = true) : Fate looks pursuit
  | told {error : BackendError} (failed : pursuit.outcome.1 = .error error)
      (punctual : ¬ EndsLate agency app looks pursuit.asked)
      (lost : pursuit.outcome.2.state.isConnected = false) : Fate looks pursuit
  | untold (unsettled : pursuit.outcome.1 = .ok none)
      (late : EndsLate agency app looks pursuit.asked)
      (lost : pursuit.outcome.2.state.isConnected = false) : Fate looks pursuit

end

section

variable {agency : Agency α} {app : String}

theorem not_endsLate_concat {looks : Nat} (earlier : List (Scene (Session α)))
    {last : Scene (Session α)} (punctual : answer agency app last ≠ .error .timedOut) :
    ¬ EndsLate agency app looks (earlier ++ [last]) := by
  rintro ⟨others, other, same, -, late⟩
  obtain ⟨-, only⟩ := List.append_inj' same rfl
  cases only
  exact punctual late

theorem endsLate_cons_iff {looks : Nat} {scene : Scene (Session α)}
    {asked : List (Scene (Session α))} (punctual : answer agency app scene ≠ .error .timedOut) :
    EndsLate agency app (looks + 1) (scene :: asked) ↔ EndsLate agency app looks asked := by
  constructor
  · rintro ⟨earlier, last, split, all, late⟩
    cases earlier with
    | nil =>
        cases split
        exact absurd late punctual
    | cons first earlier =>
        cases split
        exact ⟨earlier, last, rfl, Nat.succ.inj all, late⟩
  · rintro ⟨earlier, last, rfl, all, late⟩
    exact ⟨scene :: earlier, last, rfl, congrArg Nat.succ all, late⟩

/-- A look that leaves the connection leaves its fate to those after it. -/
theorem Fate.later {looks : Nat} {scene : Scene (Session α)} {pursuit : Pursuit (Session α)}
    (fate : Fate agency app looks pursuit) (uncut : ¬ Cuts agency app scene)
    (punctual : answer agency app scene ≠ .error .timedOut) :
    Fate agency app (looks + 1) { pursuit with asked := scene :: pursuit.asked } := by
  cases fate with
  | kept others connected => exact .kept (List.forall_mem_cons.mpr ⟨uncut, others⟩) connected
  | told failed early lost => exact .told failed (mt (endsLate_cons_iff punctual).mp early) lost
  | untold unsettled late lost =>
      exact .untold unsettled ((endsLate_cons_iff punctual).mpr late) lost

/-! ## Looks without a connection -/

theorem await_of_disconnected {scene : Scene (Session α)}
    (lost : scene.state.isConnected = false) :
    scene.await ((Session.backend agency).dump app) = (.error .notConnected, scene) := by
  rw [Scene.await, Session.dump_of_disconnected lost]
  rfl

theorem punctual_of_disconnected {scene : Scene (Session α)}
    (lost : scene.state.isConnected = false) :
    answer agency app scene ≠ .error .timedOut := by
  intro late
  rw [answer, await_of_disconnected lost] at late
  cases late

/-- The first look without a connection is the last, if there is one at all. -/
theorem pursue_of_disconnected (agency : Agency α) (app : String) (quest : Quest) (backoff : Nat)
    (moves : List Move) {scene : Scene (Session α)} (lost : scene.state.isConnected = false) :
    ∃ last, last.state.isConnected = false ∧
      ((moves.countP (· ≠ .pause) = 0 ∧
        quest.pursue (Session.backend agency) app backoff moves scene =
          ⟨[], (.ok none, last)⟩) ∨
      quest.pursue (Session.backend agency) app backoff moves scene =
        ⟨[last], (.error .notConnected, last)⟩) := by
  induction moves generalizing scene with
  | nil => exact ⟨scene, lost, .inl ⟨rfl, rfl⟩⟩
  | cons move rest ih =>
      cases move with
      | pause => exact @ih (scene.pause backoff) lost
      | look locator =>
          refine ⟨scene, lost, .inr ?_⟩
          rw [pursue, await_of_disconnected lost]
          rfl

/-! ## Looks with a connection -/

/-- What a look over a connection comes to: it keeps the connection, or tells that it has gone, or
its answer is late and counts for nothing. -/
theorem look_cases (agency : Agency α) (app : String) (quest : Quest) (locator : Locator)
    {scene : Scene (Session α)} (connected : scene.state.isConnected = true) :
    let after := (scene.await ((Session.backend agency).dump app)).2
    (after.state.isConnected = true ∧ ¬ Cuts agency app scene ∧
      answer agency app scene ≠ .error .timedOut) ∨
    (after.state.isConnected = false ∧ ∃ error, answer agency app scene = .error error ∧
      error ≠ .timedOut ∧ quest.settled locator (.error error) = some (.error error)) ∨
    (after.state.isConnected = false ∧ answer agency app scene = .error .timedOut) := by
  intro after
  have tells := Session.tells_dump connected agency app scene.clock
  cases kept : after.state.isConnected with
  | true =>
      refine .inl ⟨rfl, ?_, ?_⟩
      · rintro ⟨-, lost⟩
        exact Bool.noConfusion (kept.symm.trans lost)
      · intro late
        exact Bool.noConfusion (kept.symm.trans (tells.mpr ⟨_, late, .inl rfl⟩))
  | false =>
      obtain ⟨error, failed, disconnects⟩ := tells.mp kept
      cases fatal : error.isFatal with
      | true =>
          refine .inr (.inl ⟨rfl, error, failed, ?_, ?_⟩)
          · rintro rfl
            cases fatal
          · rw [settled, if_pos fatal]
      | false =>
          cases disconnects.eq_timedOut fatal
          exact .inr (.inr ⟨rfl, failed⟩)

theorem fate_pursue (quest : Quest) (backoff : Nat) (moves : List Move)
    {scene : Scene (Session α)} (connected : scene.state.isConnected = true) :
    Fate agency app (moves.countP (· ≠ .pause))
      (quest.pursue (Session.backend agency) app backoff moves scene) := by
  induction moves generalizing scene with
  | nil => exact .kept (List.forall_mem_nil _) connected
  | cons move rest ih =>
      cases move with
      | pause => exact @ih (scene.pause backoff) connected
      | look locator =>
          rw [List.countP_cons_of_pos (by simp), pursue]
          obtain ⟨kept, uncut, punctual⟩ | ⟨lost, error, failed, punctual, settles⟩ | ⟨lost, late⟩ :=
            look_cases agency app quest locator connected
          · cases quest.settled locator (scene.await ((Session.backend agency).dump app)).1 with
            | none => exact (ih kept).later uncut punctual
            | some result => exact .kept (List.forall_mem_singleton.mpr uncut) kept
          · rw [answer] at failed
            rw [failed, settles]
            exact .told rfl (not_endsLate_concat [] fun late =>
              punctual (Except.error.inj (failed.symm.trans late))) lost
          · rw [answer] at late
            -- The pursuit goes on without a connection: a look that is left tells, else nothing does.
            have unsettled : quest.settled locator (.error .timedOut) = none := rfl
            rw [late, unsettled]
            obtain ⟨last, gone, ⟨lookless, ended⟩ | told⟩ :=
              pursue_of_disconnected agency app quest backoff rest lost
            · rw [lookless, ended]
              exact .untold rfl ⟨[], scene, rfl, rfl, late⟩ gone
            · rw [told]
              exact .told rfl (not_endsLate_concat [scene] (punctual_of_disconnected gone)) gone

/-! ## Quests -/

theorem countP_look_plan (candidates : List Locator) (rounds : Nat) :
    (Polling.plan candidates rounds).countP (· ≠ .pause) = rounds * candidates.length := by
  rw [List.countP_eq_length_filter, Polling.filter_look_plan, List.length_map]
  simp

theorem length_candidates_pos (quest : Quest) : 0 < quest.candidates.length := by
  cases quest <;> exact Nat.succ_pos _

theorem fate_run (quest : Quest) {procedure : Procedure (Session α)}
    (drives : procedure.backend = Session.backend agency) :
    Fate agency procedure.app (procedure.patience.rounds * quest.candidates.length)
      (quest.run procedure) := by
  rw [run, moves, drives, ← countP_look_plan]
  cases connected : procedure.scene.state.isConnected with
  | true => exact fate_pursue quest _ _ connected
  | false =>
      obtain ⟨last, lost, ⟨lookless, -⟩ | told⟩ :=
        pursue_of_disconnected agency procedure.app quest procedure.patience.backoff
          (Polling.plan quest.candidates procedure.patience.rounds) connected
      · have looks : 0 < procedure.patience.rounds * quest.candidates.length :=
          Nat.mul_pos (Nat.le_max_left _ _) quest.length_candidates_pos
        rw [countP_look_plan] at lookless
        omega
      · rw [told]
        exact .told rfl (not_endsLate_concat [] (punctual_of_disconnected lost)) lost

theorem cuts_of_late {scene : Scene (Session α)}
    (late : answer agency app scene = .error .timedOut) : Cuts agency app scene := by
  cases connected : scene.state.isConnected with
  | true =>
      exact ⟨connected,
        (Session.tells_dump connected agency app scene.clock).mpr ⟨_, late, .inl rfl⟩⟩
  | false => exact absurd late (punctual_of_disconnected connected)

theorem not_fails_backend (quest : Quest) (error : BackendError) :
    ¬ quest.Fails (.backend error) := by
  cases quest with
  | presence first others =>
      rintro ⟨what, waited, same⟩
      cases same
  | absence locator =>
      rintro ⟨message, same⟩
      cases same

end

/-- A step that fails as its quest does has done nothing after it. -/
theorem Begins.scene_of_fails {σ β : Type} {quest : Quest} {procedure : Procedure σ}
    {outgo : Outgo σ β} (begins : quest.Begins procedure outgo) {error : RunError}
    (failed : outgo.1 = .error error) (fails : quest.Fails error) :
    outgo.2.scene = (quest.run procedure).outcome.2 := by
  rcases outcome : (quest.run procedure).outcome.1 with fault | _ | _
  · exact (begins.gone fault outcome).2
  · exact (begins.unsettled outcome).2
  · exact absurd fails (begins.settled outcome error failed)

end Quest

/-- A step fails with the error of its session when the connection is lost in its wait, but for one
case. It fails as if nothing had been there, or nothing had gone, only with a connection, but for
the same case: the wait takes all its looks and the answer to the last is late. -/
theorem Step.run_of_lost_connection {agency : Agency α} {procedure : Procedure (Session α)}
    (drives : procedure.backend = Session.backend agency) {step : Step} {quest : Quest}
    (seeks : step.quest? procedure.focus = some quest) :
    let asked := (quest.run procedure).asked
    let late := Quest.EndsLate agency procedure.app
      (procedure.patience.rounds * quest.candidates.length) asked
    let outgo := step.run procedure
    (¬ late → ∀ scene ∈ asked, Quest.Cuts agency procedure.app scene →
      ∃ error, outgo.1 = .error (.backend error)) ∧
    (¬ late → ∀ error, outgo.1 = .error error → quest.Fails error →
      outgo.2.scene.state.isConnected = true) ∧
    (late →
      outgo.1 = .error (quest.failure (Polling.elapsed procedure.scene outgo.2.scene)) ∧
      outgo.2.scene.state.isConnected = false) := by
  intro asked late outgo
  have begins : quest.Begins procedure outgo := Step.begins_run seeks
  have fate := quest.fate_run drives
  cases fate with
  | kept uncut connected =>
      refine ⟨?_, ?_, ?_⟩
      · intro _ scene member cuts
        exact absurd cuts (uncut scene member)
      · intro _ error failed fails
        rwa [begins.scene_of_fails failed fails]
      · rintro ⟨earlier, last, split, -, late⟩
        have member : last ∈ asked := by
          rw [split]
          exact List.mem_append_right _ (List.mem_singleton_self last)
        exact absurd (Quest.cuts_of_late late) (uncut last member)
  | @told error failed punctual lost =>
      obtain ⟨told, -⟩ := begins.gone error failed
      refine ⟨?_, ?_, ?_⟩
      · intro _ _ _ _
        exact ⟨error, told⟩
      · intro _ other failed fails
        cases told.symm.trans failed
        exact absurd fails (quest.not_fails_backend error)
      · intro late
        exact absurd late punctual
  | untold unsettled endsLate lost =>
      obtain ⟨told, reached⟩ := begins.unsettled unsettled
      refine ⟨fun punctual => absurd endsLate punctual,
        fun punctual => absurd endsLate punctual, ?_⟩
      intro _
      rw [told, reached]
      exact ⟨rfl, lost⟩

/-- An agent that reads requests and answers none. -/
def stallingAgency : Agency (List Act) := scriptedAgency (fun _ => none) [.stall]

def stalledProcedure (attempts : Nat) : Procedure (Session (List Act)) :=
  .start (Session.backend stallingAgency) "viewer" ⟨attempts, 500⟩
    ⟨fun _ => ⟨[]⟩, fun _ => default⟩ ⟨⟨["bridge"], 300, some ⟨[.stall], none, 0, []⟩, []⟩, 0⟩

/-- With one attempt the step says that the widget is not there, and the connection is gone. With
two attempts it says that it has no connection. -/
theorem Step.run_of_lost_connection_stalled :
    let hasty := (Step.click "File" "menu").run (stalledProcedure 1)
    let patient := (Step.click "File" "menu").run (stalledProcedure 2)
    (∃ what waited, hasty.1 = .error (.widgetNotFound what waited)) ∧
      hasty.2.scene.state.isConnected = false ∧
      ∃ error, patient.1 = .error (.backend error) := by
  intro hasty patient
  obtain ⟨-, -, untold⟩ := @Step.run_of_lost_connection (List Act) stallingAgency
    (stalledProcedure 1) rfl (.click "File" "menu") _ rfl
  obtain ⟨told, -, -⟩ := @Step.run_of_lost_connection (List Act) stallingAgency
    (stalledProcedure 2) rfl (.click "File" "menu") _ rfl
  obtain ⟨failed, lost⟩ := untold ⟨[], (stalledProcedure 1).scene, rfl, rfl, rfl⟩
  -- The second look, after the pause, is answered at once: there is no connection.
  have punctual : ¬ Quest.EndsLate stallingAgency "viewer" 2
      ((Quest.presence (.anywhere (.of "File" "menu")) []).run (stalledProcedure 2)).asked :=
    Quest.not_endsLate_concat [(stalledProcedure 2).scene] nofun
  exact ⟨⟨_, _, failed⟩, lost, told punctual _ List.mem_cons_self ⟨rfl, rfl⟩⟩

end Rehearsal
