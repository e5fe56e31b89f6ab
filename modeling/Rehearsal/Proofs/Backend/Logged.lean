import Rehearsal.Procedure.Basic
/-!
# Logged backends

A backend can be wrapped so that it keeps a log of the dumps and inputs that it is asked for, with
their answers. Whatever drives it does the same as without the log, so the log of a run tells what
has been asked of the backend itself.
-/

set_option autoImplicit false

namespace Rehearsal

/-- A call to a backend and its answer. -/
inductive Exchange where
  | dump (answer : Except BackendError Forest)
  | input (given : Input) (answer : Except BackendError Unit)

namespace Exchange

def input? : Exchange → Option (Input × Except BackendError Unit)
  | dump _ => none
  | input given answer => some (given, answer)

/-- The inputs of a log in their order. A log without inputs is one of looks alone. -/
def inputs (log : List Exchange) : List (Input × Except BackendError Unit) := log.filterMap input?

@[simp] theorem inputs_nil : inputs [] = [] := rfl

@[simp] theorem inputs_append (first second : List Exchange) :
    inputs (first ++ second) = inputs first ++ inputs second :=
  List.filterMap_append

@[simp] theorem inputs_dump (answer : Except BackendError Forest) (log : List Exchange) :
    inputs (.dump answer :: log) = inputs log :=
  rfl

@[simp] theorem inputs_input (given : Input) (answer : Except BackendError Unit)
    (log : List Exchange) : inputs (.input given answer :: log) = (given, answer) :: inputs log :=
  rfl

end Exchange

structure Logged (σ : Type) where
  state : σ
  /-- Oldest first. -/
  log : List Exchange

variable {σ α β : Type}

def Reply.logged (reply : Reply σ α) (log : List Exchange) : Reply (Logged σ) α :=
  ⟨reply.delay, reply.answer, ⟨reply.after, log⟩, fun time => ⟨reply.abandoned time, log⟩⟩

def Backend.logged (backend : Backend σ) : Backend (Logged σ) where
  connected := fun logged => backend.connected logged.state
  dump := fun app time logged =>
    let reply := backend.dump app time logged.state
    reply.logged (logged.log ++ [.dump reply.answer])
  perform := fun app given time logged =>
    let reply := backend.perform app given time logged.state
    reply.logged (logged.log ++ [.input given reply.answer])
  screenshot := fun time logged => (backend.screenshot time logged.state).logged logged.log

def Scene.logged (scene : Scene σ) (log : List Exchange) : Scene (Logged σ) :=
  ⟨⟨scene.state, log⟩, scene.clock⟩

/-- The procedure over the logged backend, with what the log holds so far. -/
def Procedure.logged (procedure : Procedure σ) (log : List Exchange) : Procedure (Logged σ) :=
  { procedure with
    backend := procedure.backend.logged
    scene := procedure.scene.logged log }

/-- Whether over a log the same is done as without it, and the exchanges that are added to the log
go with the result in some way. -/
def Logs {κ κ' : Type} (logged : κ → List Exchange → κ') (log : List Exchange) (plain : α × κ)
    (noted : α × κ') (goes : α → List Exchange → Prop) : Prop :=
  ∃ added, noted = (plain.1, logged plain.2 (log ++ added)) ∧ goes plain.1 added

/-- Whether the last exchange of a log is a dump that shows something. -/
def LastShows (log : List Exchange) (sight : Forest → Prop) : Prop :=
  ∃ earlier forest, log = earlier ++ [.dump (.ok forest)] ∧ sight forest

/-- Whether exchanges are looks alone, the last of which shows what has been found. -/
def Shows (sight : α → Forest → Prop) (found : Option α) (looks : List Exchange) : Prop :=
  Exchange.inputs looks = [] ∧ ∀ value, found = some value → LastShows looks (sight value)

theorem LastShows.after {log : List Exchange} {sight : Forest → Prop} (shows : LastShows log sight)
    (first : List Exchange) : LastShows (first ++ log) sight := by
  obtain ⟨earlier, forest, rfl, seen⟩ := shows
  exact ⟨first ++ earlier, forest, by simp, seen⟩

theorem LastShows.imp {log : List Exchange} {sight other : Forest → Prop}
    (shows : LastShows log sight) (weaker : ∀ forest, sight forest → other forest) :
    LastShows log other := by
  obtain ⟨earlier, forest, same, seen⟩ := shows
  exact ⟨earlier, forest, same, weaker forest seen⟩

theorem Shows.after {sight : α → Forest → Prop} {found : Option α} {first looks : List Exchange}
    (blind : Exchange.inputs first = []) (shows : Shows sight found looks) :
    Shows sight found (first ++ looks) :=
  ⟨by rw [Exchange.inputs_append, blind, shows.1]; rfl,
    fun value same => (shows.2 value same).after first⟩

theorem shows_none (sight : α → Forest → Prop) {looks : List Exchange}
    (blind : Exchange.inputs looks = []) : Shows sight none looks :=
  ⟨blind, nofun⟩

/-! ## Calls -/

section

variable (backend : Backend σ) (app : String) (scene : Scene σ) (log : List Exchange)

theorem await_logged_dump :
    (scene.logged log).await (backend.logged.dump app) =
      ((scene.await (backend.dump app)).1,
        (scene.await (backend.dump app)).2.logged
          (log ++ [.dump (scene.await (backend.dump app)).1])) :=
  rfl

theorem await_logged_perform (given : Input) :
    (scene.logged log).await (backend.logged.perform app given) =
      ((scene.await (backend.perform app given)).1,
        (scene.await (backend.perform app given)).2.logged
          (log ++ [.input given (scene.await (backend.perform app given)).1])) :=
  rfl

theorem find_logged (locator : Locator) :
    Logs Scene.logged log (backend.find app locator scene)
      (backend.logged.find app locator (scene.logged log)) fun answer added =>
        ∃ dumped, added = [.dump dumped] ∧
          answer = dumped.map fun forest => forest.locate? locator := by
  rw [Backend.find, Backend.find, await_logged_dump]
  rcases scene.await (backend.dump app) with ⟨error | forest, after⟩
  · exact ⟨[.dump (.error error)], rfl, _, rfl, rfl⟩
  · exact ⟨[.dump (.ok forest)], rfl, _, rfl, rfl⟩

end

/-! ## Waits -/

namespace Polling

variable (backend : Backend σ) (app : String)

def Located (candidates : List Locator) (found : Locator × Node) (forest : Forest) : Prop :=
  found.1 ∈ candidates ∧ forest.locate? found.1 = some found.2

def Absent (locator : Locator) (_ : Unit) (forest : Forest) : Prop := forest.locate? locator = none

theorem lookUp_logged (candidates : List Locator) (scene : Scene σ) (log : List Exchange) :
    Logs Scene.logged log (lookUp backend app candidates scene)
      (lookUp backend.logged app candidates (scene.logged log)) fun result added =>
        Shows (Located candidates) result.toOption.join added := by
  induction candidates generalizing scene log with
  | nil => exact ⟨[], by simp [lookUp], shows_none _ rfl⟩
  | cons locator rest ih =>
      obtain ⟨_, noted, dumped, rfl, answered⟩ := find_logged backend app scene log locator
      rw [lookUp, lookUp, noted]
      generalize backend.find app locator scene = found at answered ⊢
      obtain ⟨answer, after⟩ := found
      -- A look that decides nothing leaves the log to the looks after it.
      have goOn : Logs Scene.logged log (lookUp backend app rest after)
          (lookUp backend.logged app rest (after.logged (log ++ [.dump dumped])))
          fun result added => Shows (Located (locator :: rest)) result.toOption.join added := by
        obtain ⟨looks, same, shows⟩ := ih after (log ++ [.dump dumped])
        refine ⟨.dump dumped :: looks, by simpa using same, shows.1, ?_⟩
        intro value met
        exact ((shows.2 value met).imp fun forest located =>
          ⟨List.mem_cons_of_mem _ located.1, located.2⟩).after [.dump dumped]
      rcases answer with error | _ | node
      · cases fatal : error.isFatal with
        | true =>
            simp only [fatal, if_true]
            exact ⟨[.dump dumped], rfl, shows_none _ rfl⟩
        | false => simpa only [fatal, Bool.false_eq_true, if_false] using goOn
      · exact goOn
      · refine ⟨[.dump dumped], rfl, rfl, ?_⟩
        rintro value ⟨⟩
        obtain _ | forest := dumped
        · cases answered
        · exact ⟨[], forest, rfl, List.mem_cons_self, (Except.ok.inj answered).symm⟩

theorem lookAway_logged (locator : Locator) (scene : Scene σ) (log : List Exchange) :
    Logs Scene.logged log (lookAway backend app locator scene)
      (lookAway backend.logged app locator (scene.logged log)) fun result added =>
        Shows (Absent locator) result.toOption.join added := by
  obtain ⟨_, noted, dumped, rfl, answered⟩ := find_logged backend app scene log locator
  rw [lookAway, lookAway, noted]
  generalize backend.find app locator scene = found at answered ⊢
  obtain ⟨answer, after⟩ := found
  rcases answer with error | _ | node
  · cases fatal : error.isFatal with
    | true =>
        simp only [fatal, if_true]
        exact ⟨[.dump dumped], rfl, shows_none _ rfl⟩
    | false =>
        simp only [fatal, Bool.false_eq_true, if_false]
        exact ⟨[.dump dumped], rfl, shows_none _ rfl⟩
  · refine ⟨[.dump dumped], rfl, rfl, ?_⟩
    rintro value -
    obtain _ | forest := dumped
    · cases answered
    · exact ⟨[], forest, rfl, (Except.ok.inj answered).symm⟩
  · exact ⟨[.dump dumped], rfl, shows_none _ rfl⟩

theorem repeatRound_logged {round : Scene σ → Round α × Scene σ}
    {noted : Scene (Logged σ) → Round α × Scene (Logged σ)} {sight : α → Forest → Prop}
    (each : ∀ scene log, Logs Scene.logged log (round scene) (noted (scene.logged log))
      fun result added => Shows sight result.toOption.join added)
    (backoff rounds : Nat) (scene : Scene σ) (log : List Exchange) :
    Logs Scene.logged log (repeatRound round backoff rounds scene)
      (repeatRound noted backoff rounds (scene.logged log)) fun result added =>
        Shows sight result.toOption.join added := by
  induction rounds generalizing scene log with
  | zero => exact ⟨[], by simp [repeatRound], shows_none _ rfl⟩
  | succ rounds ih =>
      obtain ⟨looks, same, shows⟩ := each scene log
      rw [repeatRound, repeatRound, same]
      generalize round scene = outcome at shows ⊢
      rcases outcome with ⟨error | _ | value, after⟩
      · exact ⟨looks, rfl, shows⟩
      -- Between two rounds there is a pause, which no log holds.
      · by_cases last : rounds = 0
        · simp only [last, if_true]
          exact ⟨looks, rfl, shows⟩
        · simp only [last, if_false]
          obtain ⟨more, goOn, later⟩ := ih (after.pause backoff) (log ++ looks)
          exact ⟨looks ++ more, by rw [← List.append_assoc]; exact goOn, later.after shows.1⟩
      · exact ⟨looks, rfl, shows⟩

theorem waitForAny_logged (patience : Patience) (first : Locator) (others : List Locator)
    (scene : Scene σ) (log : List Exchange) :
    Logs Scene.logged log (waitForAny backend app patience first others scene)
      (waitForAny backend.logged app patience first others (scene.logged log)) fun result added =>
        Shows (Located (first :: others)) result.toOption added := by
  obtain ⟨looks, same, shows⟩ := repeatRound_logged (lookUp_logged backend app (first :: others))
    patience.backoff patience.rounds scene log
  rw [waitForAny, waitForAny, same]
  generalize repeatRound (lookUp backend app (first :: others)) patience.backoff patience.rounds
    scene = outcome at shows ⊢
  rcases outcome with ⟨error | _ | found, after⟩ <;> exact ⟨looks, rfl, shows⟩

theorem waitUntilGone_logged (patience : Patience) (locator : Locator) (scene : Scene σ)
    (log : List Exchange) :
    Logs Scene.logged log (waitUntilGone backend app patience locator scene)
      (waitUntilGone backend.logged app patience locator (scene.logged log)) fun result added =>
        Shows (Absent locator) result.toOption added := by
  obtain ⟨looks, same, shows⟩ := repeatRound_logged (lookAway_logged backend app locator)
    patience.backoff patience.rounds scene log
  rw [waitUntilGone, waitUntilGone, same]
  generalize repeatRound (lookAway backend app locator) patience.backoff patience.rounds
    scene = outcome at shows ⊢
  rcases outcome with ⟨error | _ | found, after⟩ <;> exact ⟨looks, rfl, shows⟩

end Polling

end Rehearsal
