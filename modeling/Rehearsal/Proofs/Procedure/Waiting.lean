import Rehearsal.Procedure.Basic
/-!
# The course of a wait

What a wait for a widget may do is laid down before it begins: a list of looks, each in a dump of
its own, and of pauses between the rounds. The wait follows this plan up to the first look that
decides and does nothing after it.
-/

set_option autoImplicit false

namespace Rehearsal

/-- The errors after which asking again is no use. -/
theorem BackendError.isFatal_iff (error : BackendError) :
    error.isFatal = true ↔
      error = .notConnected ∨ (∃ message, error = .connectionLost message) ∨
        ∃ message, error = .io message := by
  cases error <;> simp [isFatal]

namespace Polling

variable {σ : Type}

/-- One thing that a wait does. -/
inductive Move where
  | look (locator : Locator)
  | pause
  deriving DecidableEq

/-- The looks of every round, with a pause between two rounds. -/
def plan (candidates : List Locator) (rounds : Nat) : List Move :=
  [Move.pause].intercalate (List.replicate rounds (candidates.map .look))

@[simp] theorem plan_one (candidates : List Locator) :
    plan candidates 1 = candidates.map .look := by
  simp [plan]

theorem plan_succ_succ (candidates : List Locator) (rounds : Nat) :
    plan candidates (rounds + 2) =
      candidates.map .look ++ .pause :: plan candidates (rounds + 1) := by
  simp [plan, List.replicate_succ, List.intercalate]

/-- A plan of some rounds looks for every candidate in every round. -/
theorem filter_look_plan (candidates : List Locator) (rounds : Nat) :
    (plan candidates rounds).filter (· ≠ .pause) =
      (List.replicate rounds candidates).flatten.map .look := by
  have looks : (candidates.map Move.look).filter (· ≠ .pause) = candidates.map .look := by
    exact List.filter_eq_self.mpr fun move member => by
      obtain ⟨locator, -, rfl⟩ := List.mem_map.mp member
      rfl
  match rounds with
  | 0 => rfl
  | 1 => simp
  | rounds + 2 =>
      rw [plan_succ_succ, List.filter_append, looks, List.filter_cons_of_neg (by simp),
        filter_look_plan candidates (rounds + 1), List.replicate_succ (n := rounds + 1)]
      simp

/-- There is one pause less than there are rounds. -/
theorem count_pause_plan (candidates : List Locator) (rounds : Nat) :
    (plan candidates rounds).count .pause = rounds - 1 := by
  have looks : (candidates.map Move.look).count .pause = 0 := by
    simp [List.count_eq_zero]
  match rounds with
  | 0 => rfl
  | 1 => rwa [plan_one]
  | rounds + 2 =>
      rw [plan_succ_succ, List.count_append, looks, List.count_cons_self,
        count_pause_plan candidates (rounds + 1)]
      omega

/-! ## Playing moves -/

/-- The scene after a move: a look takes a dump, a pause takes its time. -/
def play (backend : Backend σ) (app : String) (backoff : Nat) (scene : Scene σ) : Move → Scene σ
  | .look _ => (scene.await (backend.dump app)).2
  | .pause => scene.pause backoff

/-- The scene after moves. -/
def playAll (backend : Backend σ) (app : String) (backoff : Nat) (scene : Scene σ)
    (moves : List Move) : Scene σ :=
  moves.foldl (play backend app backoff) scene

/-- Whether a look finds a node in the dump that it takes. -/
def Finds (backend : Backend σ) (app : String) (scene : Scene σ) (locator : Locator)
    (node : Node) : Prop :=
  ∃ forest, (scene.await (backend.dump app)).1 = .ok forest ∧ forest.locate? locator = some node

/-- Whether the dump that a look takes shows that the backend is gone. -/
def Loses (backend : Backend σ) (app : String) (scene : Scene σ) (error : BackendError) : Prop :=
  (scene.await (backend.dump app)).1 = .error error ∧
    (error = .notConnected ∨ (∃ message, error = .connectionLost message) ∨
      ∃ message, error = .io message)

/-- Whether a move decides nothing. -/
def Misses (backend : Backend σ) (app : String) (scene : Scene σ) : Move → Prop
  | .look locator =>
    (∀ node, ¬ Finds backend app scene locator node) ∧ ∀ error, ¬ Loses backend app scene error
  | .pause => True

/-- Whether none of several moves decides anything. -/
def AllMiss (backend : Backend σ) (app : String) (backoff : Nat) (scene : Scene σ) :
    List Move → Prop
  | [] => True
  | move :: rest =>
    Misses backend app scene move ∧
      AllMiss backend app backoff (play backend app backoff scene move) rest

/-! ## Following a plan -/

/-- Goes through moves up to the first look that decides. -/
def follow (backend : Backend σ) (app : String) (backoff : Nat) :
    List Move → Scene σ → Round (Locator × Node) × Scene σ
  | [], scene => (.ok none, scene)
  | .pause :: rest, scene => follow backend app backoff rest (scene.pause backoff)
  | .look locator :: rest, scene =>
    match lookUp backend app [locator] scene with
    | (.ok none, after) => follow backend app backoff rest after
    | (result, after) => (result, after)

/-- What one look comes to. -/
theorem lookUp_one_cases (backend : Backend σ) (app : String) (locator : Locator)
    (scene : Scene σ) :
    (∃ node, Finds backend app scene locator node ∧
      lookUp backend app [locator] scene =
        (.ok (some (locator, node)), (scene.await (backend.dump app)).2)) ∨
    (∃ error, Loses backend app scene error ∧
      lookUp backend app [locator] scene =
        (.error error, (scene.await (backend.dump app)).2)) ∨
    (Misses backend app scene (.look locator) ∧
      lookUp backend app [locator] scene = (.ok none, (scene.await (backend.dump app)).2)) := by
  rcases dumped : scene.await (backend.dump app) with ⟨answer, after⟩
  cases answer with
  | ok forest =>
      cases located : forest.locate? locator with
      | some node =>
          refine .inl ⟨node, ⟨forest, by rw [dumped], located⟩, ?_⟩
          simp [lookUp, Backend.find, dumped, located]
      | none =>
          refine .inr (.inr ⟨⟨?_, ?_⟩, ?_⟩)
          · rintro node ⟨other, answered, found⟩
            rw [dumped] at answered
            cases answered
            rw [located] at found
            cases found
          · rintro error ⟨answered, -⟩
            rw [dumped] at answered
            cases answered
          · simp [lookUp, Backend.find, dumped, located]
  | error error =>
      cases fatal : error.isFatal with
      | true =>
          refine .inr (.inl ⟨error, ⟨by rw [dumped], error.isFatal_iff.mp fatal⟩, ?_⟩)
          simp [lookUp, Backend.find, dumped, fatal]
      | false =>
          refine .inr (.inr ⟨⟨?_, ?_⟩, ?_⟩)
          · rintro node ⟨forest, answered, -⟩
            rw [dumped] at answered
            cases answered
          · rintro other ⟨answered, kind⟩
            rw [dumped] at answered
            cases answered
            rw [error.isFatal_iff.mpr kind] at fatal
            cases fatal
          · simp [lookUp, Backend.find, dumped, fatal]

/-- What moves come to when they are made up to the first look that decides: the result and the
scene after the last move that is made. -/
inductive Course (backend : Backend σ) (app : String) (backoff : Nat) (scene : Scene σ)
    (moves : List Move) : Round (Locator × Node) → Scene σ → Prop where
  | found {before rest : List Move} {locator : Locator} {node : Node}
      (split : moves = before ++ .look locator :: rest)
      (missed : AllMiss backend app backoff scene before)
      (finds : Finds backend app (playAll backend app backoff scene before) locator node) :
      Course backend app backoff scene moves (.ok (some (locator, node)))
        (playAll backend app backoff scene (before ++ [.look locator]))
  | lost {before rest : List Move} {locator : Locator} {error : BackendError}
      (split : moves = before ++ .look locator :: rest)
      (missed : AllMiss backend app backoff scene before)
      (loses : Loses backend app (playAll backend app backoff scene before) error) :
      Course backend app backoff scene moves (.error error)
        (playAll backend app backoff scene (before ++ [.look locator]))
  | missed (all : AllMiss backend app backoff scene moves) :
      Course backend app backoff scene moves (.ok none) (playAll backend app backoff scene moves)

section

variable {backend : Backend σ} {app : String} {backoff : Nat}

/-- A move that misses leaves the decision to those after it. -/
theorem Course.later {scene after : Scene σ} {move : Move} {moves : List Move}
    {result : Round (Locator × Node)} (misses : Misses backend app scene move)
    (course : Course backend app backoff (play backend app backoff scene move) moves result after) :
    Course backend app backoff scene (move :: moves) result after := by
  cases course with
  | @found before rest locator node split missed finds =>
      have later : move :: moves = (move :: before) ++ .look locator :: rest := by rw [split]; rfl
      exact .found later ⟨misses, missed⟩ finds
  | @lost before rest locator error split missed loses =>
      have later : move :: moves = (move :: before) ++ .look locator :: rest := by rw [split]; rfl
      exact .lost later ⟨misses, missed⟩ loses
  | missed all => exact .missed ⟨misses, all⟩

theorem course_follow (moves : List Move) (scene : Scene σ) :
    Course backend app backoff scene moves (follow backend app backoff moves scene).1
      (follow backend app backoff moves scene).2 := by
  induction moves generalizing scene with
  | nil => exact .missed trivial
  | cons move moves ih =>
      cases move with
      | pause => exact .later trivial (ih _)
      | look locator =>
          obtain ⟨node, finds, looked⟩ | ⟨error, loses, looked⟩ | ⟨misses, looked⟩ :=
            lookUp_one_cases backend app locator scene
          · have first : Move.look locator :: moves = [] ++ .look locator :: moves := rfl
            rw [follow, looked]
            exact .found first trivial finds
          · have first : Move.look locator :: moves = [] ++ .look locator :: moves := rfl
            rw [follow, looked]
            exact .lost first trivial loses
          · rw [follow, looked]
            exact .later misses (ih _)

/-! ## Rounds follow the plan -/

/-- Goes on where nothing has been decided. -/
def orElse {α : Type} (first : Round α × Scene σ) (next : Scene σ → Round α × Scene σ) :
    Round α × Scene σ :=
  match first with
  | (.ok none, after) => next after
  | (result, after) => (result, after)

theorem follow_append (first second : List Move) (scene : Scene σ) :
    follow backend app backoff (first ++ second) scene =
      orElse (follow backend app backoff first scene) (follow backend app backoff second) := by
  induction first generalizing scene with
  | nil => rfl
  | cons move first ih =>
      cases move with
      | pause => exact ih _
      | look locator =>
          rw [List.cons_append, follow, follow]
          rcases lookUp backend app [locator] scene with ⟨_ | _ | found, after⟩
          · rfl
          · exact ih after
          · rfl

theorem follow_looks (candidates : List Locator) (scene : Scene σ) :
    follow backend app backoff (candidates.map .look) scene =
      lookUp backend app candidates scene := by
  induction candidates generalizing scene with
  | nil => rfl
  | cons locator rest ih =>
      rw [List.map_cons, follow, lookUp, lookUp]
      rcases backend.find app locator scene with ⟨error | _ | node, after⟩
      · cases fatal : error.isFatal with
        | true => simp [fatal]
        | false => simpa [fatal, lookUp] using ih after
      · exact ih after
      · rfl

theorem repeatRound_eq_follow (candidates : List Locator) (rounds : Nat) (scene : Scene σ) :
    repeatRound (lookUp backend app candidates) backoff rounds scene =
      follow backend app backoff (plan candidates rounds) scene := by
  induction rounds generalizing scene with
  | zero => rfl
  | succ rounds ih =>
      rw [repeatRound]
      cases rounds with
      | zero =>
          rw [plan_one, follow_looks]
          rcases lookUp backend app candidates scene with ⟨_ | _ | found, after⟩ <;> rfl
      | succ rounds =>
          rw [plan_succ_succ, follow_append, follow_looks]
          rcases lookUp backend app candidates scene with ⟨_ | _ | found, after⟩
          · rfl
          · exact ih (after.pause backoff)
          · rfl

end

/-- How the result of a wait is told: finding nothing is an error that names the first place. -/
def told (first : Locator) (waited : Elapsed) :
    Round (Locator × Node) → Except RunError (Locator × Node)
  | .ok (some found) => .ok found
  | .ok none => .error (.widgetNotFound first.label waited)
  | .error error => .error (.backend error)

theorem waitForAny_eq_follow (backend : Backend σ) (app : String) (patience : Patience)
    (first : Locator) (others : List Locator) (scene : Scene σ) :
    waitForAny backend app patience first others scene =
      let (result, after) := follow backend app patience.backoff
        (plan (first :: others) patience.rounds) scene
      (told first (elapsed scene after) result, after) := by
  rw [waitForAny, repeatRound_eq_follow]
  rcases follow backend app patience.backoff (plan (first :: others) patience.rounds) scene with
    ⟨_ | _ | found, after⟩ <;> rfl

end Polling

/-- Where a selector is looked for in every round. -/
def Focus.candidates (focus : Focus) (selector : Selector) : List Locator :=
  match focus.window with
  | some window => [.within window selector, .anywhere selector]
  | .none => [.anywhere selector]

theorem Focus.locator_cons_fallbacks (focus : Focus) (selector : Selector) :
    focus.locator selector :: focus.fallbacks selector = focus.candidates selector := by
  obtain ⟨window, widget⟩ := focus
  cases window <;> rfl

/-- What a wait comes to: the first look of its plan that decides is the last thing it does. A wait
that finds nothing has gone through the whole plan, whose pauses are one fewer than its rounds. -/
theorem Procedure.waitFor_course {σ : Type} (procedure : Procedure σ) (selector : Selector) :
    let candidates := procedure.focus.candidates selector
    let rounds := max 1 procedure.patience.attempts
    let moves := Polling.plan candidates rounds
    (moves.filter (· ≠ .pause) = (List.replicate rounds candidates).flatten.map .look ∧
      moves.count .pause = rounds - 1) ∧
    ∃ result after,
      Polling.Course procedure.backend procedure.app procedure.patience.backoff procedure.scene
        moves result after ∧
      procedure.waitFor selector =
        (Polling.told (procedure.focus.locator selector) (Polling.elapsed procedure.scene after)
          result, procedure.on after) := by
  intro candidates rounds moves
  refine ⟨⟨Polling.filter_look_plan candidates rounds, Polling.count_pause_plan candidates rounds⟩,
    _, _, Polling.course_follow moves procedure.scene, ?_⟩
  rw [waitFor, waitForAny, Polling.waitForAny_eq_follow, Focus.locator_cons_fallbacks]
  rfl

end Rehearsal
