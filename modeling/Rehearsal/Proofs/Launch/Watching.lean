import Rehearsal.Launch.MainWindow
/-!
# What decides a wait for the main window

A wait sees the process, answers to its requests for the tree and the clock, round after round. What
it would see if it never stopped does not depend on what it makes of it; its result is what the
first event says that decides anything.
-/

set_option autoImplicit false

namespace Rehearsal.MainWindow

variable {σ : Type}

/-! ## Events -/

inductive Event where
  /-- What a look at the process comes to: how it has ended, if it has. -/
  | process (told : Except String (Option ExitStatus))
  /-- The answer to a request for the tree, if it has come in what was left of the time. -/
  | tree (answer : Option (Except BackendError Forest))
  /-- The time after a request. -/
  | time (clock : Nat)

namespace Event

/-- The time that is read off the clock. -/
def reading? : Event → Option Nat
  | .time clock => some clock
  | _ => none

def IsCheck (event : Event) : Prop := ∃ told, event = .process told

def IsCleanExit (event : Event) : Prop :=
  ∃ status, event = .process (.ok (some status)) ∧ status.isSuccess = true

end Event

/-- What an event decides. A process that ends well decides nothing, nor does an error of the
backend but that there is no connection, nor a window that is not at the top level. -/
inductive Decides (app : String) (timeout deadline : Nat) :
    Event → Except RunError String → Prop where
  | window {forest : Forest} {frame : Node}
      (first : forest.find? (·.isRole Role.frame) = some frame) :
      Decides app timeout deadline (.tree (some (.ok forest))) (.ok (frame.name.getD ""))
  | died {status : ExitStatus} (badly : status.isSuccess = false) :
      Decides app timeout deadline (.process (.ok (some status)))
        (.error (.processLaunch app s!"exited with {status.text} before showing a window"))
  /-- The process cannot be looked at. -/
  | unseen {fault : String} :
      Decides app timeout deadline (.process (.error fault)) (.error (.io fault))
  | unconnected :
      Decides app timeout deadline (.tree (some (.error .notConnected)))
        (.error (.backend .notConnected))
  | late {clock : Nat} (passed : deadline ≤ clock) :
      Decides app timeout deadline (.time clock)
        (.error (.launchTimeout app (.ofMilliseconds timeout)))

section

variable (app : String) (timeout deadline : Nat)

def Undecided (events : List Event) : Prop :=
  ∀ event ∈ events, ∀ result, ¬ Decides app timeout deadline event result

/-- What the first of some events that decides anything says. -/
def FirstDecides (events : List Event) (result : Except RunError String) : Prop :=
  ∃ earlier event later, events = earlier ++ event :: later ∧
    Undecided app timeout deadline earlier ∧ Decides app timeout deadline event result

end

section

variable {app : String} {timeout deadline : Nat}

theorem Decides.unique {event : Event} {result other : Except RunError String}
    (decides : Decides app timeout deadline event result)
    (again : Decides app timeout deadline event other) : result = other := by
  cases decides with
  | window first =>
      cases again with
      | window second =>
          rw [first] at second
          cases second
          rfl
  | died _ => cases again; rfl
  | unseen => cases again; rfl
  | unconnected => cases again; rfl
  | late _ => cases again; rfl

/-- More events after the first that decides make no difference. -/
theorem FirstDecides.unique {events more : List Event} {result other : Except RunError String}
    (begins : events <+: more) (first : FirstDecides app timeout deadline events result)
    (longer : FirstDecides app timeout deadline more other) : result = other := by
  obtain ⟨rest, rfl⟩ := begins
  obtain ⟨earlier, event, later, rfl, undecided, decides⟩ := first
  obtain ⟨earlier', event', later', split, undecided', decides'⟩ := longer
  rw [List.append_assoc, List.cons_append, List.append_eq_append_iff] at split
  rcases split with ⟨middle, rfl, same⟩ | ⟨middle, rfl, same⟩
  · cases middle with
    | nil =>
        obtain ⟨rfl, -⟩ := List.cons.inj same
        exact decides.unique decides'
    | cons head middle =>
        obtain ⟨rfl, -⟩ := List.cons.inj same
        exact absurd decides (undecided' event (by simp) result)
  · cases middle with
    | nil =>
        obtain ⟨rfl, -⟩ := List.cons.inj same
        exact decides.unique decides'
    | cons head middle =>
        obtain ⟨rfl, -⟩ := List.cons.inj same
        exact absurd decides' (undecided event' (by simp) other)

theorem decides_of_decided {answer : Option (Except BackendError Forest)}
    {result : Except RunError String} (found : decided answer = some result) :
    Decides app timeout deadline (.tree answer) result := by
  rcases answer with _ | error | forest
  · cases found
  · cases error <;> cases found
    exact .unconnected
  · obtain ⟨title, named, rfl⟩ := Option.map_eq_some_iff.mp found
    obtain ⟨frame, first, rfl⟩ := Option.map_eq_some_iff.mp named
    exact .window first

theorem not_decides_of_decided {answer : Option (Except BackendError Forest)}
    (nothing : decided answer = none) (result : Except RunError String) :
    ¬ Decides app timeout deadline (.tree answer) result := by
  intro decides
  cases decides with
  | window first => simp [decided, title?, first] at nothing
  | unconnected => cases nothing

/-- Whether a look at the process has found that it has ended well. -/
def endedWell : Except String (Option ExitStatus) → Bool
  | .ok (some status) => status.isSuccess
  | _ => false

/-- A look at the process that ends the wait is the first event to decide. -/
theorem decides_of_check {ended : Bool} {told : Except String (Option ExitStatus)}
    {error : RunError}
    (checked : check app ended told = .error error) :
    ended = false ∧
      ∀ timeout deadline, Decides app timeout deadline (.process told) (.error error) := by
  cases ended with
  | true => cases checked
  | false =>
      refine ⟨rfl, fun timeout deadline => ?_⟩
      rcases told with fault | _ | status
      · cases checked
        exact .unseen
      · cases checked
      · cases success : status.isSuccess with
        | true => simp [check, success] at checked
        | false =>
            simp only [check, success, Bool.false_eq_true, if_false, Except.error.injEq] at checked
            exact checked ▸ .died success

theorem undecided_of_check {ended nowEnded : Bool} {told : Except String (Option ExitStatus)}
    (checked : check app ended told = .ok nowEnded) :
    nowEnded = (ended || endedWell told) ∧
      (ended = false → ∀ timeout deadline result,
        ¬ Decides app timeout deadline (.process told) result) := by
  cases ended with
  | true =>
      cases checked
      exact ⟨rfl, nofun⟩
  | false =>
      rcases told with fault | _ | status
      · cases checked
      · cases checked
        exact ⟨rfl, fun _ _ _ result decides => nomatch decides⟩
      · cases success : status.isSuccess with
        | true =>
            simp only [check, success, Bool.false_eq_true, if_false, if_true,
              Except.ok.injEq] at checked
            refine ⟨by simp [← checked, endedWell, success], fun _ _ _ result decides => ?_⟩
            cases decides with
            | died badly => exact absurd (success.symm.trans badly) nofun
        | false => simp [check, success] at checked

end

/-! ## Rounds -/

section

variable (backend : Backend σ) (app : String) (status : Nat → Except String (Option ExitStatus))
  (timeout interval deadline : Nat)

/-- What a round sees before it reads the clock, when it is known whether the process has ended
well. -/
def look (ended : Bool) (scene : Scene σ) : List Event :=
  (if ended then [] else [.process (status scene.clock)]) ++
    [.tree (scene.awaitWithin (deadline - scene.clock) (backend.dump app)).1]

/-- What some rounds see, one after the other with a pause between them. -/
def events : Nat → Bool → Scene σ → List Event
  | 0, _, _ => []
  | rounds + 1, ended, scene =>
    let asked := scene.awaitWithin (deadline - scene.clock) (backend.dump app)
    look backend app status deadline ended scene ++ .time asked.2.clock ::
      events rounds (ended || endedWell (status scene.clock))
        (afterPause scene.clock interval asked.2)

end

section

variable {backend : Backend σ} {app : String} {status : Nat → Except String (Option ExitStatus)}
  {timeout interval deadline : Nat}

theorem events_mono {rounds more : Nat} (fewer : rounds ≤ more) (ended : Bool)
    (scene : Scene σ) :
    events backend app status interval deadline rounds ended scene <+:
      events backend app status interval deadline more ended scene := by
  induction rounds generalizing more ended scene with
  | zero => exact List.nil_prefix
  | succ rounds ih =>
      cases more with
      | zero => cases fewer
      | succ more =>
          have others := Nat.le_of_succ_le_succ fewer
          rw [events, events]
          exact (List.prefix_append_right_inj _).mpr
            ((List.prefix_cons_inj _).mpr (ih others _ _))

theorem mem_events_succ {rounds : Nat} {ended : Bool} {scene : Scene σ} {event : Event}
    (member : event ∈ events backend app status interval deadline (rounds + 1) ended scene)
    (check : event.IsCheck) :
    (ended = false ∧ event = .process (status scene.clock)) ∨
      event ∈ events backend app status interval deadline rounds
        (ended || endedWell (status scene.clock))
        (afterPause scene.clock interval
          (scene.awaitWithin (deadline - scene.clock) (backend.dump app)).2) := by
  obtain ⟨found, rfl⟩ := check
  rw [events, List.mem_append, List.mem_cons] at member
  rcases member with now | clock | later
  · cases ended with
    | true => simp [look] at now
    | false => exact .inl ⟨rfl, by simpa [look] using now⟩
  · cases clock
  · exact .inr later

/-- Once the process is known to have ended well it is not looked at. -/
theorem not_isCheck_of_ended {rounds : Nat} {scene : Scene σ} {event : Event}
    (member : event ∈ events backend app status interval deadline rounds true scene) :
    ¬ event.IsCheck := by
  intro check
  induction rounds generalizing scene with
  | zero => cases member
  | succ rounds ih =>
      rcases mem_events_succ member check with ⟨unknown, -⟩ | later
      · cases unknown
      · exact ih later

theorem pairwise_events (rounds : Nat) (ended : Bool) (scene : Scene σ) :
    (events backend app status interval deadline rounds ended scene).Pairwise
      fun earlier later => earlier.IsCleanExit → ¬ later.IsCheck := by
  induction rounds generalizing ended scene with
  | zero => exact .nil
  | succ rounds ih =>
      rw [events, List.pairwise_append, List.pairwise_cons]
      refine ⟨?_, ⟨?_, ih _ _⟩, ?_⟩
      · cases ended <;> simp [look, Event.IsCheck]
      · rintro other - ⟨found, same, -⟩
        cases same
      · rintro event now other later ⟨found, rfl, success⟩
        rcases List.mem_cons.mp later with rfl | later
        · rintro ⟨_, same⟩
          cases same
        · cases ended with
          | true => simp [look] at now
          | false =>
              have same : .ok (some found) = status scene.clock := by simpa [look] using now
              rw [← same] at later
              have known : (false || endedWell (.ok (some found))) = true := success
              rw [known] at later
              exact not_isCheck_of_ended later

/-- What is seen of the process is what a look at it comes to at some time. -/
theorem exists_status_of_mem {rounds : Nat} {ended : Bool} {scene : Scene σ}
    {told : Except String (Option ExitStatus)}
    (member : .process told ∈ events backend app status interval deadline rounds ended scene) :
    ∃ clock, told = status clock := by
  induction rounds generalizing ended scene with
  | zero => cases member
  | succ rounds ih =>
      rcases mem_events_succ member ⟨told, rfl⟩ with ⟨-, now⟩ | later
      · cases now
        exact ⟨scene.clock, rfl⟩
      · exact ih later

/-- A look that goes on to the clock has seen nothing that decides. -/
theorem undecided_look {ended nowEnded : Bool} {scene : Scene σ}
    (checked : check app ended (status scene.clock) = .ok nowEnded)
    (nothing : decided
      (scene.awaitWithin (deadline - scene.clock) (backend.dump app)).1 = none) :
    Undecided app timeout deadline (look backend app status deadline ended scene) := by
  intro event member
  rcases List.mem_append.mp member with process | answer
  · cases ended with
    | true => cases process
    | false =>
        cases List.mem_singleton.mp process
        exact (undecided_of_check checked).2 rfl timeout deadline
  · cases List.mem_singleton.mp answer
    exact not_decides_of_decided nothing

theorem filterMap_reading?_look (ended : Bool) (scene : Scene σ) :
    (look backend app status deadline ended scene).filterMap Event.reading? = [] := by
  cases ended <;> rfl

/-! ## The end of a wait -/

/-- The time at which a wait is over that began at some time and read the clock before its pauses.
-/
structure RunsOut (interval deadline begun : Nat) (readings : List Nat) (clock : Nat) : Prop where
  late : deadline ≤ clock
  soon : clock < max (begun + 1) (deadline + max 1 interval)
  inTime : clock ≤ deadline ↔
    begun ≤ deadline ∧ ∀ reading ∈ readings, reading + interval ≤ deadline

/-- A request is given up at the deadline. -/
theorem clock_awaitWithin_le {α : Type} (scene : Scene σ) (call : Nat → σ → Reply σ α) :
    (scene.awaitWithin (deadline - scene.clock) call).2.clock ≤ max scene.clock deadline := by
  simp only [Scene.awaitWithin]
  split <;> simp only <;> omega

theorem RunsOut.first {begun clock : Nat} (passed : deadline ≤ clock) (later : begun ≤ clock)
    (stopped : clock ≤ max begun deadline) : RunsOut interval deadline begun [] clock := by
  refine ⟨passed, by omega, ?_⟩
  constructor
  · intro inTime
    exact ⟨by omega, nofun⟩
  · rintro ⟨early, -⟩
    omega

theorem RunsOut.afterPause {begun reading clock : Nat} {readings : List Nat}
    (later : begun ≤ reading) (early : reading < deadline)
    (runsOut : RunsOut interval deadline (max (begun + 1) (reading + interval)) readings clock) :
    RunsOut interval deadline begun (reading :: readings) clock := by
  refine ⟨runsOut.late, ?_, ?_⟩
  · have soon := runsOut.soon
    omega
  · rw [runsOut.inTime, List.forall_mem_cons]
    constructor
    · rintro ⟨inTime, others⟩
      exact ⟨by omega, by omega, others⟩
    · rintro ⟨-, inTime, others⟩
      exact ⟨by omega, others⟩

/-- A wait ends with the first event that decides. If that is a reading of the clock, it is the last
thing that the wait has seen. -/
theorem await_ends (ended : Bool) (scene : Scene σ) :
    let outcome := await backend app status timeout interval deadline ended scene
    ∃ rounds earlier event later,
      events backend app status interval deadline rounds ended scene =
        earlier ++ event :: later ∧
      Undecided app timeout deadline earlier ∧
      Decides app timeout deadline event (outcome.1.map Sighting.title) ∧
      ∀ clock, event = .time clock → later = [] ∧ clock = outcome.2.clock ∧
        RunsOut interval deadline scene.clock (earlier.filterMap Event.reading?) clock := by
  -- The three ways to end are each the first event of their round that decides; a round that goes
  -- on has seen none, and puts its own events before those of the rounds after it.
  fun_induction await backend app status timeout interval deadline ended scene with
  | case1 ended scene error checked =>
      obtain ⟨rfl, decides⟩ := decides_of_check checked
      let asked := scene.awaitWithin (deadline - scene.clock) (backend.dump app)
      exact ⟨1, [], .process (status scene.clock), [.tree asked.1, .time asked.2.clock], rfl, nofun,
        decides timeout deadline, nofun⟩
  | case2 ended scene nowEnded checked outcome result found =>
      refine ⟨1, if ended then [] else [.process (status scene.clock)], .tree outcome.1,
        [.time outcome.2.clock], ?_, ?_, ?_, nofun⟩
      · rw [events, look, List.append_assoc]
        rfl
      · intro event member
        cases ended with
        | true => cases member
        | false =>
            cases List.mem_singleton.mp member
            exact (undecided_of_check checked).2 rfl timeout deadline
      · have decides : Decides app timeout deadline (.tree outcome.1) result :=
          decides_of_decided found
        cases result <;> exact decides
  | case3 ended scene nowEnded checked outcome nothing passed =>
      refine ⟨1, look backend app status deadline ended scene, .time outcome.2.clock, [],
        by rw [events, events], undecided_look checked nothing, .late passed, ?_⟩
      intro clock same
      cases same
      refine ⟨rfl, rfl, ?_⟩
      rw [filterMap_reading?_look]
      exact .first passed (clock_le_awaitWithin _ _ _) (clock_awaitWithin_le _ _)
  | case4 ended scene nowEnded checked outcome nothing early ih =>
      obtain ⟨rounds, earlier, event, later, split, undecided, decides, timed⟩ := ih
      obtain ⟨known, -⟩ := undecided_of_check checked
      refine ⟨rounds + 1,
        look backend app status deadline ended scene ++ .time outcome.2.clock :: earlier, event,
        later, ?_, ?_, decides, ?_⟩
      · rw [events, ← known, split, List.append_assoc, List.cons_append]
      · intro seen member
        rcases List.mem_append.mp member with now | after
        · exact undecided_look checked nothing seen now
        · rcases List.mem_cons.mp after with rfl | after
          · intro result late
            cases late with
            | late passed => exact early passed
          · exact undecided seen after
      · intro clock same
        obtain ⟨last, reached, runsOut⟩ := timed clock same
        refine ⟨last, reached, ?_⟩
        rw [List.filterMap_append, filterMap_reading?_look]
        exact runsOut.afterPause (clock_le_awaitWithin _ _ _) (Nat.not_le.mp early)

/-! ## What a wait depends on -/

theorem le_clock_await (ended : Bool) (scene : Scene σ) :
    scene.clock ≤
      (await backend app status timeout interval deadline ended scene).2.clock := by
  fun_induction await backend app status timeout interval deadline ended scene with
  | case1 => exact Nat.le_refl _
  | case2 => exact clock_le_awaitWithin _ _ _
  | case3 => exact clock_le_awaitWithin _ _ _
  | case4 ended scene nowEnded checked outcome nothing early ih =>
      exact Nat.le_trans (by simp only [afterPause]; omega) ih

/-- What looks at the process would come to after a wait makes no difference to it. -/
theorem await_congr {other : Nat → Except String (Option ExitStatus)} (ended : Bool)
    (scene : Scene σ)
    (same : ∀ clock, scene.clock ≤ clock →
      clock ≤ (await backend app status timeout interval deadline ended scene).2.clock →
      other clock = status clock) :
    await backend app other timeout interval deadline ended scene =
      await backend app status timeout interval deadline ended scene := by
  have now := same scene.clock (Nat.le_refl _) (le_clock_await ended scene)
  fun_induction await backend app status timeout interval deadline ended scene with
  | case1 ended scene error checked => rw [await, now, checked]
  | case2 ended scene nowEnded checked outcome result found =>
      rw [await, now, checked]
      dsimp only
      rw [found]
  | case3 ended scene nowEnded checked outcome nothing passed =>
      rw [await, now, checked]
      dsimp only
      rw [nothing]
      exact if_pos passed
  | case4 ended scene nowEnded checked outcome nothing early ih =>
      rw [await, now, checked]
      dsimp only
      rw [nothing]
      have later : scene.clock ≤ (afterPause scene.clock interval outcome.2).clock := by
        simp only [afterPause]
        omega
      refine (if_neg early).trans (ih ?_ ?_)
      · intro clock begun
        exact same clock (Nat.le_trans later begun)
      · exact same _ later (le_clock_await _ _)

end

/-! ## The first event that decides -/

/-- A wait comes to a result exactly when the first event that decides says so. No result comes of
the time before it is over, and a process that has ended well is not looked at again. -/
theorem wait_decided_by_first_event (backend : Backend σ) (app : String)
    (status : Nat → Except String (Option ExitStatus)) (timeout interval : Nat) (scene : Scene σ) :
    let deadline := scene.clock + timeout
    let seen := fun rounds => events backend app status interval deadline rounds false scene
    let outcome := wait backend app status timeout interval scene
    (∀ result, outcome.1.map Sighting.title = result ↔
      ∃ rounds, FirstDecides app timeout deadline (seen rounds) result) ∧
    (outcome.1 = .error (.launchTimeout app (.ofMilliseconds timeout)) →
      deadline ≤ outcome.2.clock) ∧
    ∀ rounds,
      (seen rounds).Pairwise fun earlier later => earlier.IsCleanExit → ¬ later.IsCheck := by
  intro deadline seen outcome
  obtain ⟨rounds, earlier, event, later, split, undecided, decides, timed⟩ :=
    @await_ends σ backend app status timeout interval deadline false scene
  have first : FirstDecides app timeout deadline (seen rounds) (outcome.1.map Sighting.title) :=
    ⟨earlier, event, later, split, undecided, decides⟩
  refine ⟨?_, ?_, fun rounds => pairwise_events rounds false scene⟩
  · intro result
    constructor
    · rintro rfl
      exact ⟨rounds, first⟩
    · rintro ⟨others, decided⟩
      rcases Nat.le_total rounds others with fewer | fewer
      · exact FirstDecides.unique (events_mono fewer false scene) first decided
      · exact (FirstDecides.unique (events_mono fewer false scene) decided first).symm
  · intro timedOut
    have told : outcome.1.map Sighting.title =
        .error (.launchTimeout app (.ofMilliseconds timeout)) := by rw [timedOut]; rfl
    change Decides app timeout deadline event (outcome.1.map Sighting.title) at decides
    rw [told] at decides
    cases decides with
    | late passed =>
        obtain ⟨-, reached, runsOut⟩ := timed _ rfl
        exact reached ▸ runsOut.late

end Rehearsal.MainWindow
