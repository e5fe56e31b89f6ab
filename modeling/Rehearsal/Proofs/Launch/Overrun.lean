import Rehearsal.Proofs.Launch.Watching
/-!
# How late a wait for the main window ends

A request for the tree is given up at the deadline, a pause is not. A wait that finds nothing ends
at the deadline unless a pause runs over it, and then with that pause.
-/

set_option autoImplicit false

namespace Rehearsal.MainWindow

variable {σ : Type}

theorem eq_time_of_decides {app : String} {timeout deadline : Nat} {event : Event}
    {result : Except RunError String} (decides : Decides app timeout deadline event result)
    (well : ∀ told, event = .process told →
      told = .ok none ∨ ∃ found, told = .ok (some found) ∧ found.isSuccess = true)
    (hidden : ∀ answer, event = .tree (some answer) →
      answer ≠ .error .notConnected ∧
        ∀ forest, answer = .ok forest → forest.find? (·.isRole Role.frame) = none) :
    ∃ clock, event = .time clock ∧
      result = .error (.launchTimeout app (.ofMilliseconds timeout)) := by
  cases decides with
  | window first =>
      have none := (hidden _ rfl).2 _ rfl
      rw [first] at none
      cases none
  | @died status badly =>
      rcases well _ rfl with running | ⟨found, same, success⟩
      · cases running
      · cases same
        exact absurd (success.symm.trans badly) nofun
  | unseen => rcases well _ rfl with running | ⟨found, same, -⟩ <;> contradiction
  | unconnected => exact absurd rfl (hidden _ rfl).1
  | late passed => exact ⟨_, rfl, rfl⟩

theorem lt_of_undecided {app : String} {timeout deadline reading : Nat} {events : List Event}
    (undecided : Undecided app timeout deadline events)
    (member : reading ∈ events.filterMap Event.reading?) : reading < deadline := by
  obtain ⟨event, seen, read⟩ := List.mem_filterMap.mp member
  cases event with
  | time clock =>
      cases read
      exact Nat.not_le.mp fun passed => undecided _ seen _ (.late passed)
  | process told => cases read
  | tree answer => cases read

/-- A wait whose process can be looked at and never ends badly, and whose backend is connected and
shows no main window, ends because its time is over. It ends at the deadline or with the pause that
runs over it, so it is late exactly if a pause that begins before the deadline does not end by then;
slow answers never make it late. -/
theorem wait_late_by_pause (backend : Backend σ) (app : String)
    (status : Nat → Except String (Option ExitStatus)) (timeout interval : Nat) (scene : Scene σ)
    (well : ∀ clock, status clock = .ok none ∨
      ∃ found, status clock = .ok (some found) ∧ found.isSuccess = true)
    (hidden : ∀ rounds answer,
      Event.tree (some answer) ∈
        events backend app status interval (scene.clock + timeout) rounds false scene →
      answer ≠ .error .notConnected ∧
        ∀ forest, answer = .ok forest → forest.find? (·.isRole Role.frame) = none) :
    let deadline := scene.clock + timeout
    let outcome := wait backend app status timeout interval scene
    outcome.1 = .error (.launchTimeout app (.ofMilliseconds timeout)) ∧
    ∃ rounds pauses,
      (events backend app status interval deadline rounds false scene).filterMap Event.reading? =
        pauses ++ [outcome.2.clock] ∧
      (∀ begun ∈ pauses, begun < deadline) ∧
      deadline ≤ outcome.2.clock ∧ outcome.2.clock < deadline + max 1 interval ∧
      (outcome.2.clock ≤ deadline ↔ ∀ begun ∈ pauses, begun + interval ≤ deadline) := by
  intro deadline outcome
  obtain ⟨rounds, earlier, event, later, split, undecided, decides, timed⟩ :=
    @await_ends σ backend app status timeout interval deadline false scene
  have seen : event ∈ events backend app status interval deadline rounds false scene := by
    rw [split]
    exact List.mem_append_right _ List.mem_cons_self
  obtain ⟨clock, rfl, told⟩ := eq_time_of_decides decides
    (fun told same => by
      obtain ⟨clock, rfl⟩ := exists_status_of_mem (same ▸ seen)
      exact well clock)
    (fun answer same => hidden rounds answer (same ▸ seen))
  obtain ⟨rfl, rfl, runsOut⟩ := timed clock rfl
  refine ⟨?_, rounds, earlier.filterMap Event.reading?, ?_, ?_, runsOut.late, ?_, ?_⟩
  · change outcome.1.map Sighting.title = _ at told
    cases ended : outcome.1 with
    | ok sighting =>
        rw [ended] at told
        cases told
    | error error =>
        rw [ended] at told
        exact congrArg Except.error (Except.error.inj told)
  · rw [split, List.filterMap_append]
    rfl
  · intro begun member
    exact lt_of_undecided undecided member
  · have soon := runsOut.soon
    change outcome.2.clock < _ at soon
    omega
  · refine runsOut.inTime.trans ?_
    simp [deadline]

/-- A backend of an application that never shows a window. -/
def emptyBackend : Backend Unit where
  connected := fun _ => true
  dump := fun _ _ _ => .now (.ok []) ()
  perform := fun _ _ _ _ => .now (.ok ()) ()
  screenshot := fun _ _ => .now (.ok []) ()

theorem answer_of_emptyBackend {app : String}
    {status : Nat → Except String (Option ExitStatus)} {interval deadline rounds : Nat}
    {ended : Bool} {scene : Scene Unit}
    {answer : Option (Except BackendError Forest)}
    (member : .tree answer ∈
      events emptyBackend app status interval deadline rounds ended scene) :
    answer = some (.ok []) := by
  induction rounds generalizing ended scene with
  | zero => cases member
  | succ rounds ih =>
      rw [events, List.mem_append, List.mem_cons] at member
      rcases member with now | clock | later
      · cases ended <;> simpa [look, Scene.awaitWithin, emptyBackend, Reply.now] using now
      · cases clock
      · exact ih later

/-- With a limit of a tenth of a second and pauses of one and a half, a wait ends after the first
pause. -/
theorem wait_late_by_pause_long :
    let outcome := wait emptyBackend "viewer" (fun _ => .ok none) 100 1500 ⟨(), 0⟩
    outcome.1 = .error (.launchTimeout "viewer" (.ofMilliseconds 100)) ∧
      outcome.2.clock = 1500 := by
  intro outcome
  obtain ⟨told, -⟩ := wait_late_by_pause emptyBackend "viewer" (fun _ => .ok none) 100 1500 ⟨(), 0⟩
    (fun _ => .inl rfl)
    (fun rounds answer member => by
      cases answer_of_emptyBackend member
      exact ⟨nofun, fun forest same => by cases same; rfl⟩)
  refine ⟨told, ?_⟩
  simp [outcome, wait, await, check, decided, title?, emptyBackend, Scene.awaitWithin, Reply.now,
    Scene.pause, afterPause]

end Rehearsal.MainWindow
