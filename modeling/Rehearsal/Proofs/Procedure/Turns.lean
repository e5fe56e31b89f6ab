import Rehearsal.Proofs.Procedure.Standing
import Rehearsal.Proofs.Procedure.Waiting
/-!
# Waits that look once a turn

A wait at a single place takes one dump a turn, whether it waits for a widget to show there or to be
gone. What its turns would bring is settled before it begins. It ends with the first turn that
brings what is waited for or tells that the backend is gone, and otherwise with its last one. So
before a tree that does not change one of the two waits succeeds and the other one fails.
-/

set_option autoImplicit false

namespace Rehearsal

variable {σ α : Type}

namespace Polling

/-! ## One look -/

/-- What an answer is worth to a wait for a tree of some kind. -/
def judged (judge : Forest → Option α) : Except BackendError Forest → Round α
  | .ok forest => .ok (judge forest)
  | .error error => if error.isFatal then .error error else .ok none

/-- A round of one look. -/
def look (backend : Backend σ) (app : String) (judge : Forest → Option α) (scene : Scene σ) :
    Round α × Scene σ :=
  let answered := scene.await (backend.dump app)
  (judged judge answered.1, answered.2)

/-- What there is at a place. -/
def sight (locator : Locator) (forest : Forest) : Option (Locator × Node) :=
  (forest.locate? locator).map fun node => (locator, node)

/-- Whether there is nothing at a place. -/
def absence (locator : Locator) (forest : Forest) : Option Unit :=
  if (forest.locate? locator).isNone then some () else none

section

variable {backend : Backend σ} {app : String} {locator : Locator} {scene : Scene σ}
  {judge : Forest → Option α} {error : BackendError}

theorem lookUp_eq_look : lookUp backend app [locator] = look backend app (sight locator) := by
  funext scene
  rw [lookUp, Backend.find, look]
  rcases scene.await (backend.dump app) with ⟨error | forest, after⟩
  · cases fatal : error.isFatal <;> simp [judged, fatal, lookUp]
  · cases located : forest.locate? locator <;> simp [judged, sight, located, lookUp]

theorem lookAway_eq_look : lookAway backend app locator = look backend app (absence locator) := by
  funext scene
  rw [lookAway, Backend.find, look]
  rcases scene.await (backend.dump app) with ⟨error | forest, after⟩
  · cases fatal : error.isFatal <;> simp [judged, fatal]
  · cases located : forest.locate? locator <;> simp [judged, absence, located]

theorem look_eq_some_iff {value : α} :
    (look backend app judge scene).1 = .ok (some value) ↔
      ∃ forest, (scene.await (backend.dump app)).1 = .ok forest ∧ judge forest = some value := by
  rw [look]
  rcases scene.await (backend.dump app) with ⟨error | forest, after⟩
  · cases fatal : error.isFatal <;> simp [judged, fatal]
  · simp [judged]

theorem look_eq_error_iff (judge : Forest → Option α) :
    (look backend app judge scene).1 = .error error ↔ Loses backend app scene error := by
  rw [look, Loses, ← error.isFatal_iff]
  rcases scene.await (backend.dump app) with ⟨told | forest, after⟩
  · dsimp only
    constructor
    · intro failed
      rw [judged] at failed
      split at failed
      · next fatal =>
          cases failed
          exact ⟨rfl, fatal⟩
      · cases failed
    · intro lost
      obtain ⟨same, fatal⟩ := lost
      cases same
      rw [judged, if_pos fatal]
  · simp [judged]

theorem look_eq_none_iff :
    (look backend app judge scene).1 = .ok none ↔
      (∀ forest, (scene.await (backend.dump app)).1 = .ok forest → judge forest = none) ∧
        ∀ error, ¬ Loses backend app scene error := by
  simp only [← look_eq_error_iff judge]
  rw [look]
  rcases scene.await (backend.dump app) with ⟨error | forest, after⟩
  · cases fatal : error.isFatal <;> simp [judged, fatal]
  · simp [judged]

end

/-! ## Turns -/

/-- The scene in which a turn begins: a pause after the dump of the one before it. -/
def turn (backend : Backend σ) (app : String) (backoff : Nat) (scene : Scene σ) : Nat → Scene σ
  | 0 => scene
  | number + 1 =>
    ((turn backend app backoff scene number).await (backend.dump app)).2.pause backoff

/-- How a wait of some turns ends. -/
inductive Ending (round : Scene σ → Round α × Scene σ) (turn : Nat → Scene σ) (turns : Nat) :
    Round α × Scene σ → Prop where
  | decided {number : Nat} (within : number < turns)
      (before : ∀ earlier < number, (round (turn earlier)).1 = .ok none)
      (decides : (round (turn number)).1 ≠ .ok none) :
      Ending round turn turns (round (turn number))
  | vain (idle : ∀ number < turns, (round (turn number)).1 = .ok none) :
      Ending round turn turns (.ok none, (round (turn (turns - 1))).2)

section

variable {round : Scene σ → Round α × Scene σ} {turn : Nat → Scene σ} {turns number : Nat}
  {outcome : Round α × Scene σ}

/-- A first turn that comes to nothing leaves the end to those after it. -/
theorem Ending.later (idle : (round (turn 0)).1 = .ok none)
    (ending : Ending round (fun number => turn (number + 1)) (turns + 1) outcome) :
    Ending round turn (turns + 2) outcome := by
  cases ending with
  | @decided number within before decides =>
      refine .decided (Nat.succ_lt_succ within) ?_ decides
      intro earlier less
      cases earlier with
      | zero => exact idle
      | succ earlier => exact before earlier (Nat.lt_of_succ_lt_succ less)
  | vain others =>
      refine .vain ?_
      intro number within
      cases number with
      | zero => exact idle
      | succ number => exact others number (Nat.lt_of_succ_lt_succ within)

theorem Ending.eq_of_first (ending : Ending round turn turns outcome) (within : number < turns)
    (before : ∀ earlier < number, (round (turn earlier)).1 = .ok none)
    (decides : (round (turn number)).1 ≠ .ok none) : outcome = round (turn number) := by
  cases ending with
  | @decided other _ idle decided =>
      rcases Nat.lt_trichotomy number other with less | rfl | less
      · exact absurd (idle number less) decides
      · rfl
      · exact absurd (before other less) decided
  | vain idle => exact absurd (idle number within) decides

theorem Ending.eq_of_idle (ending : Ending round turn turns outcome)
    (idle : ∀ number < turns, (round (turn number)).1 = .ok none) :
    outcome = (.ok none, (round (turn (turns - 1))).2) := by
  cases ending with
  | @decided number within _ decides => exact absurd (idle number within) decides
  | vain => rfl

/-- A wait brings something exactly when a turn does and none before it tells that the backend is
gone. -/
theorem Ending.brings_iff (ending : Ending round turn turns outcome) :
    (∃ value, outcome.1 = .ok (some value)) ↔
      ∃ number < turns, (∃ value, (round (turn number)).1 = .ok (some value)) ∧
        ∀ earlier < number, ∀ error, (round (turn earlier)).1 ≠ .error error := by
  constructor
  · intro brings
    obtain ⟨value, brings⟩ := brings
    cases ending with
    | @decided number within before _ =>
        refine ⟨number, within, ⟨value, brings⟩, ?_⟩
        intro earlier less error failed
        rw [before earlier less] at failed
        cases failed
    | vain => cases brings
  · intro brings
    obtain ⟨number, within, ⟨value, brought⟩, unlost⟩ := brings
    cases ending with
    | @decided other _ before decides =>
        rcases Nat.lt_trichotomy number other with less | rfl | less
        · rw [before number less] at brought
          cases brought
        · exact ⟨value, brought⟩
        · cases settled : (round (turn other)).1 with
          | error error => exact absurd settled (unlost other less error)
          | ok found =>
              cases found with
              | none => exact absurd settled decides
              | some first => exact ⟨first, rfl⟩
    | vain idle =>
        rw [idle number within] at brought
        cases brought

end

section

variable {backend : Backend σ} {app : String} {backoff : Nat}

theorem turn_shift (scene : Scene σ) (number : Nat) :
    turn backend app backoff ((scene.await (backend.dump app)).2.pause backoff) number =
      turn backend app backoff scene (number + 1) := by
  induction number with
  | zero => rfl
  | succ number ih =>
      rw [turn, ih]
      rfl

theorem repeatRound_of_decides {round : Scene σ → Round α × Scene σ} {scene : Scene σ}
    (decides : (round scene).1 ≠ .ok none) (turns : Nat) :
    repeatRound round backoff (turns + 1) scene = round scene := by
  rw [repeatRound]
  rcases looked : round scene with ⟨error | _ | value, after⟩
  · rfl
  · rw [looked] at decides
    exact absurd rfl decides
  · rfl

theorem repeatRound_of_idle {round : Scene σ → Round α × Scene σ} {scene : Scene σ}
    (idle : (round scene).1 = .ok none) (turns : Nat) :
    repeatRound round backoff (turns + 1) scene =
      if turns = 0 then round scene
      else repeatRound round backoff turns ((round scene).2.pause backoff) := by
  rw [repeatRound]
  rcases looked : round scene with ⟨error | _ | value, after⟩
  · rw [looked] at idle
    cases idle
  · rfl
  · rw [looked] at idle
    cases idle

/-- Looking in turns ends as laid down: with the first turn that decides, or with the last. -/
theorem ending_repeatRound (judge : Forest → Option α) (turns : Nat) (scene : Scene σ) :
    Ending (look backend app judge) (turn backend app backoff scene) (turns + 1)
      (repeatRound (look backend app judge) backoff (turns + 1) scene) := by
  induction turns generalizing scene with
  | zero =>
      by_cases idle : (look backend app judge scene).1 = .ok none
      · have only : look backend app judge scene = (.ok none, (look backend app judge scene).2) :=
          Prod.ext idle rfl
        rw [repeatRound_of_idle idle, if_pos rfl, only]
        refine .vain ?_
        intro number within
        cases Nat.lt_one_iff.mp within
        exact idle
      · rw [repeatRound_of_decides idle]
        exact .decided Nat.one_pos nofun idle
  | succ turns ih =>
      by_cases idle : (look backend app judge scene).1 = .ok none
      · rw [repeatRound_of_idle idle, if_neg (Nat.succ_ne_zero turns)]
        have rest := ih ((look backend app judge scene).2.pause backoff)
        rw [look, funext (turn_shift scene)] at rest
        exact .later idle rest
      · rw [repeatRound_of_decides idle]
        exact .decided (Nat.succ_pos _) nofun idle

end

/-! ## Waits -/

/-- How the result of a wait for absence is told. -/
def toldGone (locator : Locator) (waited : Elapsed) : Round Unit → Except RunError Unit
  | .ok (some ()) => .ok ()
  | .ok none =>
    .error (.assertionFailed s!"{locator.label} still present after {waited.milliseconds}ms")
  | .error error => .error (.backend error)

theorem waitUntilGone_eq_look (backend : Backend σ) (app : String) (patience : Patience)
    (locator : Locator) (scene : Scene σ) :
    waitUntilGone backend app patience locator scene =
      let (result, after) := repeatRound (look backend app (absence locator)) patience.backoff
        patience.rounds scene
      (toldGone locator (elapsed scene after) result, after) := by
  rw [waitUntilGone, lookAway_eq_look]
  rcases repeatRound (look backend app (absence locator)) patience.backoff patience.rounds scene
    with ⟨_ | _ | _, after⟩ <;> rfl

theorem waitForAny_eq_look (backend : Backend σ) (app : String) (patience : Patience)
    (locator : Locator) (scene : Scene σ) :
    waitForAny backend app patience locator [] scene =
      let (result, after) := repeatRound (look backend app (sight locator)) patience.backoff
        patience.rounds scene
      (told locator (elapsed scene after) result, after) := by
  rw [waitForAny, lookUp_eq_look]
  rcases repeatRound (look backend app (sight locator)) patience.backoff patience.rounds scene
    with ⟨_ | _ | _, after⟩ <;> rfl

end Polling

namespace Procedure

open Polling (absence sight look)

variable (procedure : Procedure σ)

/-- The scene in which a turn of a wait begins, if the wait comes to it. -/
def turn : Nat → Scene σ :=
  Polling.turn procedure.backend procedure.app procedure.patience.backoff procedure.scene

/-- What the dump of a turn answers. -/
def answer (number : Nat) : Except BackendError Forest :=
  ((procedure.turn number).await (procedure.backend.dump procedure.app)).1

/-- The procedure once the dump of a turn has been answered. -/
def answered (number : Nat) : Procedure σ :=
  procedure.on ((procedure.turn number).await (procedure.backend.dump procedure.app)).2

/-- Whether a turn tells that the backend is gone. -/
def LosesAt (number : Nat) (error : BackendError) : Prop :=
  Polling.Loses procedure.backend procedure.app (procedure.turn number) error

/-- What a wait for trees of some kind comes to. -/
def watch (judge : Forest → Option α) : Polling.Round α × Scene σ :=
  Polling.repeatRound (look procedure.backend procedure.app judge) procedure.patience.backoff
    procedure.patience.rounds procedure.scene

theorem ending_watch (judge : Forest → Option α) :
    Polling.Ending (look procedure.backend procedure.app judge) procedure.turn
      procedure.patience.rounds (procedure.watch judge) := by
  rw [watch, Polling.rounds_eq_succ]
  exact Polling.ending_repeatRound judge (procedure.patience.rounds - 1) procedure.scene

theorem watch_brings_iff (judge : Forest → Option α) :
    (∃ value, (procedure.watch judge).1 = .ok (some value)) ↔
      ∃ number < procedure.patience.rounds,
        (∃ forest, procedure.answer number = .ok forest ∧ (judge forest).isSome = true) ∧
        ∀ earlier < number, ∀ error, ¬ procedure.LosesAt earlier error := by
  have brings (number : Nat) :
      (∃ value, (look procedure.backend procedure.app judge (procedure.turn number)).1 =
        .ok (some value)) ↔
      ∃ forest, procedure.answer number = .ok forest ∧ (judge forest).isSome = true := by
    simp only [Polling.look_eq_some_iff, Option.isSome_iff_exists]
    constructor
    · intro brought
      obtain ⟨value, forest, same, judged⟩ := brought
      exact ⟨forest, same, value, judged⟩
    · intro shown
      obtain ⟨forest, same, value, judged⟩ := shown
      exact ⟨value, forest, same, judged⟩
  rw [(procedure.ending_watch judge).brings_iff]
  simp only [brings, ne_eq, Polling.look_eq_error_iff judge]
  rfl

theorem waitUntilGone_eq_watch (locator : Locator) :
    procedure.waitUntilGone locator =
      let (result, after) := procedure.watch (absence locator)
      (Polling.toldGone locator (Polling.elapsed procedure.scene after) result,
        procedure.on after) := by
  rw [waitUntilGone, Polling.waitUntilGone_eq_look]
  rfl

theorem waitForAny_eq_watch (locator : Locator) :
    procedure.waitForAny locator [] =
      let (result, after) := procedure.watch (sight locator)
      (Polling.told locator (Polling.elapsed procedure.scene after) result,
        procedure.on after) := by
  rw [waitForAny, Polling.waitForAny_eq_look]
  rfl

theorem waitUntilGone_ok_iff (locator : Locator) :
    (∃ ended, procedure.waitUntilGone locator = (.ok (), ended)) ↔
      ∃ number < procedure.patience.rounds,
        (∃ forest, procedure.answer number = .ok forest ∧ forest.locate? locator = none) ∧
        ∀ earlier < number, ∀ error, ¬ procedure.LosesAt earlier error := by
  have succeeds : (∃ ended, procedure.waitUntilGone locator = (.ok (), ended)) ↔
      ∃ value, (procedure.watch (absence locator)).1 = .ok (some value) := by
    rw [waitUntilGone_eq_watch]
    rcases procedure.watch (absence locator) with ⟨_ | _ | _, after⟩ <;> simp [Polling.toldGone]
  rw [succeeds, watch_brings_iff]
  simp [absence]

theorem waitForAny_ok_iff (locator : Locator) :
    (∃ found ended, procedure.waitForAny locator [] = (.ok found, ended)) ↔
      ∃ number < procedure.patience.rounds,
        (∃ forest, procedure.answer number = .ok forest ∧
          (forest.locate? locator).isSome = true) ∧
        ∀ earlier < number, ∀ error, ¬ procedure.LosesAt earlier error := by
  have succeeds : (∃ found ended, procedure.waitForAny locator [] = (.ok found, ended)) ↔
      ∃ value, (procedure.watch (sight locator)).1 = .ok (some value) := by
    rw [waitForAny_eq_watch]
    rcases procedure.watch (sight locator) with ⟨_ | _ | _, after⟩ <;> simp [Polling.told]
  rw [succeeds, watch_brings_iff]
  simp [sight]

/-- A wait that brings a widget ends with the first dump that has it. -/
theorem waitForAny_ends {locator : Locator} {found : Locator × Node} {ended : Procedure σ}
    (worked : procedure.waitForAny locator [] = (.ok found, ended)) :
    ∃ number < procedure.patience.rounds, ended = procedure.answered number ∧
      (∃ forest, procedure.answer number = .ok forest ∧
        (forest.locate? locator).isSome = true) ∧
      ∀ earlier < number, ∀ forest, procedure.answer earlier = .ok forest →
        forest.locate? locator = none := by
  have ending := procedure.ending_watch (sight locator)
  rw [waitForAny_eq_watch] at worked
  generalize procedure.watch (sight locator) = outcome at ending worked
  cases ending with
  | vain idle => cases worked
  | @decided number within before decides =>
      cases looked : (look procedure.backend procedure.app (sight locator)
          (procedure.turn number)).1 with
      | error error => simp [looked, Polling.told] at worked
      | ok brought =>
          cases brought with
          | none => exact absurd looked decides
          | some value =>
              obtain ⟨forest, same, seen⟩ := Polling.look_eq_some_iff.mp looked
              refine ⟨number, within, ?_, ⟨forest, same, ?_⟩, ?_⟩
              · exact (Prod.mk.inj worked).2.symm
              · exact Option.isSome_map.symm.trans (by rw [← Polling.sight, seen]; rfl)
              · intro earlier less other shown
                have idle := (Polling.look_eq_none_iff.mp (before earlier less)).1 other shown
                exact Option.map_eq_none_iff.mp idle

/-- Before one and the same tree a wait is settled by that tree. -/
theorem settled_of_same {forest : Forest}
    (same : ∀ number < procedure.patience.rounds, procedure.answer number = .ok forest)
    (wanted : Forest → Prop) :
    (∃ number < procedure.patience.rounds,
      (∃ shown, procedure.answer number = .ok shown ∧ wanted shown) ∧
      ∀ earlier < number, ∀ error, ¬ procedure.LosesAt earlier error) ↔ wanted forest := by
  constructor
  · intro settled
    obtain ⟨number, within, ⟨shown, answered, meets⟩, -⟩ := settled
    cases (same number within).symm.trans answered
    exact meets
  · intro meets
    have first := Polling.rounds_pos procedure.patience
    exact ⟨0, first, ⟨forest, same 0 first, meets⟩, nofun⟩

/-- A wait for a widget to be gone succeeds exactly when one of its turns has a dump without it and
none before that tells that the backend is gone. The first turn of either kind is its last one;
without any it goes through all its turns and fails as if the widget had been there throughout.
Before one and the same tree it succeeds exactly when a wait for the widget to show fails. -/
theorem waitUntilGone_by_turns (locator : Locator) :
    let turns := max 1 procedure.patience.attempts
    let lacks (number : Nat) :=
      ∃ forest, procedure.answer number = .ok forest ∧ forest.locate? locator = none
    let idle (number : Nat) := ¬ lacks number ∧ ∀ error, ¬ procedure.LosesAt number error
    let outgo := procedure.waitUntilGone locator
    let last := procedure.answered (turns - 1)
    let waited := (Polling.elapsed procedure.scene last.scene).milliseconds
    ((∃ ended, outgo = (.ok (), ended)) ↔
      ∃ number < turns, lacks number ∧
        ∀ earlier < number, ∀ error, ¬ procedure.LosesAt earlier error) ∧
    (∀ number < turns, (∀ earlier < number, idle earlier) →
      (lacks number → outgo = (.ok (), procedure.answered number)) ∧
      ∀ error, procedure.LosesAt number error →
        outgo = (.error (.backend error), procedure.answered number)) ∧
    ((∀ number < turns, idle number) →
      outgo =
        (.error (.assertionFailed s!"{locator.label} still present after {waited}ms"), last)) ∧
    ∀ forest, (∀ number < turns, procedure.answer number = .ok forest) →
      ((∃ found ended, procedure.waitForAny locator [] = (.ok found, ended)) ↔
        ¬ ∃ ended, outgo = (.ok (), ended)) := by
  intro turns lacks idle outgo last waited
  have ending := procedure.ending_watch (absence locator)
  have told : outgo = _ := procedure.waitUntilGone_eq_watch locator
  have succeeds := procedure.waitUntilGone_ok_iff locator
  have quiet {number : Nat} (undecided : idle number) :
      (look procedure.backend procedure.app (absence locator) (procedure.turn number)).1 =
        .ok none := by
    refine Polling.look_eq_none_iff.mpr ⟨?_, undecided.2⟩
    intro forest same
    have there : forest.locate? locator ≠ none := fun gone => undecided.1 ⟨forest, same, gone⟩
    simpa [absence] using there
  refine ⟨succeeds, ?_, ?_, ?_⟩
  · intro number within before
    constructor
    · intro gone
      obtain ⟨forest, same, gone⟩ := gone
      have judged : absence locator forest = some () := by simp [absence, gone]
      have brought := Polling.look_eq_some_iff.mpr ⟨forest, same, judged⟩
      have ended := ending.eq_of_first within (fun earlier less => quiet (before earlier less))
        (by rw [brought]; nofun)
      rw [told, ended]
      dsimp only
      rw [brought]
      rfl
    · intro error lost
      have failed := (Polling.look_eq_error_iff (absence locator)).mpr lost
      have ended := ending.eq_of_first within (fun earlier less => quiet (before earlier less))
        (by rw [failed]; nofun)
      rw [told, ended]
      dsimp only
      rw [failed]
      rfl
  · intro undecided
    have ended := ending.eq_of_idle fun number within => quiet (undecided number within)
    rw [told, ended]
    rfl
  · intro forest same
    rw [succeeds, waitForAny_ok_iff, procedure.settled_of_same same fun shown =>
      (shown.locate? locator).isSome = true, procedure.settled_of_same same fun shown =>
      shown.locate? locator = none]
    cases forest.locate? locator <;> simp

end Procedure

end Rehearsal
