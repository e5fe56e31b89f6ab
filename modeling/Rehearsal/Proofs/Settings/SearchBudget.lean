import Rehearsal.Proofs.Launch.Overrun
import Rehearsal.Proofs.Procedure.Waiting
import Rehearsal.Proofs.Text.Natural
import Rehearsal.Settings.Source
/-!
# The time that a search is given

A variable of the environment gives a search its time, which is spread over lookups with a pause
between two of them. What a search in vain then sleeps is that time to within one pause, unless
there is no pause at all: then it sleeps nothing, however long it was to take.
-/

set_option autoImplicit false

namespace Rehearsal

namespace Settings

/-! ## Lookups for a time -/

theorem le_roundedUp_mul (total : Nat) {pause : Nat} (positive : 0 < pause) :
    total ≤ roundedUp total pause * pause := by
  have rest := Nat.lt_mul_div_succ (total + (pause - 1)) positive
  rw [Nat.mul_comm, Nat.add_mul] at rest
  unfold roundedUp
  omega

theorem roundedUp_mul_lt (total : Nat) {pause : Nat} (positive : 0 < pause) :
    roundedUp total pause * pause < total + pause := by
  have whole := Nat.div_mul_le_self (total + (pause - 1)) pause
  unfold roundedUp
  omega

theorem attemptsFor_eq_min {timeout : Nat} (word : timeout < Text.bound64) (backoff : Nat) :
    attemptsFor (.ofMilliseconds timeout) backoff =
      min (max 1 (roundedUp timeout (max 1 backoff))) (Text.bound32 - 1) := by
  have whole : (Elapsed.ofMilliseconds timeout).milliseconds = timeout :=
    Nat.mul_div_cancel timeout (by decide)
  rw [attemptsFor, whole, Nat.mod_eq_of_lt word]

theorem attemptsFor_ofMilliseconds {timeout backoff : Nat} (word : timeout < Text.bound64)
    (fits : roundedUp timeout (max 1 backoff) < Text.bound32) :
    attemptsFor (.ofMilliseconds timeout) backoff = max 1 (roundedUp timeout (max 1 backoff)) := by
  have one : 1 < Text.bound32 := by decide
  rw [attemptsFor_eq_min word]
  omega

/-- What is slept between the lookups for a time. -/
def sleepFor (timeout backoff : Nat) : Nat :=
  (max 1 (roundedUp timeout (max 1 backoff)) - 1) * backoff

/-- The pauses fill the time to within one pause, unless there is none. -/
theorem sleepFor_within_iff (timeout backoff : Nat) :
    (timeout ≤ sleepFor timeout backoff + max 1 backoff ∧ sleepFor timeout backoff ≤ timeout) ↔
      0 < backoff ∨ timeout ≤ 1 := by
  rcases Nat.eq_zero_or_pos backoff with rfl | positive
  · simp [sleepFor]
  · have enough := le_roundedUp_mul timeout positive
    have tight := roundedUp_mul_lt timeout positive
    have pause : max 1 backoff = backoff := Nat.max_eq_right positive
    simp only [sleepFor, pause, positive, true_or, iff_true]
    rcases Nat.eq_zero_or_pos (roundedUp timeout backoff) with none | some
    · simp only [none, Nat.zero_mul] at enough ⊢
      simp only [Nat.max_eq_left (Nat.zero_le 1), Nat.sub_self, Nat.zero_mul]
      omega
    · rw [Nat.max_eq_right some, Nat.sub_mul, Nat.one_mul]
      omega

/-! ## The environment -/

theorem milliseconds_eq_ok_iff {name value : String} {count : Nat} :
    milliseconds name value = .ok count ↔ Text.Denotes value count ∧ count < Text.bound64 := by
  rw [← Text.readNatural?_trim_eq_some_iff, milliseconds]
  cases Text.readNatural? Text.bound64 (Text.trim value).toList with
  | none => simp
  | some found => simp

theorem milliseconds_lt {name value : String} {count : Nat}
    (read : milliseconds name value = .ok count) : count < Text.bound64 :=
  (milliseconds_eq_ok_iff.mp read).2

/-- What is done after a value has been had is done with that value. -/
theorem bind_eq_ok_iff {ε α β : Type} {first : Except ε α} {next : α → Except ε β} {result : β} :
    first.bind next = .ok result ↔ ∃ value, first = .ok value ∧ next value = .ok result := by
  cases first with
  | error fault => simp [Except.bind]
  | ok value => simp [Except.bind]

theorem searchBackoff_setSearchTimeout (settings : Settings) (total : Elapsed) :
    (settings.setSearchTimeout total).searchBackoff = settings.searchBackoff := by
  -- Said of any number of attempts, so that nobody tries to compute the one that is set.
  have kept (attempts : Nat) :
      { settings with searchAttempts := attempts }.searchBackoff = settings.searchBackoff := rfl
  exact kept _

/-- No variable changes the pause between lookups. -/
theorem searchBackoff_override {settings changed : Settings} {name value : String}
    (applied : settings.override name value = .ok changed) :
    changed.searchBackoff = settings.searchBackoff := by
  have either {present : Prop} [Decidable present] {other : Settings}
      (same : (if present then settings else other) = changed)
      (kept : other.searchBackoff = settings.searchBackoff) :
      changed.searchBackoff = settings.searchBackoff := by
    subst same
    split
    · rfl
    · exact kept
  unfold override at applied
  split at applied
  · exact either (Except.ok.inj applied) rfl
  · exact either (Except.ok.inj applied) rfl
  · split at applied
    · cases applied
      rfl
    · cases applied
  · exact either (Except.ok.inj applied) rfl
  · obtain ⟨count, -, set⟩ := bind_eq_ok_iff.mp applied
    cases set
    rfl
  · obtain ⟨count, -, set⟩ := bind_eq_ok_iff.mp applied
    rw [← Except.ok.inj set]
    exact searchBackoff_setSearchTimeout settings _
  · cases applied
    rfl

theorem searchBackoff_applyNamed (environment : Variables) (names : List String)
    (settings : Settings) :
    (applyNamed environment names settings).2.searchBackoff = settings.searchBackoff := by
  induction names generalizing settings with
  | nil => rfl
  | cons name rest ih =>
      rw [applyNamed]
      cases environment.lookup name with
      | none => exact ih settings
      | some value =>
          cases applied : settings.override name value with
          | error fault => simp only [applied]
          | ok changed =>
              simp only [applied]
              exact (ih changed).trans (searchBackoff_override applied)

theorem applyNamed_append (environment : Variables) (first second : List String)
    (settings : Settings) :
    applyNamed environment (first ++ second) settings =
      match applyNamed environment first settings with
      | (none, changed) => applyNamed environment second changed
      | faulty => faulty := by
  induction first generalizing settings with
  | nil => rfl
  | cons name first ih =>
      rw [List.cons_append, applyNamed, applyNamed]
      cases environment.lookup name with
      | none => exact ih settings
      | some value =>
          cases applied : settings.override name value with
          | error fault => simp only [applied]
          | ok changed =>
              simp only [applied]
              exact ih changed

/-- The time of a search is spread over the pause that is set; it is applied last. -/
theorem patience_of_applied {environment : Variables} {settings changed : Settings}
    {value : String} {timeout : Nat}
    (applied : applyVariables environment settings = (none, changed))
    (given : environment.lookup "DOCPROBE_SEARCH_TIMEOUT_MS" = some value)
    (read : milliseconds "DOCPROBE_SEARCH_TIMEOUT_MS" value = .ok timeout) :
    changed.patience =
      ⟨attemptsFor (.ofMilliseconds timeout) settings.searchBackoff, settings.searchBackoff⟩ := by
  have split : overridingVariables =
      ["srcdir", "DOCPROBE_APP", "DOCPROBE_BRIDGE", "DOCPROBE_DIAGNOSTICS_DIR",
        "DOCPROBE_LAUNCH_TIMEOUT_MS"] ++ ["DOCPROBE_SEARCH_TIMEOUT_MS"] := rfl
  rw [applyVariables, split, applyNamed_append] at applied
  have kept := searchBackoff_applyNamed environment
    ["srcdir", "DOCPROBE_APP", "DOCPROBE_BRIDGE", "DOCPROBE_DIAGNOSTICS_DIR",
      "DOCPROBE_LAUNCH_TIMEOUT_MS"] settings
  revert applied kept
  generalize applyNamed environment _ settings = before
  rcases before with ⟨_ | fault, before⟩
  · intro applied kept
    have last : before.override "DOCPROBE_SEARCH_TIMEOUT_MS" value =
        .ok (before.setSearchTimeout (.ofMilliseconds timeout)) := by
      simp only [override, read, bind, Except.bind, pure, Except.pure]
    simp only [applyNamed, given, last, Prod.mk.injEq, true_and] at applied
    subst applied
    simp only at kept
    rw [Settings.patience, setSearchTimeout, kept]
  · intro applied
    cases applied

end Settings

/-! ## A search in vain -/

variable {σ : Type}

/-- Whether a backend answers every dump at once from some states on, without being gone, and never
shows anything at some places. -/
def Backend.Withholds (backend : Backend σ) (app : String) (places : List Locator)
    (calm : σ → Prop) : Prop :=
  ∀ clock state, calm state →
    let reply := backend.dump app clock state
    reply.delay = 0 ∧ calm reply.after ∧
      match reply.answer with
      | .ok forest => ∀ place ∈ places, forest.locate? place = none
      | .error error => error.isFatal = false

namespace Polling

variable {backend : Backend σ} {app : String} {places : List Locator} {calm : σ → Prop}

theorem lookUp_of_withholds (withholds : backend.Withholds app places calm) {place : Locator}
    (sought : place ∈ places) {scene : Scene σ} (begun : calm scene.state) :
    ∃ after, calm after ∧ lookUp backend app [place] scene = (.ok none, ⟨after, scene.clock⟩) := by
  obtain ⟨prompt, kept, shown⟩ := withholds scene.clock scene.state begun
  refine ⟨_, kept, ?_⟩
  rw [lookUp, Backend.find, Scene.await, prompt]
  cases answer : (backend.dump app scene.clock scene.state).answer with
  | ok forest =>
      rw [answer] at shown
      simp only [shown place sought]
      rfl
  | error error =>
      rw [answer] at shown
      simp only [shown]
      rfl

/-- Moves that show nothing take the time of their pauses. -/
theorem follow_of_withholds (withholds : backend.Withholds app places calm) (backoff : Nat)
    {moves : List Move} (sought : ∀ place, Move.look place ∈ moves → place ∈ places)
    {scene : Scene σ} (begun : calm scene.state) :
    ∃ after, follow backend app backoff moves scene =
      (.ok none, ⟨after, scene.clock + moves.count .pause * backoff⟩) := by
  induction moves generalizing scene with
  | nil => exact ⟨scene.state, by simp [follow]⟩
  | cons move moves ih =>
      have later (place : Locator) (member : Move.look place ∈ moves) : place ∈ places :=
        sought place (List.mem_cons_of_mem _ member)
      cases move with
      | pause =>
          obtain ⟨after, ended⟩ := @ih later (scene.pause backoff) begun
          refine ⟨after, ?_⟩
          rw [follow, ended, List.count_cons_self, Scene.pause, Nat.succ_mul]
          simp only [Nat.add_assoc, Nat.add_comm backoff]
      | look place =>
          obtain ⟨next, kept, looked⟩ :=
            lookUp_of_withholds withholds (sought place List.mem_cons_self) begun
          obtain ⟨after, ended⟩ := @ih later ⟨next, scene.clock⟩ kept
          refine ⟨after, ?_⟩
          rw [follow, looked]
          simpa using ended

theorem mem_of_look_mem_plan {candidates : List Locator} {rounds : Nat} {place : Locator}
    (member : Move.look place ∈ plan candidates rounds) : place ∈ candidates := by
  have looks : Move.look place ∈ (plan candidates rounds).filter (· ≠ .pause) :=
    List.mem_filter.mpr ⟨member, rfl⟩
  rw [filter_look_plan] at looks
  obtain ⟨other, inside, same⟩ := List.mem_map.mp looks
  cases same
  obtain ⟨copy, one, there⟩ := List.mem_flatten.mp inside
  rwa [(List.mem_replicate.mp one).2] at there

end Polling

/-- A wait for what a backend never shows is given up when all pauses have been made. -/
theorem Procedure.waitFor_of_withholds {procedure : Procedure σ} {selector : Selector}
    {calm : σ → Prop}
    (withholds : procedure.backend.Withholds procedure.app (procedure.focus.candidates selector)
      calm) (begun : calm procedure.scene.state) :
    let slept := (procedure.patience.rounds - 1) * procedure.patience.backoff
    ∃ state, procedure.waitFor selector =
      (.error (.widgetNotFound (procedure.focus.locator selector).label (.ofMilliseconds slept)),
        procedure.on ⟨state, procedure.scene.clock + slept⟩) := by
  have sought (place : Locator)
      (member : .look place ∈
        Polling.plan (procedure.focus.candidates selector) procedure.patience.rounds) :
      place ∈ procedure.focus.candidates selector :=
    Polling.mem_of_look_mem_plan member
  obtain ⟨state, ended⟩ := Polling.follow_of_withholds withholds procedure.patience.backoff sought
    begun
  refine ⟨state, ?_⟩
  rw [waitFor, waitForAny, Polling.waitForAny_eq_follow, Focus.locator_cons_fallbacks, ended,
    Polling.count_pause_plan]
  simp [Polling.told, Polling.elapsed]

/-- A search that the environment gives a time, and whose lookups fit 32 bits, is given up in vain
after it has slept that time to within one pause, except that without a pause it sleeps nothing:
then it is given up at once, and misses its time by more than a millisecond unless that is no more
than one. -/
theorem Procedure.search_sleeps_its_time {environment : Variables} {settings changed : Settings}
    {value : String} {timeout : Nat}
    (applied : Settings.applyVariables environment settings = (none, changed))
    (given : environment.lookup "DOCPROBE_SEARCH_TIMEOUT_MS" = some value)
    (read : Settings.milliseconds "DOCPROBE_SEARCH_TIMEOUT_MS" value = .ok timeout)
    (fits : Settings.roundedUp timeout (max 1 settings.searchBackoff) < Text.bound32)
    {procedure : Procedure σ} (built : procedure.patience = changed.patience)
    {selector : Selector} {calm : σ → Prop}
    (withholds : procedure.backend.Withholds procedure.app (procedure.focus.candidates selector)
      calm) (begun : calm procedure.scene.state) :
    let pause := settings.searchBackoff
    let slept := Settings.sleepFor timeout pause
    (∃ state, procedure.waitFor selector =
      (.error (.widgetNotFound (procedure.focus.locator selector).label (.ofMilliseconds slept)),
        procedure.on ⟨state, procedure.scene.clock + slept⟩)) ∧
    (timeout ≤ slept + max 1 pause ∧ slept ≤ timeout ↔ 0 < pause ∨ timeout ≤ 1) ∧
    (pause = 0 → slept = 0) := by
  intro pause slept
  have patient := Settings.patience_of_applied applied given read
  have attempts := Settings.attemptsFor_ofMilliseconds (Settings.milliseconds_lt read) fits
  have rounds : procedure.patience.rounds = max 1 (Settings.roundedUp timeout (max 1 pause)) := by
    rw [Patience.rounds, built, patient, attempts]
    exact Nat.max_eq_right (Nat.le_max_left _ _)
  have backoff : procedure.patience.backoff = pause := by rw [built, patient]
  refine ⟨?_, Settings.sleepFor_within_iff timeout pause, ?_⟩
  · have ended := waitFor_of_withholds withholds begun
    rwa [rounds, backoff] at ended
  · intro none
    simp only [slept, none, Settings.sleepFor, Nat.mul_zero]

/-- Twenty milliseconds without a pause between lookups are not waited for at all. -/
theorem Procedure.search_sleeps_its_time_unpaused :
    let settings := { Settings.default with searchBackoff := 0 }
    let changed := { settings with searchAttempts := 20 }
    let marks : Marks := ⟨fun _ => ⟨[]⟩, fun _ => .epoch⟩
    let procedure :=
      Procedure.start MainWindow.emptyBackend "viewer" changed.patience marks ⟨(), 0⟩
    Settings.applyVariables [("DOCPROBE_SEARCH_TIMEOUT_MS", "20")] settings = (none, changed) ∧
      (∃ state, procedure.waitFor (.named "File") =
        (.error (.widgetNotFound "'File'" (.ofMilliseconds 0)), procedure.on ⟨state, 0⟩)) ∧
      ¬ 20 ≤ 0 + max 1 settings.searchBackoff := by
  intro settings changed marks procedure
  have applied : Settings.applyVariables [("DOCPROBE_SEARCH_TIMEOUT_MS", "20")] settings =
      (none, changed) := by decide +kernel
  have withholds : procedure.backend.Withholds procedure.app
      (procedure.focus.candidates (.named "File")) fun _ => True :=
    fun _ _ _ => ⟨rfl, trivial, fun place _ => by
      obtain ⟨window, selector⟩ := place
      cases window <;> rfl⟩
  have number : Text.readNatural? Text.bound64 (Text.trim "20").toList = some 20 := by
    decide +kernel
  have read : Settings.milliseconds "DOCPROBE_SEARCH_TIMEOUT_MS" "20" = .ok 20 := by
    rw [Settings.milliseconds, number]
  obtain ⟨ended, -, -⟩ := search_sleeps_its_time applied rfl read (by decide) rfl withholds trivial
  exact ⟨applied, ended, by decide⟩

end Rehearsal
