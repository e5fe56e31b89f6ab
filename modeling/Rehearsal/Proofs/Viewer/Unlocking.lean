import Mathlib.Data.List.DropRight
import Rehearsal.Backend.Viewer
/-!
# How an encrypted document is unlocked

A viewer that does not take any password is unlocked by its history: by a click on the button in a
dialog at which exactly the password has been typed since the button was clicked before, wherever
that was. Nothing else unlocks it, every other such click counts as a failure, and nothing locks it
again.
-/

set_option autoImplicit false

namespace Rehearsal

def unlockButton : Selector := .of "Unlock Document" Role.pushButton

namespace Input

/-- Whether an input clicks the button to unlock, in whatever window. -/
def clicksUnlock : Input → Bool
  | .click target => target.selector = unlockButton
  | _ => false

/-- Whether an input clicks the button to unlock in a dialog. -/
def triesPassword : Input → Bool
  | .click target => target.selector = unlockButton && Viewer.isInDialog target
  | _ => false

def typed : Input → String
  | .typeText text => text
  | _ => ""

end Input

/-- What has been typed since the button to unlock was clicked. -/
def typedSince (done : List Input) : String :=
  String.join ((done.rtakeWhile fun input => !input.clicksUnlock).map Input.typed)

/-- The passwords that are tried by inputs, after others. -/
def guesses (before : List Input) : List Input → List String
  | [] => []
  | input :: later =>
    if input.triesPassword then typedSince before :: guesses (before ++ [input]) later
    else guesses (before ++ [input]) later

theorem mem_guesses_iff {password : String} {before done : List Input} :
    password ∈ guesses before done ↔ ∃ first input rest, done = first ++ input :: rest ∧
      input.triesPassword = true ∧ typedSince (before ++ first) = password := by
  induction done generalizing before with
  | nil => simp [guesses]
  | cons next done ih =>
      have split : (∃ first input rest, next :: done = first ++ input :: rest ∧
            input.triesPassword = true ∧ typedSince (before ++ first) = password) ↔
          next.triesPassword = true ∧ typedSince before = password ∨
            password ∈ guesses (before ++ [next]) done := by
        rw [ih]
        constructor
        · rintro ⟨_ | ⟨_, first⟩, input, rest, same, tries, typed⟩ <;> cases same
          · exact .inl ⟨tries, by simpa using typed⟩
          · exact .inr ⟨first, input, rest, rfl, tries, by simpa using typed⟩
        · rintro (⟨tries, typed⟩ | ⟨first, input, rest, rfl, tries, typed⟩)
          · exact ⟨[], next, done, rfl, tries, by simpa using typed⟩
          · exact ⟨next :: first, input, rest, rfl, tries, by simpa using typed⟩
      rw [split, guesses]
      cases next.triesPassword <;> simp [eq_comm]

theorem guesses_append (before done more : List Input) :
    guesses before (done ++ more) = guesses before done ++ guesses (before ++ done) more := by
  induction done generalizing before with
  | nil => simp [guesses]
  | cons next done ih =>
      rw [List.cons_append, guesses, guesses, ih]
      cases next.triesPassword <;> simp

theorem guesses_concat (before done : List Input) (input : Input) :
    guesses before (done ++ [input]) =
      guesses before done ++ if input.triesPassword then [typedSince (before ++ done)] else [] := by
  simp [guesses_append, guesses]

theorem typedSince_concat (done : List Input) (input : Input) :
    typedSince (done ++ [input]) =
      if input.clicksUnlock then "" else typedSince done ++ input.typed := by
  rw [typedSince, List.rtakeWhile_concat]
  cases input.clicksUnlock <;> simp [typedSince]

theorem Input.triesPassword_of_not_clicksUnlock {input : Input}
    (other : input.clicksUnlock = false) : input.triesPassword = false := by
  cases input with
  | click target => simp_all [clicksUnlock, triesPassword]
  | _ => rfl

theorem Input.triesPassword_iff {input : Input} :
    input.triesPassword = true ↔
      ∃ window : Window, window.kind = .dialog ∧ input = .click (.within window unlockButton) := by
  cases input with
  | click target =>
      obtain ⟨_ | window, selector⟩ := target
      · simp [triesPassword, Viewer.isInDialog, Locator.within]
      · simp only [triesPassword, Viewer.isInDialog, Bool.and_eq_true, decide_eq_true_eq,
          beq_iff_eq]
        constructor
        · rintro ⟨rfl, dialog⟩
          exact ⟨window, dialog, rfl⟩
        · rintro ⟨_, dialog, ⟨⟩⟩
          exact ⟨rfl, dialog⟩
  | _ => simp [triesPassword]

namespace Viewer

variable {habits : Habits} {viewer after : Viewer} {input : Input}

/-- The inputs that a viewer carries out of those that it is given, and the viewer after them. -/
def serve (habits : Habits) (viewer : Viewer) : List Input → List Input × Viewer
  | [] => ([], viewer)
  | input :: later =>
    match viewer.perform habits input with
    | (.ok (), after) => (input :: (after.serve habits later).1, (after.serve habits later).2)
    | (.error _, after) => after.serve habits later

theorem serve_append (first later : List Input) :
    viewer.serve habits (first ++ later) =
      ((viewer.serve habits first).1 ++ ((viewer.serve habits first).2.serve habits later).1,
        ((viewer.serve habits first).2.serve habits later).2) := by
  induction first generalizing viewer with
  | nil => rfl
  | cons input first ih =>
      rw [List.cons_append, serve, serve]
      rcases viewer.perform habits input with ⟨_ | _, after⟩ <;> simp [ih]

theorem perform_cases (habits : Habits) (viewer : Viewer) (input : Input) :
    viewer.perform habits input = (.ok (), viewer.take habits input) ∨
      ∃ error, viewer.perform habits input = (.error error, viewer) := by
  rw [perform]
  cases input.target? with
  | none => exact .inl rfl
  | some target =>
      dsimp only
      split
      · exact .inl rfl
      · exact .inr ⟨_, rfl⟩

/-! ## Commands -/

theorem mem_of_lookup {name : String} {command : Command} {table : List (String × Command)}
    (found : table.lookup name = some command) : (name, command) ∈ table := by
  obtain ⟨first, rest, rfl, -⟩ := List.lookup_eq_some_iff.mp found
  exact List.mem_append_right _ List.mem_cons_self

/-- A command belongs to a role, and within it to a name. -/
theorem of_command? {selector : Selector} {command : Command}
    (known : command? selector = some command) :
    (selector.role = some Role.menuItem ∧ (selector.name, command) ∈ menuCommands) ∨
      (selector.role = some Role.tableCell ∧ command = .select selector.name) ∨
      (selector.role = some Role.pushButton ∧ (selector.name, command) ∈ buttonCommands) ∨
      (selector.role = some Role.toggleButton ∧ command = .toggleLicense) := by
  obtain ⟨name, _ | role⟩ := selector
  · cases known
  · dsimp only [command?] at known
    split at known
    · next item => exact .inl ⟨congrArg some item, mem_of_lookup known⟩
    · split at known
      · next cell => exact .inr (.inl ⟨congrArg some cell, (Option.some.inj known).symm⟩)
      · split at known
        · next button => exact .inr (.inr (.inl ⟨congrArg some button, mem_of_lookup known⟩))
        · split at known
          · next toggle =>
              have button : role = Role.toggleButton := by simp_all
              exact .inr (.inr (.inr ⟨congrArg some button, (Option.some.inj known).symm⟩))
          · cases known

theorem command?_eq_unlock_iff (selector : Selector) :
    command? selector = some .unlock ↔ selector = unlockButton := by
  constructor
  · intro unlocks
    obtain ⟨name, role⟩ := selector
    rcases of_command? unlocks with ⟨_, listed⟩ | ⟨_, ⟨⟩⟩ | ⟨rfl, listed⟩ | ⟨_, ⟨⟩⟩
    · simp [menuCommands] at listed
    · have named : name = "Unlock Document" := by simpa [buttonCommands] using listed
      rw [named]
      rfl
  · rintro rfl
    rfl

/-- Whether a viewer holds of its lock, and of what has been typed, what another does. -/
def KeepsLock (viewer after : Viewer) : Prop :=
  after.typed = viewer.typed ∧ after.locked = viewer.locked ∧
    after.failedUnlocks = viewer.failedUnlocks

theorem KeepsLock.refl (viewer : Viewer) : viewer.KeepsLock viewer := ⟨rfl, rfl, rfl⟩

theorem keepsLock_obey {command : Command} (other : command ≠ .unlock) (habits : Habits)
    (inDialog : Bool) (viewer : Viewer) :
    viewer.KeepsLock (viewer.obey habits inDialog command) := by
  cases command with
  | unlock => exact absurd rfl other
  | showDialog title =>
      rw [obey, showDialog]
      split <;> exact .refl viewer
  | showAbout =>
      rw [obey, showDialog]
      split <;> exact .refl viewer
  | closeTop =>
      rw [obey]
      split <;> exact .refl viewer
  | _ => exact .refl viewer

theorem keepsLock_take (other : input.clicksUnlock = false) (silent : input.typed = "")
    (habits : Habits) (viewer : Viewer) : viewer.KeepsLock (viewer.take habits input) := by
  cases input with
  | click target =>
      rw [take, click]
      cases known : command? target.selector with
      | none => exact .refl viewer
      | some command =>
          refine keepsLock_obey ?_ habits (isInDialog target) { viewer with clicks := _ }
          rintro rfl
          simp [Input.clicksUnlock, (command?_eq_unlock_iff _).mp known] at other
  | activate target =>
      rw [take, activate]
      split <;> exact .refl viewer
  | setText target text =>
      rw [take, setText]
      split <;> exact .refl viewer
  | typeText text =>
      cases silent
      exact ⟨String.append_empty, rfl, rfl⟩
  | keyCombo combo =>
      rw [take, press]
      split
      · split <;> exact .refl viewer
      · exact .refl viewer

theorem click_unlock {target : Locator} (clicks : target.selector = unlockButton) (habits : Habits)
    (viewer : Viewer) :
    viewer.click habits target =
      { viewer with clicks := viewer.clicks ++ [target.selector.name] }.unlock habits
        (isInDialog target) := by
  rw [click, (command?_eq_unlock_iff _).mpr clicks]
  rfl

/-! ## The history of a viewer -/

/-- Whether a viewer is as its history says: what it holds as typed, its lock and its failures. -/
structure Tallies (viewer : Viewer) (done : List Input) : Prop where
  typed : viewer.typed = typedSince done
  locked : viewer.locked = false ↔ Document.password ∈ guesses [] done
  failed : viewer.failedUnlocks = (guesses [] done).countP (· ≠ Document.password)

theorem tallies_launched (app : String) : (launched app (some Document.encrypted)).Tallies [] where
  typed := rfl
  locked := by simp [launched, guesses]
  failed := rfl

namespace Tallies

variable {done : List Input}

theorem of_others (tallies : viewer.Tallies done) (other : input.clicksUnlock = false)
    (typed : after.typed = viewer.typed ++ input.typed) (locked : after.locked = viewer.locked)
    (failed : after.failedUnlocks = viewer.failedUnlocks) : after.Tallies (done ++ [input]) := by
  have same : guesses [] (done ++ [input]) = guesses [] done := by
    rw [guesses_concat, Input.triesPassword_of_not_clicksUnlock other]
    simp
  constructor
  · rw [typed, typedSince_concat, other, tallies.typed]
    rfl
  · rw [locked, same, tallies.locked]
  · rw [failed, same, tallies.failed]

theorem click (strict : habits.acceptsAnyPassword = false) (tallies : viewer.Tallies done)
    {target : Locator} (clicks : target.selector = unlockButton) :
    (viewer.click habits target).Tallies (done ++ [.click target]) := by
  have tried : guesses [] (done ++ [.click target]) =
      guesses [] done ++ if isInDialog target then [viewer.typed] else [] := by
    simp [guesses_concat, Input.triesPassword, clicks, tallies.typed]
  have forgotten : typedSince (done ++ [.click target]) = "" := by
    simp [typedSince_concat, Input.clicksUnlock, clicks]
  rw [click_unlock clicks, Viewer.unlock]
  cases inDialog : isInDialog target with
  | false =>
      simp only [inDialog, Bool.false_eq_true, if_false, List.append_nil] at tried ⊢
      exact ⟨forgotten.symm, by rw [tried]; exact tallies.locked,
        by rw [tried]; exact tallies.failed⟩
  | true =>
      simp only [inDialog, if_true] at tried ⊢
      rw [tryPassword, strict, Bool.false_or]
      by_cases right : viewer.typed = Document.password
      · simp only [right, decide_true, if_true]
        refine ⟨forgotten.symm, by simp [tried, right], ?_⟩
        simpa [tried, right] using tallies.failed
      · simp only [right, decide_false, Bool.false_eq_true, if_false]
        refine ⟨forgotten.symm, ?_, ?_⟩
        · simpa [tried, Ne.symm right] using tallies.locked
        · simpa [tried, right] using tallies.failed

theorem take (strict : habits.acceptsAnyPassword = false) (tallies : viewer.Tallies done)
    (input : Input) : (viewer.take habits input).Tallies (done ++ [input]) := by
  -- Only typing and the button to unlock are left when the others, which keep the lock, are not.
  by_cases silent : input.clicksUnlock = false ∧ input.typed = ""
  · obtain ⟨other, nothing⟩ := silent
    obtain ⟨typed, locked, failed⟩ := keepsLock_take other nothing habits viewer
    exact tallies.of_others other (by rw [typed, nothing, String.append_empty]) locked failed
  · cases input with
    | click target =>
        refine tallies.click strict ?_
        simpa [Input.clicksUnlock, Input.typed] using silent
    | typeText text => exact tallies.of_others rfl rfl rfl rfl
    | activate => exact absurd ⟨rfl, rfl⟩ silent
    | setText => exact absurd ⟨rfl, rfl⟩ silent
    | keyCombo => exact absurd ⟨rfl, rfl⟩ silent

theorem serve (strict : habits.acceptsAnyPassword = false) (tallies : viewer.Tallies done)
    (inputs : List Input) :
    (viewer.serve habits inputs).2.Tallies (done ++ (viewer.serve habits inputs).1) := by
  induction inputs generalizing viewer done with
  | nil => simpa [Viewer.serve] using tallies
  | cons input later ih =>
      rw [Viewer.serve]
      rcases viewer.perform_cases habits input with carried | ⟨error, refused⟩
      · rw [carried]
        simpa using ih (tallies.take strict input)
      · rw [refused]
        exact ih tallies

end Tallies

/-- A viewer that was launched with the encrypted document is unlocked exactly when it has carried
out a click on the button in a dialog at which the password, and nothing else, had been typed since
the click on the button before. The other such clicks are its failures, and it stays unlocked. -/
theorem unlocked_iff_tried {habits : Habits} (strict : habits.acceptsAnyPassword = false)
    (app : String) (inputs : List Input) :
    let start := launched app (some Document.encrypted)
    let done := (start.serve habits inputs).1
    let viewer := (start.serve habits inputs).2
    (viewer.locked = false ↔ ∃ before window after,
      done = before ++ .click (.within window unlockButton) :: after ∧ window.kind = .dialog ∧
        typedSince before = "Foo") ∧
    viewer.failedUnlocks = (guesses [] done).countP (· ≠ "Foo") ∧
    (viewer.locked = false → ∀ more, (start.serve habits (inputs ++ more)).2.locked = false) := by
  intro start done viewer
  have tallies : viewer.Tallies done := (tallies_launched app).serve strict inputs
  refine ⟨?_, tallies.failed, ?_⟩
  · rw [tallies.locked, mem_guesses_iff]
    constructor
    · rintro ⟨before, input, after, same, tries, typed⟩
      obtain ⟨window, dialog, rfl⟩ := input.triesPassword_iff.mp tries
      exact ⟨before, window, after, same, dialog, typed⟩
    · rintro ⟨before, window, after, same, dialog, typed⟩
      exact ⟨before, _, after, same, Input.triesPassword_iff.mpr ⟨window, dialog, rfl⟩, typed⟩
  · intro unlocked more
    have later := (tallies_launched app).serve strict (inputs ++ more)
    rw [later.locked, serve_append, List.nil_append, guesses_append]
    exact List.mem_append_left _ (tallies.locked.mp unlocked)

def secondTry : List Input :=
  let tryIt : Input := .click (.within (.dialog "Enter password") unlockButton)
  [.typeText "foo", tryIt, .typeText "F", .typeText "oo", tryIt]

theorem unlocked_iff_tried_second :
    Habits.good.acceptsAnyPassword = false ∧
    let served := (launched "viewer" (some Document.encrypted)).serve .good secondTry
    served.2.failedUnlocks = 1 ∧ ∃ before window after,
      served.1 = before ++ .click (.within window unlockButton) :: after ∧
        window.kind = .dialog ∧ typedSince before = "Foo" := by
  have strict : Habits.good.acceptsAnyPassword = false := rfl
  obtain ⟨tried, -, -⟩ := unlocked_iff_tried strict "viewer" secondTry
  exact ⟨strict, rfl, tried.mp rfl⟩

end Viewer

end Rehearsal
