import Mathlib.Algebra.Order.Floor.Semiring
import Mathlib.Data.Rat.Floor
import Rehearsal.Proofs.Settings.SearchBudget
/-!
# How many lookups a time comes to

A time is spread over lookups with a pause each: as many as it takes to fill the time, at least one
and at most what fits 32 bits. The milliseconds of the time are first cut to 64 bits, so this holds
of every time that the variables of an environment can give, and fails for longer ones unless what
is left of them is still enough for the most lookups there can be.
-/

set_option autoImplicit false

namespace Rehearsal.Settings

section

variable {total rest more pause count : Nat}

theorem roundedUp_le_iff (positive : 0 < pause) :
    roundedUp total pause ≤ count ↔ total ≤ count * pause := by
  constructor
  · intro few
    calc total ≤ roundedUp total pause * pause := le_roundedUp_mul total positive
      _ ≤ count * pause := Nat.mul_le_mul_right pause few
  · intro filled
    refine Nat.not_lt.mp fun many => ?_
    have tight := roundedUp_mul_lt total positive
    have next : (count + 1) * pause ≤ roundedUp total pause * pause :=
      Nat.mul_le_mul_right pause many
    rw [Nat.succ_mul] at next
    omega

theorem roundedUp_eq_ceil (total : Nat) (positive : 0 < pause) :
    roundedUp total pause = ⌈(total : ℚ) / pause⌉₊ := by
  have some : (0 : ℚ) < pause := Nat.cast_pos.mpr positive
  refine eq_of_forall_ge_iff fun count => ?_
  rw [roundedUp_le_iff positive, Nat.ceil_le, div_le_iff₀ some]
  norm_cast

theorem roundedUp_mono (pause : Nat) {shorter longer : Nat} (le : shorter ≤ longer) :
    roundedUp shorter pause ≤ roundedUp longer pause :=
  Nat.div_le_div_right (Nat.add_le_add_right le _)

/-- More than one pause more takes more lookups, and more than one. -/
theorem lt_roundedUp_add (positive : 0 < pause) (longer : pause < more) (rest : Nat) :
    max 1 (roundedUp rest pause) < roundedUp (rest + more) pause := by
  have tight := roundedUp_mul_lt rest positive
  refine Nat.not_le.mp fun few => ?_
  rw [roundedUp_le_iff positive] at few
  rcases Nat.le_total 1 (roundedUp rest pause) with some | none
  · rw [Nat.max_eq_right some] at few
    omega
  · rw [Nat.max_eq_left none] at few
    omega

/-- A time that does not fit 64 bits is cut, and what is left of it takes fewer lookups unless it
takes the most there can be. -/
theorem cut_attempts_eq_iff {most : Nat} (positive : 0 < pause) (fits : pause < Text.bound64)
    (several : 1 < most) (total : Nat) :
    min most (max 1 (roundedUp (total % Text.bound64) pause)) =
        min most (max 1 (roundedUp total pause)) ↔
      total < Text.bound64 ∨ (most - 1) * pause < total % Text.bound64 := by
  have least := roundedUp_mono pause (Nat.mod_le total Text.bound64)
  rcases Nat.lt_or_ge total Text.bound64 with short | long
  · simp only [Nat.mod_eq_of_lt short, short, true_or]
  · have parts := Nat.mod_add_div total Text.bound64
    have whole : Text.bound64 ≤ Text.bound64 * (total / Text.bound64) :=
      Nat.le_mul_of_pos_right _ (Nat.div_pos long (by decide))
    have more := lt_roundedUp_add positive (Nat.lt_of_lt_of_le fits whole) (total % Text.bound64)
    rw [parts] at more
    have enough : (most - 1) * pause < total % Text.bound64 ↔
        most ≤ roundedUp (total % Text.bound64) pause := by
      rw [← Nat.not_le, ← roundedUp_le_iff positive]
      omega
    rw [enough]
    omega

end

theorem attemptsFor_eq_ceil (total : Elapsed) (backoff : Nat) :
    attemptsFor total backoff =
      min (Text.bound32 - 1)
        (max 1 ⌈((total.milliseconds % Text.bound64 : ℕ) : ℚ) / (max 1 backoff : ℕ)⌉₊) := by
  rw [attemptsFor, roundedUp_eq_ceil _ (Nat.le_max_left 1 backoff)]
  exact Nat.min_comm _ _

/-- A search is given the lookups that fill its time, and nothing else of the settings changes. The
lookups are counted for the milliseconds that fit 64 bits, so they are those that fill the whole
time when its milliseconds fit, or when those that are left do for the most lookups there can be;
otherwise they are fewer. As long as the milliseconds fit, more time never gives fewer lookups. -/
theorem setSearchTimeout_spreads (settings : Settings) (total : Elapsed)
    (word : settings.searchBackoff < Text.bound64) :
    let pause := max 1 settings.searchBackoff
    let filling (count : ℕ) := min (Text.bound32 - 1) (max 1 ⌈(count : ℚ) / pause⌉₊)
    let changed := settings.setSearchTimeout total
    changed = { settings with searchAttempts := filling (total.milliseconds % Text.bound64) } ∧
    (changed.searchAttempts = filling total.milliseconds ↔
      total.milliseconds < Text.bound64 ∨
        (Text.bound32 - 2) * pause < total.milliseconds % Text.bound64) ∧
    changed.searchAttempts ≤ filling total.milliseconds ∧
    ∀ more : Elapsed, total.nanoseconds ≤ more.nanoseconds → more.milliseconds < Text.bound64 →
      changed.searchAttempts ≤ (settings.setSearchTimeout more).searchAttempts := by
  intro pause filling changed
  have positive : 0 < pause := Nat.le_max_left 1 settings.searchBackoff
  have fits : pause < Text.bound64 := Nat.max_lt.mpr ⟨by decide, word⟩
  have given (time : Elapsed) : (settings.setSearchTimeout time).searchAttempts =
      filling (time.milliseconds % Text.bound64) := attemptsFor_eq_ceil time _
  have counted (count : ℕ) :
      filling count = min (Text.bound32 - 1) (max 1 (roundedUp count pause)) := by
    rw [roundedUp_eq_ceil count positive]
  have grows {shorter longer : ℕ} (le : shorter ≤ longer) : filling shorter ≤ filling longer := by
    have least := roundedUp_mono pause le
    rw [counted, counted]
    omega
  refine ⟨?_, ?_, ?_, fun more longer word => ?_⟩
  · rw [← given]
    rfl
  · rw [given, counted, counted]
    exact cut_attempts_eq_iff positive fits (by decide) total.milliseconds
  · rw [given]
    exact grows (Nat.mod_le _ _)
  · have less : total.milliseconds ≤ more.milliseconds := Nat.div_le_div_right longer
    rw [given, given, Nat.mod_eq_of_lt word, Nat.mod_eq_of_lt (Nat.lt_of_le_of_lt less word)]
    exact grows less

/-- With a little more than `2 ^ 64` milliseconds a search looks once, and with a second twice. -/
theorem setSearchTimeout_spreads_cut :
    let total := Elapsed.ofParts 18446744073709552 0
    let attempts (time : Elapsed) := (default.setSearchTimeout time).searchAttempts
    default.searchBackoff < Text.bound64 ∧
    attempts total ≠ min (Text.bound32 - 1)
      (max 1 ⌈(total.milliseconds : ℚ) / (max 1 default.searchBackoff : ℕ)⌉₊) ∧
    attempts total = 1 ∧ attempts (.ofParts 1 0) = 2 := by
  intro total attempts
  have word : default.searchBackoff < Text.bound64 := by decide
  obtain ⟨-, agrees, -⟩ := setSearchTimeout_spreads default total word
  refine ⟨word, fun same => ?_, by decide, by decide⟩
  have enough := agrees.mp same
  revert enough
  decide

end Rehearsal.Settings
