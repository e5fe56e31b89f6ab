import Rehearsal.Proofs.Text.Padded
import Rehearsal.Trail.Instant
/-!
# The calendar and the clock

An instant that is counted from the epoch has a date that grows from day to day and a time of day
that grows from second to second. So the stamps of instants are in the order of their milliseconds
as long as years have four digits.
-/

set_option autoImplicit false

namespace Rehearsal.Instant

open Text (padded length_padded padded_append padded_lt_padded append_lt_append)

variable {time : Instant}

/-! ## Days -/

/-- Whether a date is none before the epoch and has a month and a day of a calendar. -/
structure IsDate (time : Instant) : Prop where
  year : 1970 ≤ time.year
  month : 1 ≤ time.month ∧ time.month ≤ 12
  day : 1 ≤ time.day ∧ time.day ≤ 31

/-- Year, month and day as one number, with two digits for the month and two for the day. -/
def dateNumber (time : Instant) : Nat := time.year.toNat * 10000 + (time.month * 100 + time.day)

theorem daysIn_le (year : Int) (month : Nat) : daysIn year month ≤ 31 := by
  rw [daysIn]
  split
  · split <;> decide
  · split <;> decide

theorem IsDate.nextDay (date : time.IsDate) : time.nextDay.IsDate := by
  obtain ⟨year, month, day⟩ := date
  have longest := daysIn_le time.year time.month
  have firstMonth : 1 ≤ 1 ∧ 1 ≤ 12 := by decide
  have firstDay : 1 ≤ 1 ∧ 1 ≤ 31 := by decide
  rw [Instant.nextDay]
  split
  case isTrue within => exact ⟨year, month, Nat.le_add_left 1 _, Nat.le_trans within longest⟩
  case isFalse =>
    split
    case isTrue earlier => exact ⟨year, ⟨Nat.le_add_left 1 _, earlier⟩, firstDay⟩
    case isFalse => exact ⟨Int.le_add_one year, firstMonth, firstDay⟩

theorem IsDate.dateNumber_lt_nextDay (date : time.IsDate) :
    time.dateNumber < time.nextDay.dateNumber := by
  obtain ⟨year, month, day⟩ := date
  rw [dateNumber, dateNumber, Instant.nextDay]
  split
  case isTrue => exact Nat.add_lt_add_left (Nat.add_lt_add_left (Nat.lt_add_one _) _) _
  case isFalse =>
    split
    case isTrue =>
      dsimp only
      omega
    case isFalse =>
      dsimp only
      omega

theorem afterDays_succ (days : Nat) (time : Instant) :
    time.afterDays (days + 1) = (time.afterDays days).nextDay := by
  induction days generalizing time with
  | zero => rfl
  | succ days ih => exact ih time.nextDay

theorem isDate_afterDays (days : Nat) : (epoch.afterDays days).IsDate := by
  induction days with
  | zero => exact ⟨by decide, by decide, by decide⟩
  | succ days ih => exact afterDays_succ days epoch ▸ ih.nextDay

theorem dateNumber_lt_of_lt {days later : Nat} (less : days < later) :
    (epoch.afterDays days).dateNumber < (epoch.afterDays later).dateNumber := by
  have next (days : Nat) : (epoch.afterDays days).dateNumber <
      (epoch.afterDays (days + 1)).dateNumber :=
    afterDays_succ days epoch ▸ (isDate_afterDays days).dateNumber_lt_nextDay
  induction less with
  | refl => exact next days
  | step _ ih => exact Nat.lt_trans ih (next _)

/-! ## The time of day -/

theorem nextDay_clock (time : Instant) :
    time.nextDay.hour = time.hour ∧ time.nextDay.minute = time.minute ∧
      time.nextDay.second = time.second := by
  rw [nextDay]
  split
  · exact ⟨rfl, rfl, rfl⟩
  · split <;> exact ⟨rfl, rfl, rfl⟩

theorem midnight_afterDays (days : Nat) :
    (epoch.afterDays days).hour = 0 ∧ (epoch.afterDays days).minute = 0 ∧
      (epoch.afterDays days).second = 0 := by
  induction days with
  | zero => exact ⟨rfl, rfl, rfl⟩
  | succ days ih =>
      obtain ⟨hour, minute, second⟩ := nextDay_clock (epoch.afterDays days)
      rw [afterDays_succ, hour, minute, second]
      exact ih

/-- The instant on a day some seconds after midnight. -/
def atClock (day : Instant) (seconds nanosecond : Nat) : Instant :=
  { day with
    hour := seconds / 3600
    minute := seconds / 60 % 60
    second := seconds % 60
    nanosecond := nanosecond }

theorem shift_midnight (midnight : time.hour = 0 ∧ time.minute = 0 ∧ time.second = 0)
    {seconds : Nat} (within : seconds < 86400) :
    time.shift seconds = time.atClock seconds time.nanosecond := by
  obtain ⟨hour, minute, second⟩ := midnight
  have early : ¬((seconds : Int) < 0) := by omega
  have late : ¬((86400 : Int) ≤ seconds) := by omega
  have whole : ((seconds : Int) % 86400).toNat = seconds := by omega
  simp only [shift, hour, minute, second, Int.ofNat_zero, Int.zero_mul, Int.zero_add, if_neg early,
    if_neg late, whole, atClock]

def milliseconds (seconds nanoseconds : Nat) : Nat :=
  (seconds * 1000000000 + nanoseconds) / 1000000

def dayOf (count : Nat) : Instant := epoch.afterDays (count / 86400000)

theorem isDate_dayOf (count : Nat) : (dayOf count).IsDate := isDate_afterDays (count / 86400000)

def secondOf (count : Nat) : Nat := count / 1000 % 86400

theorem year_atClock (day : Instant) (seconds nanosecond : Nat) :
    (day.atClock seconds nanosecond).year = day.year :=
  rfl

theorem atClock_with (day : Instant) (seconds old new : Nat) :
    { day.atClock seconds old with nanosecond := new } = day.atClock seconds new :=
  rfl

theorem ofEpoch_eq (seconds nanoseconds : Nat) :
    ofEpoch seconds nanoseconds =
      (dayOf (milliseconds seconds nanoseconds)).atClock
        (secondOf (milliseconds seconds nanoseconds)) (nanoseconds % 1000000000) := by
  generalize counted : milliseconds seconds nanoseconds = count
  have whole : seconds + nanoseconds / 1000000000 = count / 1000 := by
    rw [← counted, milliseconds]
    omega
  have day : epoch.afterDays (count / 1000 / 86400) = dayOf count := by
    have days : count / 1000 / 86400 = count / 86400000 := by omega
    rw [dayOf, days]
  have cast : ((count / 1000 : Nat) : Int) % 86400 = (secondOf count : Nat) := by
    rw [secondOf]
    omega
  have within : secondOf count < 86400 := by
    rw [secondOf]
    omega
  have midnight : (dayOf count).hour = 0 ∧ (dayOf count).minute = 0 ∧ (dayOf count).second = 0 :=
    midnight_afterDays (count / 86400000)
  rw [ofEpoch, whole, day, cast, shift_midnight midnight within, atClock_with]

/-! ## Stamps -/

/-- Hours, minutes and seconds as one number, with two digits for each of the last two. -/
def clockNumber (seconds : Nat) : Nat :=
  seconds / 3600 * 10000 + (seconds / 60 % 60 * 100 + seconds % 60)

theorem clockNumber_lt_clockNumber {earlier later : Nat} (less : earlier < later) :
    clockNumber earlier < clockNumber later := by
  have hours : earlier / 3600 = earlier / 60 / 60 := (Nat.div_div_eq_div_mul earlier 60 60).symm
  have laterHours : later / 3600 = later / 60 / 60 := (Nat.div_div_eq_div_mul later 60 60).symm
  rw [clockNumber, clockNumber, hours, laterHours]
  omega

def stampText (date clock fraction : Nat) : List Char :=
  (Text.padded 8 date).toList ++ 'T' :: ((Text.padded 6 clock).toList ++ '.' ::
    ((Text.padded 3 fraction).toList ++ ['Z']))

theorem toList_yearText {year : Int} (first : 0 ≤ year) (last : year ≤ 9999) :
    (yearText year).toList = (Text.padded 4 year.toNat).toList := by
  rw [yearText, if_pos (by simp [first, last])]

theorem toList_stamp_atClock {day : Instant} (date : day.IsDate) (last : day.year ≤ 9999)
    (seconds nanosecond : Nat) :
    (day.atClock seconds nanosecond).stamp.toList =
      stampText day.dateNumber (clockNumber seconds) (nanosecond / 1000000 % 1000) := by
  obtain ⟨year, month, dayOfMonth⟩ := date
  have monthDay : (padded 2 day.month).toList ++ (padded 2 day.day).toList =
      (padded 4 (day.month * 100 + day.day)).toList :=
    padded_append 1 1 day.month (show day.day < 100 by omega)
  have yearMonthDay : (padded 4 day.year.toNat).toList ++
      (padded 4 (day.month * 100 + day.day)).toList =
        (padded 8 (day.year.toNat * 10000 + (day.month * 100 + day.day))).toList :=
    padded_append 3 3 day.year.toNat (show day.month * 100 + day.day < 10000 by omega)
  have minuteSecond : (padded 2 (seconds / 60 % 60)).toList ++ (padded 2 (seconds % 60)).toList =
      (padded 4 (seconds / 60 % 60 * 100 + seconds % 60)).toList :=
    padded_append 1 1 (seconds / 60 % 60) (show seconds % 60 < 100 by omega)
  have hourMinuteSecond : (padded 2 (seconds / 3600)).toList ++
      (padded 4 (seconds / 60 % 60 * 100 + seconds % 60)).toList =
        (padded 6 (seconds / 3600 * 10000 + (seconds / 60 % 60 * 100 + seconds % 60))).toList :=
    padded_append 1 3 (seconds / 3600)
      (show seconds / 60 % 60 * 100 + seconds % 60 < 10000 by omega)
  rw [stampText, dateNumber, clockNumber, ← yearMonthDay, ← monthDay, ← hourMinuteSecond,
    ← minuteSecond, stamp, atClock]
  simp only [String.toList_append, toList_yearText (Int.le_trans (by decide) year) last,
    List.append_assoc]
  rfl

theorem toList_stamp_ofEpoch {seconds nanoseconds count : Nat}
    (counted : milliseconds seconds nanoseconds = count)
    (last : (ofEpoch seconds nanoseconds).year ≤ 9999) :
    (ofEpoch seconds nanoseconds).stamp.toList =
      stampText (dayOf count).dateNumber (clockNumber (secondOf count)) (count % 1000) := by
  have fraction : nanoseconds % 1000000000 / 1000000 % 1000 = count % 1000 := by
    rw [← counted, milliseconds]
    omega
  rw [ofEpoch_eq, counted] at last ⊢
  rw [toList_stamp_atClock (isDate_dayOf count) last, fraction]

theorem slash_not_mem_stamp (time : Instant) : '/' ∉ time.stamp.toList := by
  have digits (width value : Nat) : '/' ∉ (Text.padded width value).toList := fun slash =>
    Bool.false_ne_true (Text.isDigit_of_mem_padded slash)
  have year : '/' ∉ (yearText time.year).toList := by
    rw [yearText]
    split
    · exact digits 4 _
    · split <;> simp [digits]
  simp [stamp, year, digits]

theorem IsDate.dateNumber_lt (date : time.IsDate) (last : time.year ≤ 9999) :
    time.dateNumber < 100000000 := by
  obtain ⟨year, month, day⟩ := date
  rw [dateNumber]
  omega

theorem padded_lt_padded_append {width low high : Nat} (less : low < high)
    (fits : high < Text.scale (width + 1)) (after later : List Char) :
    (Text.padded (width + 1) low).toList ++ after <
      (Text.padded (width + 1) high).toList ++ later := by
  refine append_lt_append ?_ (padded_lt_padded less fits) after later
  rw [length_padded (Nat.lt_trans less fits), length_padded fits]

theorem stamp_lt_stamp {seconds nanoseconds laterSeconds laterNanoseconds : Nat}
    (less : milliseconds seconds nanoseconds < milliseconds laterSeconds laterNanoseconds)
    (first : (ofEpoch seconds nanoseconds).year ≤ 9999)
    (last : (ofEpoch laterSeconds laterNanoseconds).year ≤ 9999) :
    (ofEpoch seconds nanoseconds).stamp.toList <
      (ofEpoch laterSeconds laterNanoseconds).stamp.toList := by
  rw [toList_stamp_ofEpoch rfl first, toList_stamp_ofEpoch rfl last]
  rw [ofEpoch_eq, year_atClock] at last
  generalize milliseconds seconds nanoseconds = earlier at less
  generalize milliseconds laterSeconds laterNanoseconds = later at less last
  have fits : (dayOf later).dateNumber < Text.scale (7 + 1) :=
    (isDate_dayOf later).dateNumber_lt last
  rw [stampText, stampText]
  by_cases sameDay : earlier / 86400000 = later / 86400000
  · -- The dates agree, so the time of day decides, or else the milliseconds do.
    have day : dayOf earlier = dayOf later := by rw [dayOf, dayOf, sameDay]
    rw [day]
    refine List.append_left_lt (List.cons_lt_cons_iff.mpr (.inr ⟨rfl, ?_⟩))
    by_cases sameSecond : earlier / 1000 = later / 1000
    · have second : secondOf earlier = secondOf later := by rw [secondOf, secondOf, sameSecond]
      have fraction : earlier % 1000 < later % 1000 := by omega
      rw [second]
      refine List.append_left_lt (List.cons_lt_cons_iff.mpr (.inr ⟨rfl, ?_⟩))
      exact padded_lt_padded_append fraction (Nat.mod_lt later (by decide)) _ _
    · have second : secondOf earlier < secondOf later := by
        rw [secondOf, secondOf]
        omega
      have within : clockNumber (secondOf later) < Text.scale (5 + 1) := by
        change clockNumber (secondOf later) < 1000000
        rw [clockNumber, secondOf]
        omega
      exact padded_lt_padded_append (clockNumber_lt_clockNumber second) within _ _
  · have date : (dayOf earlier).dateNumber < (dayOf later).dateNumber :=
      dateNumber_lt_of_lt (by omega : earlier / 86400000 < later / 86400000)
    exact padded_lt_padded_append date fits _ _

end Rehearsal.Instant
