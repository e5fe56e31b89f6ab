import Mathlib.Tactic.MkIffOfInductiveProp
import Rehearsal.Proofs.Text.Natural
import Rehearsal.Proofs.Trail.Calendar
import Rehearsal.Trail.Instant
/-!
# Instants are read as they are written

The parts of a date and of a time of day are digits of a fixed width between separators, so each is
read where it was written. An inserted second comes back as the last of its minute, and any other
second that holds another second's worth of nanoseconds as the next one.
-/

set_option autoImplicit false

namespace Rehearsal.Instant

open Text (padded)

/-- Whether an instant is one of the calendar that can be held. -/
@[mk_iff]
structure IsSound (time : Instant) : Prop where
  year : -greatestYear - 1 ≤ time.year ∧ time.year ≤ greatestYear
  month : 1 ≤ time.month ∧ time.month ≤ 12
  day : 1 ≤ time.day ∧ time.day ≤ daysIn time.year time.month
  hour : time.hour < 24
  minute : time.minute < 60
  second : time.second < 60
  nanosecond : time.nanosecond < 2000000000

instance (time : Instant) : Decidable time.IsSound := decidable_of_iff' _ (isSound_iff time)

/-- The instant that has the same text and whose nanoseconds are less than a second's worth, unless
it is in the last second of its minute. -/
def settled (time : Instant) : Instant :=
  if 1000000000 ≤ time.nanosecond ∧ time.second ≠ 59 then
    { time with second := time.second + 1, nanosecond := time.nanosecond - 1000000000 }
  else time

/-! ## Numbers -/

section

variable {digits rest : List Char} {most width value least greatest : Nat}

theorem digitsUpTo_append (all : ∀ c ∈ digits, c.isDigit = true) (fits : digits.length ≤ most)
    (ends : digits.length = most ∨ ∀ c ∈ rest.head?, c.isDigit = false) :
    digitsUpTo most (digits ++ rest) =
      (Nat.ofDigitChars 10 digits 0, digits.length, rest) := by
  induction digits generalizing most with
  | nil =>
      cases most with
      | zero => rfl
      | succ most =>
          cases rest with
          | nil => rfl
          | cons c rest =>
              have other := (ends.resolve_left (Nat.succ_ne_zero most).symm) c rfl
              rw [List.nil_append, digitsUpTo, Text.digitValue?_of_not_isDigit other]
              rfl
  | cons c digits ih =>
      obtain ⟨digit, others⟩ := List.forall_mem_cons.mp all
      cases most with
      | zero => cases fits
      | succ most =>
          have later := ih others (Nat.le_of_succ_le_succ fits) (ends.imp_left Nat.succ_inj.mp)
          have value : Nat.ofDigitChars 10 (c :: digits) 0 =
              (c.toNat - 48) * Nat.pow 10 digits.length + Nat.ofDigitChars 10 digits 0 := by
            rw [Nat.ofDigitChars_cons, Nat.mul_zero, Nat.zero_add,
              Nat.ofDigitChars_eq_ofDigitChars_zero, Nat.mul_comm]
            rfl
          rw [List.cons_append, digitsUpTo, Text.digitValue?_of_isDigit digit, later, value]
          rfl

theorem padded_eq_cons (width value : Nat) :
    ∃ c digits, (padded width value).toList = c :: digits ∧ c.isDigit = true := by
  cases written : (padded width value).toList with
  | nil =>
      rw [Text.toList_padded] at written
      exact absurd (List.append_eq_nil_iff.mp written).2 Nat.toDigits_ne_nil
  | cons c digits =>
      exact ⟨c, digits, rfl, Text.isDigit_of_mem_padded (written ▸ List.mem_cons_self)⟩

theorem ofDigitChars_padded (width value : Nat) :
    Nat.ofDigitChars 10 (padded width value).toList 0 = value := by
  rw [Text.toList_padded, Nat.ofDigitChars_append, Nat.ofDigitChars_replicate_zero, Nat.mul_zero,
    Nat.ofDigitChars_ten_toDigits]

theorem number_padded (fits : (padded width value).toList.length ≤ most)
    (ends : (padded width value).toList.length = most ∨ ∀ c ∈ rest.head?, c.isDigit = false) :
    number most ((padded width value).toList ++ rest) =
      .ok (value, (padded width value).toList.length, rest) := by
  have found := digitsUpTo_append (fun _ => Text.isDigit_of_mem_padded) fits ends
  rw [ofDigitChars_padded] at found
  obtain ⟨c, digits, written, -⟩ := padded_eq_cons width value
  rw [written] at found ⊢
  rw [List.cons_append] at found ⊢
  simp only [number, found, List.length_cons]

theorem skipBlanks_cons {c : Char} (solid : Text.isBlank c = false) (rest : List Char) :
    skipBlanks (c :: rest) = c :: rest := by
  rw [skipBlanks, List.dropWhile_cons, solid]
  rfl

theorem skipBlanks_padded (width value : Nat) (rest : List Char) :
    skipBlanks ((padded width value).toList ++ rest) = (padded width value).toList ++ rest := by
  obtain ⟨c, digits, written, digit⟩ := padded_eq_cons width value
  rw [written]
  exact skipBlanks_cons (Text.isBlank_of_isDigit digit) _

theorem field_padded (within : least ≤ value ∧ value ≤ greatest) (short : value < 100)
    (rest : List Char) :
    field least greatest ((padded 2 value).toList ++ rest) = .ok (value, rest) := by
  have length : (padded 2 value).toList.length = 2 := Text.length_padded short
  rw [field, skipBlanks_padded, number_padded (Nat.le_of_eq length) (.inl length)]
  simp [within, bind, Except.bind, pure, Except.pure]

theorem separator_cons {c : Char} (solid : Text.isBlank c = false) (rest : List Char) :
    separator c (c :: rest) = .ok rest := by
  rw [separator, skipBlanks_cons solid]
  exact if_pos rfl

end

/-! ## The parts of an instant -/

section

variable {year : Int} {nanosecond : Nat} {time : Instant}

theorem toList_append_cons {c : Char} (sign : String) (single : sign.toList = [c]) (text : String)
    (rest : List Char) : (sign ++ text).toList ++ rest = c :: (text.toList ++ rest) := by
  rw [String.toList_append, single]
  rfl

theorem yearField_minus (rest : List Char) :
    yearField ('-' :: rest) = (number rest.length rest).bind fun found =>
      if found.1 ≤ greatestYearRead + 1 then .ok (-Int.ofNat found.1, found.2.2)
      else .error .outOfRange :=
  rfl

theorem yearField_plus (rest : List Char) :
    yearField ('+' :: rest) = (number rest.length rest).bind fun found =>
      if found.1 ≤ greatestYearRead then .ok (Int.ofNat found.1, found.2.2)
      else .error .outOfRange :=
  rfl

theorem yearField_yearText (low : -greatestYear - 1 ≤ year) (high : year ≤ greatestYear)
    (rest : List Char) :
    yearField ((yearText year).toList ++ '-' :: rest) = .ok (year, '-' :: rest) := by
  have ends : ∀ c ∈ ('-' :: rest).head?, c.isDigit = false := by
    intro c first
    cases first
    rfl
  unfold greatestYear at low high
  unfold yearText
  split
  · next plain =>
      rw [Bool.and_eq_true, decide_eq_true_eq, decide_eq_true_eq] at plain
      have length : (padded 4 year.toNat).toList.length = 4 :=
        Text.length_padded (show year.toNat < 10000 by omega)
      have read := number_padded (Nat.le_of_eq length) (.inr ends)
      have value : Int.ofNat year.toNat = year := Int.toNat_of_nonneg plain.1
      obtain ⟨c, digits, written, digit⟩ := padded_eq_cons 4 year.toNat
      unfold yearField
      rw [skipBlanks_padded]
      split
      · next same =>
          rw [written] at same
          cases same
          cases digit
      · next same =>
          rw [written] at same
          cases same
          cases digit
      · rw [read]
        exact congrArg (fun year => Except.ok (year, '-' :: rest)) value
  · -- A sign stands in front, and as many digits follow as the year has.
    have read : number ((padded 4 year.natAbs).toList ++ '-' :: rest).length
        ((padded 4 year.natAbs).toList ++ '-' :: rest) =
          .ok (year.natAbs, (padded 4 year.natAbs).toList.length, '-' :: rest) :=
      number_padded (by simp) (.inr ends)
    split
    · next negative =>
        have held : year.natAbs ≤ greatestYearRead + 1 := by
          show year.natAbs ≤ 2147483648
          omega
        have value : -Int.ofNat year.natAbs = year := by
          rw [Int.ofNat_eq_natCast]
          omega
        rw [toList_append_cons (c := '-') "-" rfl, yearField_minus, read]
        exact (if_pos held).trans (congrArg (fun year => Except.ok (year, '-' :: rest)) value)
    · next positive =>
        have held : year.natAbs ≤ greatestYearRead := by
          show year.natAbs ≤ 2147483647
          omega
        have value : Int.ofNat year.natAbs = year := by
          rw [Int.ofNat_eq_natCast]
          omega
        rw [toList_append_cons (c := '+') "+" rfl, yearField_plus, read]
        exact (if_pos held).trans (congrArg (fun year => Except.ok (year, '-' :: rest)) value)

theorem fraction_fractionText (small : nanosecond < 1000000000) (rest : List Char) :
    fraction ((fractionText nanosecond).toList ++ 'Z' :: rest) = .ok (nanosecond, 'Z' :: rest) := by
  have ends : ∀ c ∈ ('Z' :: rest).head?, c.isDigit = false := by
    intro c first
    cases first
    rfl
  have read (width value : Nat) (short : value < Text.scale (width + 1)) (narrow : width < 9)
      (whole : value * Nat.pow 10 (8 - width) = nanosecond) :
      fraction (("." ++ padded (width + 1) value).toList ++ 'Z' :: rest) =
        .ok (nanosecond, 'Z' :: rest) := by
    have length := Text.length_padded short
    have fits : (padded (width + 1) value).toList.length ≤ 9 := by
      rw [length]
      exact narrow
    have digits := number_padded fits (.inr ends)
    have places : 9 - (width + 1) = 8 - width := by omega
    rw [toList_append_cons (c := '.') "." rfl, fraction, digits, length, ← whole, ← places]
    rfl
  unfold fractionText
  split
  · next none => rw [none]; rfl
  split
  · next millis =>
      exact read 2 _ (show _ < 1000 by omega) (by decide) (show _ * 1000000 = _ by omega)
  split
  · next micros =>
      exact read 5 _ (show _ < 1000000 by omega) (by decide) (show _ * 1000 = _ by omega)
  · exact read 8 _ small (by decide) (Nat.mul_one nanosecond)

/-- An instant is not moved by an offset of zero. -/
theorem shift_zero (hour : time.hour < 24) (minute : time.minute < 60) (second : time.second < 60) :
    time.shift 0 = time := by
  obtain ⟨year, month, day, h, m, s, n⟩ := time
  dsimp only at hour minute second
  simp only [shift, Int.add_zero]
  rw [if_neg (by omega), if_neg (by omega)]
  have clock : (((h * 3600 + m * 60 + s : Int)) % 86400).toNat = h * 3600 + m * 60 + s := by omega
  simp only [clock, mk.injEq, true_and, and_true]
  omega

end

/-! ## The whole text -/

/-- The second that a text shows. -/
def shownSecond (time : Instant) : Nat :=
  if 1000000000 ≤ time.nanosecond then time.second + 1 else time.second

/-- The nanoseconds that a text shows. -/
def shownNanosecond (time : Instant) : Nat :=
  if 1000000000 ≤ time.nanosecond then time.nanosecond - 1000000000 else time.nanosecond

theorem toList_text (time : Instant) :
    time.text.toList = (yearText time.year).toList ++ '-' :: ((padded 2 time.month).toList ++
      '-' :: ((padded 2 time.day).toList ++ 'T' :: ((padded 2 time.hour).toList ++
      ':' :: ((padded 2 time.minute).toList ++ ':' :: ((padded 2 time.shownSecond).toList ++
      ((fractionText time.shownNanosecond).toList ++ ['Z'])))))) := by
  simp [text, shownSecond, shownNanosecond]

/-- The sixtieth second of a minute is one that was inserted. -/
theorem settled_eq {time : Instant} (second : time.second < 60) :
    time.settled =
      { time with
        second := if time.shownSecond = 60 then 59 else time.shownSecond
        nanosecond :=
          if time.shownSecond = 60 then time.shownNanosecond + 1000000000
          else time.shownNanosecond } := by
  obtain ⟨year, month, day, hour, minute, s, n⟩ := time
  unfold settled shownSecond shownNanosecond
  dsimp only at second ⊢
  by_cases large : 1000000000 ≤ n
  · by_cases last : s = 59
    · subst last
      simp [large, Nat.sub_add_cancel large]
    · have other : s + 1 ≠ 60 := by omega
      simp [large, last, other]
  · have other : s ≠ 60 := Nat.ne_of_lt second
    simp [large, other]

theorem shift_settled_zero {time : Instant} (hour : time.hour < 24) (minute : time.minute < 60)
    (second : time.second < 60) : time.settled.shift 0 = time.settled := by
  unfold settled
  split
  · next carried =>
      have later : time.second + 1 < 60 := by omega
      exact shift_zero hour minute later
  · exact shift_zero hour minute second

theorem ofText_text {time : Instant} (sound : time.IsSound) :
    ofText time.text = .ok time.settled := by
  obtain ⟨year, month, day, hour, minute, second, nanosecond⟩ := sound
  have longest := daysIn_le time.year time.month
  have shown : time.shownSecond ≤ 60 := by
    unfold shownSecond
    split <;> omega
  have small : time.shownNanosecond < 1000000000 := by
    unfold shownNanosecond
    split <;> omega
  have dash : Text.isBlank '-' = false := rfl
  have colon : Text.isBlank ':' = false := rfl
  have readYear := yearField_yearText year.1 year.2
  have readMonth := field_padded month (by omega)
  have readDay := field_padded (show 1 ≤ time.day ∧ time.day ≤ 31 by omega) (by omega)
  have readHour := field_padded (show 0 ≤ time.hour ∧ time.hour ≤ 23 by omega) (by omega)
  have readMinute := field_padded (show 0 ≤ time.minute ∧ time.minute ≤ 59 by omega) (by omega)
  have readSecond := field_padded (show 0 ≤ time.shownSecond ∧ time.shownSecond ≤ 60 by omega)
    (by omega)
  have readFraction := fraction_fractionText small []
  have readZone : zone ['Z'] = .ok (0, []) := rfl
  have readEnd : (skipBlanks []).isEmpty = true := rfl
  have yearHeld : (greatestYear < time.year || time.year < -greatestYear - 1 : Bool) = false := by
    simp [year]
  have dayThere : ¬ daysIn time.year time.month < time.day := Nat.not_lt.mpr day.2
  have offset : ¬ 86400 ≤ Int.natAbs 0 := by decide
  have unmoved := shift_settled_zero hour minute second
  rw [settled_eq second] at unmoved
  simp only [ofText, toList_text, readYear, separator_cons dash, separator_cons colon, readMonth,
    readDay, readHour, readMinute, readSecond, readFraction, readZone, readEnd, offset, yearHeld,
    dayThere, bind, Except.bind, pure, Except.pure, decide_true, Bool.or_true, Bool.true_or,
    Bool.not_true, Bool.false_eq_true, if_true, if_false, Int.neg_zero, unmoved]
  rw [settled_eq second]

end Rehearsal.Instant
