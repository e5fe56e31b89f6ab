import Rehearsal.Proofs.Text.Blank
import Rehearsal.Text.Natural
/-!
# Numbers that are read

A number is read from decimal digits with or without a plus sign in front of them, and from nothing
else. Where a text is trimmed first, blanks may stand around them.
-/

set_option autoImplicit false

namespace Rehearsal.Text

theorem digitRange_eq (c : Char) : ('0' ≤ c && c ≤ '9') = c.isDigit := by
  simp only [Char.isDigit, Char.le_def, ge_iff_le]

theorem digitValue?_of_isDigit {c : Char} (digit : c.isDigit = true) :
    digitValue? c = some (c.toNat - 48) := by
  rw [digitValue?, if_pos ((digitRange_eq c).trans digit)]

theorem digitValue?_of_not_isDigit {c : Char} (other : c.isDigit = false) :
    digitValue? c = none := by
  rw [digitValue?, digitRange_eq, other]
  rfl

theorem digitsValue?_eq_some_iff {digits : List Char} {value count : Nat} :
    digitsValue? value digits = some count ↔
      (∀ c ∈ digits, c.isDigit = true) ∧ Nat.ofDigitChars 10 digits value = count := by
  induction digits generalizing value with
  | nil => simp [digitsValue?]
  | cons c digits ih =>
      rw [digitsValue?, List.forall_mem_cons]
      cases digit : c.isDigit with
      | false => simp [digitValue?_of_not_isDigit digit]
      | true =>
          rw [digitValue?_of_isDigit digit, Nat.ofDigitChars_cons, Nat.mul_comm 10]
          simpa using ih

/-- One or more decimal digits of a number. -/
def IsDigits (digits : List Char) (count : Nat) : Prop :=
  digits ≠ [] ∧ (∀ c ∈ digits, c.isDigit = true) ∧ Nat.ofDigitChars 10 digits 0 = count

/-- Digits of a number with a plus sign in front of them or without. -/
def IsNumeral (text : List Char) (count : Nat) : Prop :=
  ∃ digits, (text = digits ∨ text = '+' :: digits) ∧ IsDigits digits count

theorem readNatural?_plus_iff {bound count : Nat} {digits : List Char} :
    readNatural? bound ('+' :: digits) = some count ↔ IsDigits digits count ∧ count < bound := by
  rw [IsDigits, ← digitsValue?_eq_some_iff]
  cases digits with
  | nil => simp [readNatural?]
  | cons c rest =>
      simp only [readNatural?]
      cases digitsValue? 0 (c :: rest) with
      | none => simp
      | some value => grind

/-- What is behind a sign is read as if there were none. -/
theorem readNatural?_bare {digits : List Char} (bare : ∀ rest, digits ≠ '+' :: rest) (bound : Nat) :
    readNatural? bound digits = readNatural? bound ('+' :: digits) := by
  unfold readNatural?
  split
  · next rest => exact absurd rfl (bare rest)
  · rfl

theorem not_isDigits_plus (rest : List Char) (count : Nat) : ¬ IsDigits ('+' :: rest) count := by
  rintro ⟨-, all, -⟩
  have plus := all '+' List.mem_cons_self
  cases plus

theorem readNatural?_eq_some_iff {bound count : Nat} {text : List Char} :
    readNatural? bound text = some count ↔ IsNumeral text count ∧ count < bound := by
  by_cases signed : ∃ digits, text = '+' :: digits
  · obtain ⟨digits, rfl⟩ := signed
    rw [readNatural?_plus_iff]
    constructor
    · rintro ⟨reads, below⟩
      exact ⟨⟨digits, .inr rfl, reads⟩, below⟩
    · rintro ⟨⟨others, rfl | same, reads⟩, below⟩
      · exact absurd reads (not_isDigits_plus digits count)
      · cases same
        exact ⟨reads, below⟩
  · have bare := not_exists.mp signed
    rw [readNatural?_bare bare, readNatural?_plus_iff]
    constructor
    · rintro ⟨reads, below⟩
      exact ⟨⟨text, .inl rfl, reads⟩, below⟩
    · rintro ⟨⟨digits, rfl | same, reads⟩, below⟩
      · exact ⟨reads, below⟩
      · exact absurd same (bare digits)

theorem isBlank_of_isDigit {c : Char} (digit : c.isDigit = true) : isBlank c = false := by
  simp only [Char.isDigit, Bool.and_eq_true, decide_eq_true_eq, ge_iff_le,
    UInt32.le_iff_toNat_le] at digit
  have range : 48 ≤ c.toNat ∧ c.toNat ≤ 57 := digit
  simp only [isBlank, Bool.or_eq_false_iff, Bool.and_eq_false_iff, decide_eq_false_iff_not,
    beq_eq_false_iff_ne]
  omega

theorem IsNumeral.solid {text : List Char} {count : Nat} (numeral : IsNumeral text count) :
    ∀ c ∈ text, isBlank c = false := by
  obtain ⟨digits, rfl | rfl, -, all, -⟩ := numeral
  · exact fun c member => isBlank_of_isDigit (all c member)
  · intro c member
    cases member with
    | head => rfl
    | tail _ member => exact isBlank_of_isDigit (all c member)

/-- A numeral with blanks around it, or without. -/
def Denotes (text : String) (count : Nat) : Prop :=
  ∃ before numeral after, text.toList = before ++ numeral ++ after ∧ AllBlank before ∧
    AllBlank after ∧ IsNumeral numeral count

theorem readNatural?_trim_eq_some_iff {bound count : Nat} {text : String} :
    readNatural? bound (trim text).toList = some count ↔ Denotes text count ∧ count < bound := by
  rw [trim, String.toList_ofList, readNatural?_eq_some_iff]
  constructor
  · rintro ⟨numeral, below⟩
    obtain ⟨before, after, blankBefore, blankAfter, parts⟩ := exists_blanks_trimList text.toList
    exact ⟨⟨before, _, after, parts, blankBefore, blankAfter, numeral⟩, below⟩
  · rintro ⟨⟨before, numeral, after, parts, blankBefore, blankAfter, reads⟩, below⟩
    rw [parts, trimList_around blankBefore blankAfter reads.solid]
    exact ⟨reads, below⟩

end Rehearsal.Text
