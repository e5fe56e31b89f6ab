import Rehearsal.Json.Decode
import Rehearsal.Proofs.Json.Grammar
/-!
# Reading a text

A text of a document is read as that document. The fuel of the reader lasts because every part is
shorter than what it is a part of.
-/

set_option autoImplicit false

namespace Rehearsal.Json

/-! ## Numerals -/

/-- Whether a run of digits may end before a text. -/
def DigitsEnd (rest : List Char) : Prop := ∀ c ∈ rest.head?, Text.digitValue? c = none

/-- Whether a number may end before a text. -/
def NumberEnds (rest : List Char) : Prop :=
  ∀ c ∈ rest.head?, Text.digitValue? c = none ∧ c ≠ '.' ∧ c ≠ 'e' ∧ c ≠ 'E'

theorem NumberEnds.digitsEnd {rest : List Char} (ends : NumberEnds rest) : DigitsEnd rest :=
  fun c first => (ends c first).1

theorem numberEnds_gap {gap : List Char} (space : IsGap gap) {rest : List Char}
    (ends : NumberEnds rest) : NumberEnds (gap ++ rest) := by
  cases gap with
  | nil => exact ends
  | cons c gap =>
      intro d member
      cases member
      have first := space c List.mem_cons_self
      simp only [isSpace, Bool.or_eq_true, beq_iff_eq] at first
      rcases first with ((rfl | rfl) | rfl) | rfl <;> decide

theorem numberEnds_after {gap : List Char} (space : IsGap gap) (c : Char) (rest : List Char)
    (stops : Text.digitValue? c = none ∧ c ≠ '.' ∧ c ≠ 'e' ∧ c ≠ 'E') :
    NumberEnds (gap ++ c :: rest) := by
  apply numberEnds_gap space
  intro d member
  cases member
  exact stops

section

variable {digits written rest : List Char}

theorem takeDigits_append (all : ∀ c ∈ digits, c.isDigit = true) (ends : DigitsEnd rest) :
    takeDigits (digits ++ rest) = (digitValues digits, rest) := by
  induction digits with
  | nil =>
      cases rest with
      | nil => rfl
      | cons c rest => simp [takeDigits, ends c rfl, digitValues]
  | cons c digits ih =>
      have first := Text.digitValue?_of_isDigit (all c List.mem_cons_self)
      have others := ih fun d member => all d (List.mem_cons_of_mem _ member)
      simp [takeDigits, first, others, digitValues]

theorem readDigits_append (run : IsDigits digits) (ends : DigitsEnd rest) :
    readDigits (digits ++ rest) = .ok (digitValues digits, rest) := by
  rw [readDigits, takeDigits_append run.all ends]
  obtain ⟨c, others, rfl, -⟩ := run.head
  rfl

theorem readWhole_append (run : IsDigits digits)
    (leading : digits = ['0'] ∨ digits.head? ≠ some '0') (ends : DigitsEnd rest) :
    readWhole (digits ++ rest) = .ok (digitValues digits, rest) := by
  rw [readWhole, readDigits_append run ends]
  split
  · next same =>
      obtain ⟨c, others, rfl, digit⟩ := run.head
      obtain ⟨front, further⟩ := List.cons.inj (congrArg Prod.fst (Except.ok.inj same))
      simp only [Char.isDigit, Bool.and_eq_true, decide_eq_true_eq, ge_iff_le,
        UInt32.le_iff_toNat_le] at digit
      have low : 48 ≤ c.toNat := digit.1
      have value : c.toNat - 48 = 0 := front
      have zero : c = '0' := Char.toNat_inj.mp (show c.toNat = 48 by omega)
      rcases leading with alone | other
      · rw [(List.cons.inj alone).2] at further
        cases further
      · exact absurd (congrArg some zero) other
  · rfl

theorem readFraction_append {fraction : Option (List Nat)}
    (inFraction : RendersFraction fraction written) (ends : DigitsEnd rest)
    (noPoint : ∀ c ∈ rest.head?, c ≠ '.') :
    readFraction (written ++ rest) = .ok (fraction, rest) := by
  cases inFraction with
  | absent =>
      cases rest with
      | nil => rfl
      | cons c rest =>
          have other := noPoint c rfl
          rw [List.nil_append, readFraction]
          intro after same
          exact other (List.cons.inj same).1
  | present run =>
      rw [List.cons_append, readFraction, readDigits_append run ends]
      rfl

theorem readPower_mark {mark : Char} (isMark : mark = 'e' ∨ mark = 'E') (down : Bool)
    (sign : readPowerSign (written ++ rest) = (down, digits ++ rest)) (run : IsDigits digits)
    (ends : DigitsEnd rest) :
    readPower (mark :: (written ++ rest)) = .ok (some (down, digitValues digits), rest) := by
  have known : (mark = 'e' || mark = 'E' : Bool) = true := by simpa using isMark
  rw [readPower, if_pos known, sign]
  simp only [readDigits_append run ends, Except.map]

theorem readPowerSign_bare (run : IsDigits digits) :
    readPowerSign (digits ++ rest) = (false, digits ++ rest) := by
  obtain ⟨c, others, rfl, digit⟩ := run.head
  rw [List.cons_append]
  unfold readPowerSign
  split
  · next same => cases same; cases digit
  · next same => cases same; cases digit
  · rfl

theorem readPower_append {power : Option (Bool × List Nat)} (inPower : RendersPower power written)
    (ends : NumberEnds rest) : readPower (written ++ rest) = .ok (power, rest) := by
  cases inPower with
  | absent =>
      cases rest with
      | nil => rfl
      | cons c rest => simp [readPower, (ends c rfl).2.2]
  | bare isMark run =>
      exact readPower_mark isMark false (readPowerSign_bare run) run ends.digitsEnd
  | up isMark run => exact readPower_mark isMark false rfl run ends.digitsEnd
  | down isMark run => exact readPower_mark isMark true rfl run ends.digitsEnd

/-- A power begins with a mark, which ends the digits and the fraction before it. -/
theorem RendersPower.head {power : Option (Bool × List Nat)} (inPower : RendersPower power written)
    (ends : NumberEnds rest) :
    ∀ c ∈ (written ++ rest).head?, Text.digitValue? c = none ∧ c ≠ '.' := by
  have marks {mark : Char} (isMark : mark = 'e' ∨ mark = 'E') :
      Text.digitValue? mark = none ∧ mark ≠ '.' := by
    rcases isMark with rfl | rfl <;> decide
  intro c first
  cases inPower with
  | absent => exact ⟨(ends c first).1, (ends c first).2.1⟩
  | bare isMark => cases first; exact marks isMark
  | up isMark => cases first; exact marks isMark
  | down isMark => cases first; exact marks isMark

theorem readNumber_append {numeral : Numeral} (rendered : RendersNumeral numeral written)
    (ends : NumberEnds rest) :
    readNumber numeral.negative (written ++ rest) = (.number numeral, some rest) := by
  cases rendered with
  | @parts negative whole afterPoint afterMark fraction power run leading inFraction inPower =>
      have marked := inPower.head ends
      have pointed : DigitsEnd (afterPoint ++ (afterMark ++ rest)) := by
        cases inFraction with
        | absent => exact fun c first => (marked c first).1
        | present =>
            intro c first
            cases first
            rfl
      have readFirst := readWhole_append run leading pointed
      have readSecond := readFraction_append inFraction (fun c first => (marked c first).1)
        (fun c first => (marked c first).2)
      have readThird := readPower_append inPower ends
      simp only [List.append_assoc, readNumber, readUnsigned, readFirst, readSecond, readThird,
        bind, Except.bind, pure, Except.pure]

end

/-! ## Documents -/

/-- What the reader makes of texts that are no longer than its fuel. The texts of items and members
leave one unit of fuel for the closing bracket. -/
structure ReadsWithin (fuel : Nat) : Prop where
  doc : ∀ {doc : Doc} {written gap rest : List Char}, Renders doc written → IsGap gap →
    NumberEnds rest → written.length ≤ fuel →
    readDoc fuel (gap ++ (written ++ rest)) = (doc, some rest)
  items : ∀ {items : List Doc} {inside : List Char}, RendersItems items inside →
    inside.length < fuel → ∀ rest : List Char,
    readItems fuel (inside ++ ']' :: rest) = (items, none, some rest)
  members : ∀ {members : List (Token × Doc)} {inside : List Char},
    RendersMembers members inside → inside.length < fuel → ∀ rest : List Char,
    ∃ before tail, IsGap before ∧ inside = before ++ '"' :: tail ∧
      readMembers fuel (tail ++ '\x7d' :: rest) = (members, none, some rest)

section

variable {fuel : Nat} (shorter : ReadsWithin fuel)

include shorter

theorem readDoc_of_renders {doc : Doc} {written gap rest : List Char}
    (rendered : Renders doc written) (space : IsGap gap) (ends : NumberEnds rest)
    (short : written.length ≤ fuel + 1) :
    readDoc (fuel + 1) (gap ++ (written ++ rest)) = (doc, some rest) := by
  rw [readDoc, skipSpaces_gap space]
  cases rendered with
  | null => rfl
  | yes => rfl
  | no => rfl
  | number plain numeral =>
      have number := readNumber_append numeral ends
      obtain ⟨c, others, rfl, digit⟩ := numeral.head
      have noWord : c ≠ 'n' ∧ c ≠ 't' ∧ c ≠ 'f' ∧ c ≠ '-' := by
        refine ⟨?_, ?_, ?_, ?_⟩ <;> rintro rfl <;> cases digit
      rw [plain, List.cons_append] at number
      rw [List.cons_append, skipSpaces_cons (isSpace_of_isDigit digit)]
      simp only [noWord, if_false, Text.digitRange_eq, digit, if_true, number]
  | negative signed numeral =>
      have number := readNumber_append numeral ends
      rw [signed] at number
      simp [skipSpaces_cons, isSpace, number]
  | string inside =>
      have read := readString_of_renders inside rest
      simp [skipSpaces_cons, isSpace, readText, read]
  | emptyArray gapped => simp [skipSpaces_cons, isSpace, skipSpaces_gap gapped]
  | @array items inside written =>
      have within : inside.length < fuel := by simp at short; omega
      obtain ⟨c, after, first, noEnd⟩ := written.head (']' :: rest)
      have read := shorter.items written within rest
      simp [skipSpaces_cons, isSpace, first, noEnd, read]
  | emptyObject gapped => simp [skipSpaces_cons, isSpace, skipSpaces_gap gapped]
  | @object members inside written =>
      have within : inside.length < fuel := by simp at short; omega
      obtain ⟨before, tail, gapped, rfl, read⟩ := shorter.members written within rest
      simp [skipSpaces_cons, isSpace, skipSpaces_gap gapped, read]

theorem readItems_of_renders {items : List Doc} {inside : List Char}
    (written : RendersItems items inside) (short : inside.length < fuel + 1) (rest : List Char) :
    readItems (fuel + 1) (inside ++ ']' :: rest) = (items, none, some rest) := by
  cases written with
  | @last item before written after space rendered spaceAfter =>
      have within : written.length ≤ fuel := by simp at short; omega
      have read := shorter.doc rendered space
        (numberEnds_after spaceAfter ']' rest (by decide)) within
      have split : before ++ (written ++ after) ++ ']' :: rest =
          before ++ (written ++ (after ++ ']' :: rest)) := by simp
      rw [split, readItems, read]
      simp [skipSpaces_gap spaceAfter, skipSpaces_cons, isSpace]
  | @more item items before written after others space rendered spaceAfter more =>
      have filled := rendered.length_pos
      have within : written.length ≤ fuel := by simp at short; omega
      have othersWithin : others.length < fuel := by simp at short; omega
      have read := shorter.doc rendered space
        (numberEnds_after spaceAfter ',' (others ++ ']' :: rest) (by decide)) within
      have readOthers := shorter.items more othersWithin rest
      obtain ⟨c, next, first, noEnd⟩ := more.head (']' :: rest)
      have split : before ++ (written ++ (after ++ ',' :: others)) ++ ']' :: rest =
          before ++ (written ++ (after ++ ',' :: (others ++ ']' :: rest))) := by simp
      rw [split, readItems, read]
      simp [skipSpaces_gap spaceAfter, skipSpaces_cons, isSpace, first, noEnd, readOthers]

theorem readMembers_of_renders {members : List (Token × Doc)} {inside : List Char}
    (written : RendersMembers members inside) (short : inside.length < fuel + 1)
    (rest : List Char) :
    ∃ before tail, IsGap before ∧ inside = before ++ '"' :: tail ∧
      readMembers (fuel + 1) (tail ++ '\x7d' :: rest) = (members, none, some rest) := by
  cases written with
  | @last name doc before letters middle inner written after space key spaceMiddle spaceInner
      rendered spaceAfter =>
      have within : written.length ≤ fuel := by simp at short; omega
      have read := shorter.doc rendered spaceInner
        (numberEnds_after spaceAfter '\x7d' rest (by decide)) within
      refine ⟨before, _, space, rfl, ?_⟩
      simp [readMembers, readString_of_renders key, skipSpaces_gap spaceMiddle, skipSpaces_cons,
        isSpace, read, skipSpaces_gap spaceAfter]
  | @more name doc members before letters middle inner written after others space key
      spaceMiddle spaceInner rendered spaceAfter more =>
      have within : written.length ≤ fuel := by simp at short; omega
      have othersWithin : others.length < fuel := by simp at short; omega
      obtain ⟨gap, tail, gapped, rfl, readOthers⟩ := shorter.members more othersWithin rest
      have read := shorter.doc rendered spaceInner
        (numberEnds_after spaceAfter ',' (gap ++ '"' :: (tail ++ '\x7d' :: rest)) (by decide))
        within
      refine ⟨before, _, space, rfl, ?_⟩
      simp [readMembers, readString_of_renders key, skipSpaces_gap spaceMiddle, skipSpaces_cons,
        isSpace, read, skipSpaces_gap spaceAfter, skipSpaces_gap gapped, readOthers]

end

theorem readsWithin (fuel : Nat) : ReadsWithin fuel := by
  -- Each of the three readers calls the others with a unit less, on texts that are shorter.
  induction fuel with
  | zero =>
      exact ⟨fun rendered _ _ short => absurd rendered.length_pos (Nat.not_lt.mpr short),
        fun _ short => absurd short (Nat.not_lt_zero _),
        fun _ short => absurd short (Nat.not_lt_zero _)⟩
  | succ fuel ih =>
      exact ⟨readDoc_of_renders ih, readItems_of_renders ih, readMembers_of_renders ih⟩

/-- A whole text is read as its document, whatever spaces stand around it. -/
theorem read_of_renders {doc : Doc} {before written after : List Char} (space : IsGap before)
    (rendered : Renders doc written) (spaceAfter : IsGap after) :
    read (String.ofList (before ++ (written ++ after))) = (doc, some after) := by
  have nothing : NumberEnds [] := fun _ member => nomatch member
  have ends := numberEnds_gap spaceAfter nothing
  rw [List.append_nil] at ends
  have fits : written.length ≤ (before ++ (written ++ after)).length + 1 := by
    rw [List.length_append, List.length_append]
    omega
  have whole := (readsWithin ((before ++ (written ++ after)).length + 1)).doc rendered space ends
    fits
  rw [read, String.toList_ofList]
  exact whole

/-- A text is decoded as its document, whatever spaces stand around it. -/
theorem decode_of_renders {α : Type} (decoder : Decoder α) {doc : Doc}
    {before written after : List Char} (space : IsGap before) (rendered : Renders doc written)
    (spaceAfter : IsGap after) :
    decode decoder (String.ofList (before ++ (written ++ after))) =
      decoder (.text nestingLimit) doc := by
  have skipped : skipSpaces after = [] := by
    rw [← List.append_nil after, skipSpaces_gap spaceAfter]
    rfl
  rw [decode, read_of_renders space rendered spaceAfter]
  cases decoded : decoder (.text nestingLimit) doc with
  | ok content => simp [decoded, skipped, bind, Except.bind, pure, Except.pure]
  | error error => simp [decoded, bind, Except.bind]

end Rehearsal.Json
