import Rehearsal.Proofs.Json.Letters
import Rehearsal.Proofs.Text.Natural
/-!
# The grammar of JSON

The texts of a document: words, numerals with a fraction and a power, strings of any letters, and
lists and objects with spaces between their parts. A string need not stand for a text, for the
numbers of surrogates may stand alone in it, and a numeral need not be of any range.
-/

set_option autoImplicit false

namespace Rehearsal.Json

/-! ## Spaces -/

/-- Spaces that may stand between the parts of a document. -/
def IsGap (text : List Char) : Prop := ∀ c ∈ text, isSpace c = true

instance (text : List Char) : Decidable (IsGap text) :=
  List.decidableBAll (fun c => isSpace c = true) text

theorem isGap_nil : IsGap [] := fun _ member => nomatch member

theorem skipSpaces_gap {gap : List Char} (space : IsGap gap) (rest : List Char) :
    skipSpaces (gap ++ rest) = skipSpaces rest := by
  induction gap with
  | nil => rfl
  | cons c gap ih =>
      have first := space c List.mem_cons_self
      simpa [skipSpaces, first] using ih fun d member => space d (List.mem_cons_of_mem _ member)

theorem skipSpaces_cons {c : Char} (solid : isSpace c = false) (rest : List Char) :
    skipSpaces (c :: rest) = c :: rest := by
  simp [skipSpaces, solid]

theorem isSpace_of_isDigit {c : Char} (digit : c.isDigit = true) : isSpace c = false := by
  cases space : isSpace c with
  | false => rfl
  | true =>
      simp only [isSpace, Bool.or_eq_true, beq_iff_eq] at space
      rcases space with ((rfl | rfl) | rfl) | rfl <;> cases digit

/-! ## Numerals -/

/-- One digit or more. -/
structure IsDigits (digits : List Char) : Prop where
  ne_nil : digits ≠ []
  all : ∀ c ∈ digits, c.isDigit = true

def digitValues (digits : List Char) : List Nat := digits.map fun c => c.toNat - 48

inductive RendersFraction : Option (List Nat) → List Char → Prop where
  | absent : RendersFraction none []
  | present {digits : List Char} (run : IsDigits digits) :
      RendersFraction (some (digitValues digits)) ('.' :: digits)

inductive RendersPower : Option (Bool × List Nat) → List Char → Prop where
  | absent : RendersPower none []
  | bare {mark : Char} {digits : List Char} (isMark : mark = 'e' ∨ mark = 'E')
      (run : IsDigits digits) : RendersPower (some (false, digitValues digits)) (mark :: digits)
  | up {mark : Char} {digits : List Char} (isMark : mark = 'e' ∨ mark = 'E')
      (run : IsDigits digits) :
      RendersPower (some (false, digitValues digits)) (mark :: '+' :: digits)
  | down {mark : Char} {digits : List Char} (isMark : mark = 'e' ∨ mark = 'E')
      (run : IsDigits digits) :
      RendersPower (some (true, digitValues digits)) (mark :: '-' :: digits)

/-- The texts of a numeral without its sign. A zero stands alone before the point. -/
inductive RendersNumeral : Numeral → List Char → Prop where
  | parts {negative : Bool} {whole afterPoint afterMark : List Char} {fraction : Option (List Nat)}
      {power : Option (Bool × List Nat)} (digits : IsDigits whole)
      (leading : whole = ['0'] ∨ whole.head? ≠ some '0')
      (inFraction : RendersFraction fraction afterPoint)
      (inPower : RendersPower power afterMark) :
      RendersNumeral ⟨negative, digitValues whole, fraction, power⟩
        (whole ++ (afterPoint ++ afterMark))

/-! ## Documents -/

mutual

/-- The texts of a document without a fault in its structure. -/
inductive Renders : Doc → List Char → Prop where
  | null : Renders .null ['n', 'u', 'l', 'l']
  | yes : Renders (.bool true) ['t', 'r', 'u', 'e']
  | no : Renders (.bool false) ['f', 'a', 'l', 's', 'e']
  | number {numeral : Numeral} {text : List Char} (plain : numeral.negative = false)
      (written : RendersNumeral numeral text) : Renders (.number numeral) text
  | negative {numeral : Numeral} {text : List Char} (signed : numeral.negative = true)
      (written : RendersNumeral numeral text) : Renders (.number numeral) ('-' :: text)
  | string {pieces : List Piece} {inside : List Char} (written : RendersPieces pieces inside) :
      Renders (.string (tokenOf pieces) none) ('"' :: (inside ++ ['"']))
  | emptyArray {gap : List Char} (space : IsGap gap) :
      Renders (.array [] none) ('[' :: (gap ++ [']']))
  | array {items : List Doc} {inside : List Char} (written : RendersItems items inside) :
      Renders (.array items none) ('[' :: (inside ++ [']']))
  | emptyObject {gap : List Char} (space : IsGap gap) :
      Renders (.object [] none) ('\x7b' :: (gap ++ ['\x7d']))
  | object {members : List (Token × Doc)} {inside : List Char}
      (written : RendersMembers members inside) :
      Renders (.object members none) ('\x7b' :: (inside ++ ['\x7d']))

/-- The texts of one or more items. -/
inductive RendersItems : List Doc → List Char → Prop where
  | last {item : Doc} {before written after : List Char} (space : IsGap before)
      (rendered : Renders item written) (spaceAfter : IsGap after) :
      RendersItems [item] (before ++ (written ++ after))
  | more {item : Doc} {items : List Doc} {before written after others : List Char}
      (space : IsGap before) (rendered : Renders item written) (spaceAfter : IsGap after)
      (rest : RendersItems items others) :
      RendersItems (item :: items) (before ++ (written ++ (after ++ ',' :: others)))

/-- The texts of one or more members. -/
inductive RendersMembers : List (Token × Doc) → List Char → Prop where
  | last {name : List Piece} {doc : Doc} {before letters middle inner written after : List Char}
      (space : IsGap before) (key : RendersPieces name letters) (spaceMiddle : IsGap middle)
      (spaceInner : IsGap inner) (rendered : Renders doc written) (spaceAfter : IsGap after) :
      RendersMembers [(tokenOf name, doc)]
        (before ++ '"' :: (letters ++ '"' :: (middle ++ ':' :: (inner ++ (written ++ after)))))
  | more {name : List Piece} {doc : Doc} {members : List (Token × Doc)}
      {before letters middle inner written after others : List Char}
      (space : IsGap before) (key : RendersPieces name letters) (spaceMiddle : IsGap middle)
      (spaceInner : IsGap inner) (rendered : Renders doc written) (spaceAfter : IsGap after)
      (rest : RendersMembers members others) :
      RendersMembers ((tokenOf name, doc) :: members)
        (before ++ '"' :: (letters ++ '"' :: (middle ++ ':' ::
          (inner ++ (written ++ (after ++ ',' :: others))))))

end

/-! ## What a text begins with -/

theorem IsDigits.head {digits : List Char} (run : IsDigits digits) :
    ∃ c rest, digits = c :: rest ∧ c.isDigit = true := by
  cases digits with
  | nil => exact absurd rfl run.ne_nil
  | cons c rest => exact ⟨c, rest, rfl, run.all c List.mem_cons_self⟩

theorem RendersNumeral.head {numeral : Numeral} {text : List Char}
    (written : RendersNumeral numeral text) : ∃ c rest, text = c :: rest ∧ c.isDigit = true := by
  cases written with
  | parts digits =>
      obtain ⟨c, rest, rfl, digit⟩ := digits.head
      exact ⟨c, _, rfl, digit⟩

theorem Renders.head {doc : Doc} {written : List Char} (rendered : Renders doc written) :
    ∃ c rest, written = c :: rest ∧ isSpace c = false ∧ c ≠ ']' := by
  cases rendered with
  | null => exact ⟨_, _, rfl, by decide, by decide⟩
  | yes => exact ⟨_, _, rfl, by decide, by decide⟩
  | no => exact ⟨_, _, rfl, by decide, by decide⟩
  | number _ numeral =>
      obtain ⟨c, rest, written, digit⟩ := numeral.head
      refine ⟨c, rest, written, isSpace_of_isDigit digit, ?_⟩
      rintro rfl
      cases digit
  | negative => exact ⟨_, _, rfl, by decide, by decide⟩
  | string => exact ⟨_, _, rfl, by decide, by decide⟩
  | emptyArray => exact ⟨_, _, rfl, by decide, by decide⟩
  | array => exact ⟨_, _, rfl, by decide, by decide⟩
  | emptyObject => exact ⟨_, _, rfl, by decide, by decide⟩
  | object => exact ⟨_, _, rfl, by decide, by decide⟩

theorem Renders.length_pos {doc : Doc} {written : List Char} (rendered : Renders doc written) :
    0 < written.length := by
  obtain ⟨c, rest, rfl, -, -⟩ := rendered.head
  exact Nat.zero_lt_succ _

theorem RendersItems.head {items : List Doc} {inside : List Char}
    (written : RendersItems items inside) (rest : List Char) :
    ∃ c after, skipSpaces (inside ++ rest) = c :: after ∧ c ≠ ']' := by
  cases written with
  | last space rendered spaceAfter =>
      obtain ⟨c, after, rfl, solid, noEnd⟩ := rendered.head
      rw [List.append_assoc, skipSpaces_gap space]
      exact ⟨c, _, skipSpaces_cons solid _, noEnd⟩
  | more space rendered spaceAfter others =>
      obtain ⟨c, after, rfl, solid, noEnd⟩ := rendered.head
      rw [List.append_assoc, skipSpaces_gap space]
      exact ⟨c, _, skipSpaces_cons solid _, noEnd⟩

end Rehearsal.Json
