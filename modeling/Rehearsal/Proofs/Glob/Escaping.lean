import Rehearsal.Glob.Walk
import Rehearsal.Proofs.Tree.NamePattern
/-!
# Escaped patterns

An escaped text is read as one token for each of its characters, which stands for that character
alone. So it matches nothing but itself, and with a star after it whatever begins with it.
-/

set_option autoImplicit false

namespace Rehearsal.Glob

open NamePattern (Tells)

variable {text rest name : List Char}

/-- Whether a character means something in a pattern. -/
def isSpecial (c : Char) : Bool := c = '?' || c = '*' || c = '[' || c = ']'

/-- The token of a character that stands for itself. -/
def literal (c : Char) : Token := if isSpecial c then .within [.single c] else .char c

/-! ## Reading -/

theorem isSpecial_iff (c : Char) :
    isSpecial c = true ↔ c = '?' ∨ c = '*' ∨ c = '[' ∨ c = ']' := by
  simp [isSpecial, or_assoc]

theorem bracket_special {c : Char} (special : isSpecial c = true) (rest : List Char) :
    bracket (c :: ']' :: rest) = some (.within [.single c], rest) := by
  rcases (isSpecial_iff c).mp special with rfl | rfl | rfl | rfl <;> rfl

theorem tokensFrom_bracket {position : Nat} {before : Pattern} {afterSlash : Bool}
    {token : Token} (read : bracket text = some (token, rest)) :
    ∃ position', tokensFrom position before afterSlash ('[' :: text) =
      tokensFrom position' (token :: before) false rest := by
  rw [tokensFrom]
  split
  · next found =>
      cases found.symm.trans read
      exact ⟨_, rfl⟩
  · next found => cases found.symm.trans read

theorem tokensFrom_ordinary {c : Char} (ordinary : isSpecial c = false) (position : Nat)
    (before : Pattern) (afterSlash : Bool) (rest : List Char) :
    tokensFrom position before afterSlash (c :: rest) =
      tokensFrom (position + 1) (.char c :: before) (c = '/') rest := by
  have other : ¬isSpecial c = true := Bool.eq_false_iff.mp ordinary
  rw [isSpecial_iff] at other
  simp only [not_or] at other
  rw [tokensFrom] <;> simp_all

theorem tokensFrom_escapeChar (position : Nat) (before : Pattern) (afterSlash : Bool) (c : Char)
    (rest : List Char) :
    ∃ position' afterSlash', tokensFrom position before afterSlash (escapeChar c ++ rest) =
      tokensFrom position' (literal c :: before) afterSlash' rest := by
  rw [escapeChar, ← isSpecial, literal]
  split
  · next special =>
      obtain ⟨position', same⟩ := tokensFrom_bracket (bracket_special special rest)
      exact ⟨position', false, same⟩
  · next ordinary =>
      exact ⟨_, _, tokensFrom_ordinary (Bool.eq_false_iff.mpr ordinary) position before _ rest⟩

theorem tokensFrom_escaped (position : Nat) (before : Pattern) (afterSlash : Bool)
    (text rest : List Char) :
    ∃ position' afterSlash',
      tokensFrom position before afterSlash (text.flatMap escapeChar ++ rest) =
        tokensFrom position' ((text.map literal).reverse ++ before) afterSlash' rest := by
  induction text generalizing position before afterSlash with
  | nil => exact ⟨position, afterSlash, rfl⟩
  | cons c text ih =>
      obtain ⟨middle, middleSlash, first⟩ :=
        tokensFrom_escapeChar position before afterSlash c (text.flatMap escapeChar ++ rest)
      obtain ⟨position', afterSlash', later⟩ := ih middle (literal c :: before) middleSlash
      refine ⟨position', afterSlash', ?_⟩
      rw [List.flatMap_cons, List.append_assoc, first, later, List.map_cons, List.reverse_cons,
        List.append_assoc]
      rfl

theorem ofText_escaped (text : List Char) :
    ofText (String.ofList (text.flatMap escapeChar)) = .ok (text.map literal) := by
  obtain ⟨position, afterSlash, read⟩ := tokensFrom_escaped 0 [] true text []
  rw [List.append_nil] at read
  rw [ofText, String.toList_ofList, read, tokensFrom, List.append_nil, List.reverse_reverse]

theorem ofText_escaped_star (text : List Char) :
    ofText (String.ofList (text.flatMap escapeChar ++ ['*'])) =
      .ok (text.map literal ++ [.anySequence]) := by
  obtain ⟨position, afterSlash, read⟩ := tokensFrom_escaped 0 [] true text ['*']
  rw [ofText, String.toList_ofList, read, tokensFrom]
  · rw [tokensFrom, List.append_nil, List.reverse_cons, List.reverse_reverse]
  · simp
  · simp

/-! ## Matching -/

theorem row_literal (c : Char) (name : List Char) (later : List Bool) :
    (literal c).row name later = NamePattern.stepRow (· == c) name later := by
  rw [literal]
  split <;> simp [Token.row, Range.holds]

theorem tells_literals {property : List Char → Prop} {row : List Bool} (text : List Char)
    (tells : Tells property name row) :
    Tells (fun name => ∃ rest, name = text ++ rest ∧ property rest) name
      ((text.map literal).foldr (fun token later => token.row name later) row) := by
  induction text with
  | nil => exact tells.congr fun _ => by simp
  | cons c text ih =>
      rw [List.map_cons, List.foldr_cons, row_literal]
      refine ih.stepRow ?_ fun d rest => ?_
      · rintro ⟨rest, same, -⟩
        cases same
      · simp [and_assoc]

theorem accepts_literals_iff (text : List Char) (name : String) :
    Pattern.accepts (text.map literal) name = true ↔ name.toList = text := by
  have tells := tells_literals text (NamePattern.tells_endRow name.toList)
  rw [Pattern.accepts, tells.head]
  simp

theorem accepts_literals_star_iff (text : List Char) (name : String) :
    Pattern.accepts (text.map literal ++ [.anySequence]) name = true ↔ text <+: name.toList := by
  have anything : Tells (fun _ => True) name.toList
      (NamePattern.starRow (NamePattern.endRow name.toList)) :=
    (NamePattern.tells_endRow name.toList).starRow (by simp) (by simp)
  have tells := tells_literals text anything
  rw [Pattern.accepts, List.foldr_append]
  refine tells.head.trans ?_
  simp [List.IsPrefix, eq_comm]

theorem literal?_literals (text : List Char) :
    Pattern.literal? (text.map literal) = if text.any isSpecial then none else some text := by
  induction text with
  | nil => rfl
  | cons c text ih =>
      rw [List.map_cons, literal]
      cases special : isSpecial c with
      | true => simp [Pattern.literal?, special]
      | false =>
          rw [if_neg Bool.false_ne_true, Pattern.literal?, ih, List.any_cons, special,
            Bool.false_or]
          split <;> rfl

end Rehearsal.Glob
