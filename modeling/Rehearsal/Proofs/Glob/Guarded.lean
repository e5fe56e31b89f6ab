import Rehearsal.Proofs.Glob.Backtracking
import Rehearsal.Proofs.Glob.Escaping
/-!
# Name patterns as file name patterns

A name pattern may be matched by way of a file name pattern in which its brackets stand in brackets
and a star right after a star is left out. That file name pattern is never malformed and holds no
`**`, and it matches the names that the name pattern stands for.
-/

set_option autoImplicit false

namespace Rehearsal.Glob

open NamePattern (Denotes StandsFor hasWildcard matchRow matchesList)

variable {previous : Option Char} {text rest : List Char} {c : Char}

/-! ## Guarding a name pattern -/

/-- Writes a name pattern as a file name pattern, given the character before it. -/
def guardFrom : Option Char → List Char → List Char
  | _, [] => []
  | previous, c :: rest =>
    (if c = '[' ∨ c = ']' then ['[', c, ']']
    else if c = '*' ∧ previous = some '*' then []
    else [c]) ++ guardFrom (some c) rest

def guarded (pattern : String) : String := String.ofList (guardFrom none pattern.toList)

/-- Whether a name pattern matches a name by way of a search with its file name pattern. Without a
wildcard the two are compared. -/
def guardedAccepts (pattern name : String) : Bool :=
  if hasWildcard pattern.toList then
    match ofText (guarded pattern) with
    | .ok tokens => search tokens name.toList == .found
    | .error _ => false
  else pattern == name

/-- A name pattern without the stars right after a star, given the character before it. -/
def unrepeated : Option Char → List Char → List Char
  | _, [] => []
  | previous, c :: rest =>
    if c = '*' ∧ previous = some '*' then unrepeated (some c) rest
    else c :: unrepeated (some c) rest

/-- The token of a character of a name pattern. -/
def nameToken (c : Char) : Token :=
  if c = '*' then .anySequence else if c = '?' then .anyChar else literal c

theorem nameToken_ne_anyParts (c : Char) : nameToken c ≠ .anyParts := by
  rw [nameToken, literal]
  split_ifs <;> simp

theorem unrepeated_cons (other : ¬ (c = '*' ∧ previous = some '*')) (rest : List Char) :
    unrepeated previous (c :: rest) = c :: unrepeated (some c) rest :=
  if_neg other

/-! ## What it stands for -/

theorem denotes_cons_unrepeated (c : Char) (text name : List Char) :
    Denotes (c :: unrepeated (some c) text) name ↔ Denotes (c :: text) name := by
  induction text generalizing c name with
  | nil => rfl
  | cons d rest ih =>
      by_cases repeated : d = '*' ∧ some c = some '*'
      · obtain ⟨rfl, same⟩ := repeated
        obtain rfl : c = '*' := Option.some.inj same
        exact (ih '*' name).trans NamePattern.denotes_star_star_iff.symm
      · rw [unrepeated_cons repeated]
        exact NamePattern.denotes_cons_congr (ih d) c name

theorem denotes_unrepeated (text name : List Char) :
    Denotes (unrepeated none text) name ↔ Denotes text name := by
  cases text with
  | nil => rfl
  | cons c rest =>
      have first : ¬ (c = '*' ∧ none = some '*') := by simp
      rw [unrepeated_cons first]
      exact denotes_cons_unrepeated c rest name

/-! ## Reading -/

theorem tokensFrom_star (alone : rest.head? ≠ some '*') (position : Nat) (before : Pattern)
    (afterSlash : Bool) :
    tokensFrom position before afterSlash ('*' :: rest) =
      tokensFrom (position + 1) (.anySequence :: before) false rest := by
  rw [tokensFrom]
  · rintro c rfl
    exact alone rfl
  · rintro c rfl
    exact alone rfl

theorem head?_guardFrom_star (text : List Char) :
    (guardFrom (some '*') text).head? ≠ some '*' := by
  induction text with
  | nil => simp [guardFrom]
  | cons c rest ih =>
      by_cases bracketed : c = '[' ∨ c = ']'
      · simp [guardFrom, bracketed]
      · by_cases star : c = '*'
        · subst star
          simpa [guardFrom] using ih
        · simp [guardFrom, bracketed, star]

/-- A character that is not left out is read as its token. -/
theorem tokensFrom_guardFrom_cons (kept : ¬ (c = '*' ∧ previous = some '*')) (position : Nat)
    (before : Pattern) (afterSlash : Bool) (rest : List Char) :
    ∃ position' afterSlash',
      tokensFrom position before afterSlash (guardFrom previous (c :: rest)) =
        tokensFrom position' (nameToken c :: before) afterSlash' (guardFrom (some c) rest) := by
  rw [guardFrom]
  by_cases bracketed : c = '[' ∨ c = ']'
  · have special : isSpecial c = true := (isSpecial_iff c).mpr (.inr (.inr bracketed))
    have token : nameToken c = .within [.single c] := by
      rcases bracketed with rfl | rfl <;> rfl
    obtain ⟨position', same⟩ := tokensFrom_bracket (bracket_special special _)
    rw [if_pos bracketed, token]
    exact ⟨position', false, same⟩
  · rw [if_neg bracketed, if_neg kept]
    by_cases star : c = '*'
    · subst star
      exact ⟨_, _, tokensFrom_star (head?_guardFrom_star rest) position before afterSlash⟩
    · by_cases any : c = '?'
      · subst any
        exact ⟨position + 1, false, by rw [List.singleton_append, tokensFrom]; rfl⟩
      · have ordinary : isSpecial c = false := by
          rw [Bool.eq_false_iff, ne_eq, isSpecial_iff]
          simp [star, any, not_or.mp bracketed]
        have token : nameToken c = .char c := by
          simp [nameToken, literal, star, any, ordinary]
        rw [token]
        exact ⟨_, _, tokensFrom_ordinary ordinary position before afterSlash _⟩

theorem tokensFrom_guardFrom (position : Nat) (before : Pattern) (afterSlash : Bool)
    (previous : Option Char) (text : List Char) :
    tokensFrom position before afterSlash (guardFrom previous text) =
      .ok (before.reverse ++ (unrepeated previous text).map nameToken) := by
  induction text generalizing position before afterSlash previous with
  | nil => rw [guardFrom, tokensFrom, unrepeated, List.map_nil, List.append_nil]
  | cons c rest ih =>
      by_cases repeated : c = '*' ∧ previous = some '*'
      · obtain ⟨rfl, rfl⟩ := repeated
        exact ih position before afterSlash (some '*')
      · obtain ⟨position', afterSlash', first⟩ :=
          tokensFrom_guardFrom_cons repeated position before afterSlash rest
        rw [first, ih, unrepeated_cons repeated, List.map_cons, List.reverse_cons,
          List.append_assoc]
        rfl

theorem ofText_guarded (pattern : String) :
    ofText (guarded pattern) = .ok ((unrepeated none pattern.toList).map nameToken) := by
  rw [ofText, guarded, String.toList_ofList]
  exact tokensFrom_guardFrom 0 [] true none pattern.toList

/-! ## Matching -/

theorem row_nameToken (c : Char) (name : List Char) (later : List Bool) :
    (nameToken c).row name later =
      if c = '*' then NamePattern.starRow later
      else if c = '?' then NamePattern.stepRow (fun _ => true) name later
      else NamePattern.stepRow (fun d => c == d) name later := by
  rw [nameToken]
  split
  · rfl
  · split
    · rfl
    · rw [row_literal]
      congr 1
      funext d
      exact Bool.beq_comm

/-- The tokens of a name pattern match what the name pattern matches. -/
theorem accepts_nameTokens (text : List Char) (name : String) :
    Pattern.accepts (text.map nameToken) name = matchesList text name.toList := by
  have rows : (text.map nameToken).foldr (fun token later => token.row name.toList later)
      (NamePattern.endRow name.toList) = matchRow name.toList text := by
    induction text with
    | nil => rfl
    | cons c rest ih => rw [List.map_cons, List.foldr_cons, ih, row_nameToken, matchRow]
  rw [Pattern.accepts, rows, matchesList]

theorem accepts_guarded_iff (pattern name : String) :
    Pattern.accepts ((unrepeated none pattern.toList).map nameToken) name = true ↔
      Denotes pattern.toList name.toList := by
  rw [accepts_nameTokens, matchesList, (NamePattern.tells_matchRow _ _).head, denotes_unrepeated]

/-- A name pattern matches exactly the names that fall into pieces for which its characters stand:
any piece for a star, one character for a question mark, and for every other character itself. The
file name pattern by way of which it may be matched is well-formed whatever characters there are and
matches the same names, and every pattern matches itself. -/
theorem guarded_faithful (pattern name : String) :
    (NamePattern.accepts pattern name = true ↔
      ∃ pieces, List.Forall₂ StandsFor pattern.toList pieces ∧ name.toList = pieces.flatten) ∧
    guardedAccepts pattern name = NamePattern.accepts pattern name ∧
    (∃ tokens, ofText (guarded pattern) = .ok tokens ∧ .anyParts ∉ tokens ∧
      tokens.accepts name = NamePattern.accepts pattern name) ∧
    NamePattern.accepts pattern pattern = true := by
  have read := ofText_guarded pattern
  have same : Pattern.accepts ((unrepeated none pattern.toList).map nameToken) name =
      NamePattern.accepts pattern name := by
    rw [Bool.eq_iff_iff, accepts_guarded_iff, NamePattern.accepts_iff_denotes]
  refine ⟨?_, ?_, ⟨_, read, ?_, same⟩, NamePattern.accepts_self pattern⟩
  · rw [NamePattern.accepts_iff_denotes, NamePattern.denotes_iff_pieces]
  · have searched : (search ((unrepeated none pattern.toList).map nameToken) name.toList == .found) =
        NamePattern.accepts pattern name := by
      rw [Bool.eq_iff_iff, beq_iff_eq, search_eq_found_iff read, same]
    rw [guardedAccepts, read]
    dsimp only
    rw [searched]
    cases wild : hasWildcard pattern.toList with
    | true => rfl
    | false => simp [NamePattern.accepts, wild]
  · intro member
    obtain ⟨c, -, parts⟩ := List.mem_map.mp member
    exact nameToken_ne_anyParts c parts

end Rehearsal.Glob
