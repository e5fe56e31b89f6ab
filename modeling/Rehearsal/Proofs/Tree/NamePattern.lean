import Mathlib.Data.List.Forall2
import Rehearsal.Tree.NamePattern
/-!
# The language of a name pattern

The matcher works out, from the end of a pattern to its beginning, at which positions of a name the
rest of the name is in the language of the rest of the pattern. So it accepts the names that the
pattern stands for and no others.
-/

set_option autoImplicit false

namespace Rehearsal.NamePattern

section

variable {pattern name : List Char} {c d : Char}

theorem denotes_nil_iff : Denotes [] name ↔ name = [] :=
  ⟨fun stands => by cases stands; rfl, fun same => same ▸ .nil⟩

theorem not_denotes_cons_nil (single : c ≠ '*') : ¬ Denotes (c :: pattern) [] := by
  intro stands
  cases stands with
  | starNone => exact single rfl

theorem denotes_star_nil_iff : Denotes ('*' :: pattern) [] ↔ Denotes pattern [] := by
  constructor
  · intro stands
    cases stands with
    | starNone rest => exact rest
  · exact .starNone

theorem denotes_star_cons_iff :
    Denotes ('*' :: pattern) (d :: name) ↔
      Denotes pattern (d :: name) ∨ Denotes ('*' :: pattern) name := by
  constructor
  · intro stands
    cases stands with
    | starNone rest => exact .inl rest
    | starMore _ rest => exact .inr rest
    | same _ single => exact absurd rfl single
  · rintro (rest | rest)
    · exact .starNone rest
    · exact .starMore d rest

theorem denotes_any_cons_iff : Denotes ('?' :: pattern) (d :: name) ↔ Denotes pattern name := by
  constructor
  · intro stands
    cases stands with
    | any _ rest => exact rest
    | same _ _ single => exact absurd rfl single
  · exact .any d

theorem denotes_same_cons_iff (noStar : c ≠ '*') (noAny : c ≠ '?') :
    Denotes (c :: pattern) (d :: name) ↔ c = d ∧ Denotes pattern name := by
  constructor
  · intro stands
    cases stands with
    | starNone => exact absurd rfl noStar
    | starMore => exact absurd rfl noStar
    | any => exact absurd rfl noAny
    | same _ _ _ rest => exact ⟨rfl, rest⟩
  · rintro ⟨rfl, rest⟩
    exact .same c noStar noAny rest

theorem denotes_star_append (piece : List Char) (stands : Denotes pattern name) :
    Denotes ('*' :: pattern) (piece ++ name) := by
  induction piece with
  | nil => exact .starNone stands
  | cons c piece ih => exact .starMore c ih

theorem denotes_star_star_iff :
    Denotes ('*' :: '*' :: pattern) name ↔ Denotes ('*' :: pattern) name := by
  refine ⟨fun stands => ?_, .starNone⟩
  induction name with
  | nil => exact denotes_star_nil_iff.mp stands
  | cons c name ih =>
      rcases denotes_star_cons_iff.mp stands with here | later
      · exact here
      · exact .starMore c (ih later)

/-- Patterns for the same names do so after a further character as well. -/
theorem denotes_cons_congr {other : List Char}
    (same : ∀ name, Denotes pattern name ↔ Denotes other name) (c : Char) (name : List Char) :
    Denotes (c :: pattern) name ↔ Denotes (c :: other) name := by
  by_cases star : c = '*'
  · subst star
    induction name with
    | nil => rw [denotes_star_nil_iff, denotes_star_nil_iff, same]
    | cons d name ih => rw [denotes_star_cons_iff, denotes_star_cons_iff, same, ih]
  · cases name with
    | nil => exact iff_of_false (not_denotes_cons_nil star) (not_denotes_cons_nil star)
    | cons d name =>
        by_cases any : c = '?'
        · subst any
          rw [denotes_any_cons_iff, denotes_any_cons_iff, same]
        · rw [denotes_same_cons_iff star any, denotes_same_cons_iff star any, same]

theorem denotes_self (pattern : List Char) : Denotes pattern pattern := by
  induction pattern with
  | nil => exact .nil
  | cons c pattern ih =>
      by_cases star : c = '*'
      · subst star
        exact .starMore '*' (.starNone ih)
      · by_cases any : c = '?'
        · subst any
          exact .any '?' ih
        · exact .same c star any ih

theorem denotes_iff_eq (plain : hasWildcard pattern = false) :
    Denotes pattern name ↔ pattern = name := by
  induction pattern generalizing name with
  | nil => rw [denotes_nil_iff, eq_comm]
  | cons c pattern ih =>
      simp only [hasWildcard, List.any_cons, Bool.or_eq_false_iff, decide_eq_false_iff_not] at plain
      obtain ⟨⟨noStar, noAny⟩, rest⟩ := plain
      cases name with
      | nil => simp [not_denotes_cons_nil noStar]
      | cons d name => rw [denotes_same_cons_iff noStar noAny, ih rest, List.cons.injEq]

/-- What a character of a pattern may stand for in a name. -/
inductive StandsFor : Char → List Char → Prop where
  | sequence (piece : List Char) : StandsFor '*' piece
  | single (c : Char) : StandsFor '?' [c]
  | itself (c : Char) : c ≠ '*' → c ≠ '?' → StandsFor c [c]

/-- A pattern stands for the names that fall into pieces for which its characters stand. -/
theorem denotes_iff_pieces :
    Denotes pattern name ↔
      ∃ pieces, List.Forall₂ StandsFor pattern pieces ∧ name = pieces.flatten := by
  constructor
  · intro stands
    induction stands with
    | nil => exact ⟨[], .nil, rfl⟩
    | starNone _ ih =>
        obtain ⟨pieces, stand, rfl⟩ := ih
        exact ⟨[] :: pieces, .cons (.sequence []) stand, rfl⟩
    | starMore c _ ih =>
        obtain ⟨_, stand, rfl⟩ := ih
        obtain ⟨piece, pieces, -, rest, rfl⟩ := List.forall₂_cons_left_iff.mp stand
        exact ⟨(c :: piece) :: pieces, .cons (.sequence _) rest, rfl⟩
    | any c _ ih =>
        obtain ⟨pieces, stand, rfl⟩ := ih
        exact ⟨[c] :: pieces, .cons (.single c) stand, rfl⟩
    | same c noStar noAny _ ih =>
        obtain ⟨pieces, stand, rfl⟩ := ih
        exact ⟨[c] :: pieces, .cons (.itself c noStar noAny) stand, rfl⟩
  · rintro ⟨pieces, stand, rfl⟩
    induction stand with
    | nil => exact .nil
    | cons stands _ ih =>
        cases stands with
        | sequence => exact denotes_star_append _ ih
        | single c => exact .any c ih
        | itself _ noStar noAny => exact .same _ noStar noAny ih

end

/-- Whether a row tells for every position in a name whether the rest of the name has a property. -/
def Tells (property : List Char → Prop) : List Char → List Bool → Prop
  | [], row => ∃ here, row = [here] ∧ (here = true ↔ property [])
  | c :: name, row =>
    ∃ here later, row = here :: later ∧ (here = true ↔ property (c :: name)) ∧
      Tells property name later

theorem Tells.head {property : List Char → Prop} {name : List Char} {row : List Bool}
    (tells : Tells property name row) : row.headD false = true ↔ property name := by
  cases name with
  | nil =>
      obtain ⟨here, rfl, told⟩ := tells
      exact told
  | cons c name =>
      obtain ⟨here, later, rfl, told, -⟩ := tells
      exact told

theorem Tells.congr {property other : List Char → Prop} (same : ∀ name, property name ↔ other name)
    {name : List Char} {row : List Bool} (tells : Tells property name row) :
    Tells other name row := by
  rwa [← funext fun name => propext (same name)]

theorem tells_endRow (name : List Char) : Tells (· = []) name (endRow name) := by
  induction name with
  | nil => exact ⟨true, rfl, by simp⟩
  | cons c name ih => exact ⟨false, _, rfl, by simp, ih⟩

section

variable {property further : List Char → Prop} {name : List Char} {row : List Bool}

theorem Tells.starRow (ends : further [] ↔ property [])
    (goesOn : ∀ c rest, further (c :: rest) ↔ property (c :: rest) ∨ further rest)
    (tells : Tells property name row) : Tells further name (starRow row) := by
  induction name generalizing row with
  | nil =>
      obtain ⟨here, rfl, told⟩ := tells
      exact ⟨here, by simp [NamePattern.starRow], by rw [told, ends]⟩
  | cons c name ih =>
      obtain ⟨here, later, rfl, told, after⟩ := tells
      refine ⟨_, _, rfl, ?_, ih after⟩
      rw [Bool.or_eq_true, told, (ih after).head, goesOn]

theorem Tells.stepRow {fits : Char → Bool} (ends : ¬further [])
    (reads : ∀ c rest, further (c :: rest) ↔ fits c = true ∧ property rest)
    (tells : Tells property name row) : Tells further name (stepRow fits name row) := by
  induction name generalizing row with
  | nil => exact ⟨false, rfl, by simp [ends]⟩
  | cons c name ih =>
      obtain ⟨here, later, rfl, -, after⟩ := tells
      refine ⟨_, _, rfl, ?_, ih after⟩
      rw [Bool.and_eq_true, after.head, reads]

end

theorem tells_matchRow (pattern name : List Char) :
    Tells (Denotes pattern) name (matchRow name pattern) := by
  induction pattern with
  | nil => exact (tells_endRow name).congr fun _ => denotes_nil_iff.symm
  | cons c pattern ih =>
      rw [matchRow]
      by_cases star : c = '*'
      · subst star
        simpa using ih.starRow denotes_star_nil_iff fun _ _ => denotes_star_cons_iff
      · have ends : ¬Denotes (c :: pattern) [] := not_denotes_cons_nil star
        by_cases any : c = '?'
        · subst any
          simpa using ih.stepRow ends fun d rest => by simp [denotes_any_cons_iff]
        · simpa [star, any] using ih.stepRow ends fun d rest => by
            simp [denotes_same_cons_iff star any]

theorem accepts_iff_denotes (pattern name : String) :
    accepts pattern name = true ↔ Denotes pattern.toList name.toList := by
  rw [accepts]
  cases wild : hasWildcard pattern.toList with
  | true =>
      rw [if_pos rfl, matchesList]
      exact (tells_matchRow pattern.toList name.toList).head
  | false => simp [denotes_iff_eq wild, String.toList_inj]

theorem accepts_self (pattern : String) : accepts pattern pattern = true :=
  (accepts_iff_denotes pattern pattern).mpr (denotes_self _)

theorem accepts_iff_eq {pattern : String} (plain : hasWildcard pattern.toList = false)
    (name : String) : accepts pattern name = true ↔ pattern = name := by
  rw [accepts_iff_denotes, denotes_iff_eq plain, String.toList_inj]

end Rehearsal.NamePattern
