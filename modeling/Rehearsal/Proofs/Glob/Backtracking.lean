import Mathlib.Data.List.Chain
import Mathlib.Data.List.Infix
import Rehearsal.Proofs.Tree.NamePattern
import Rehearsal.Glob.Pattern
/-!
# Matching by search

A pattern may be matched from its beginning: a token that may lead to several places of a name is
tried with one after the other. The search gives up altogether once the name is too short from some
place on, for it will be too short at every later one. As `**` stands only where a part of a path
may begin, no match is missed by that.
-/

set_option autoImplicit false

namespace Rehearsal.Glob

open NamePattern (Tells)

/-! ## Places -/

/-- What is left of a name after each of its slashes and at its end. -/
def partPlaces : List Char → List (List Char)
  | [] => [[]]
  | c :: name => if c = '/' then name :: partPlaces name else partPlaces name

namespace Token

/-- Whether a token stands for a character. -/
def reads : Token → Char → Bool
  | .char c, d => d == c
  | .anyChar, _ => true
  | .anySequence, _ => false
  | .anyParts, _ => false
  | .within ranges, c => ranges.any (·.holds c)
  | .except ranges, c => !ranges.any (·.holds c)

def isSingle : Token → Bool
  | .anySequence => false
  | .anyParts => false
  | _ => true

/-- What a token may leave of a name. -/
def places (token : Token) (name : List Char) : List (List Char) :=
  match token, name with
  | .anySequence, name => name.tails
  | .anyParts, name => name :: partPlaces name
  | _, [] => []
  | token, c :: rest => if token.reads c then [rest] else []

end Token

/-- Whether a pattern matches a name. -/
def Matches : Pattern → List Char → Prop
  | [], name => name = []
  | token :: rest, name => ∃ place ∈ token.places name, Matches rest place

/-! ## Searching -/

/-- What the search for a match at some place comes to. -/
inductive Verdict where
  | found
  | notHere
  /-- There is no match here and none further on. -/
  | nowhere
  deriving DecidableEq, Repr

/-- Tries one place after the other until one of them decides. -/
def tryEach (attempt : List Char → Verdict) : List (List Char) → Verdict
  | [] => .notHere
  | place :: later =>
    match attempt place with
    | .notHere => tryEach attempt later
    | verdict => verdict

/-- Searches for a match from the beginning of a name. A single character that is wanted where the
name has ended is wanted in vain further on as well. -/
def search : Pattern → List Char → Verdict
  | [], name => if name = [] then .found else .notHere
  | token :: rest, name =>
    if token.isSingle && name.isEmpty then .nowhere
    else tryEach (search rest) (token.places name)

/-- Tokens between which `**` stands only where a part of a path may begin. -/
def Placed (pattern : Pattern) : Prop :=
  pattern.IsChain fun token next => next = .anyParts → token = .char '/' ∨ token = .anyParts

/-- The places of a name at which a pattern may come to be tried after it has been tried at its
beginning. -/
def reach : Pattern → List Char → List (List Char)
  | .anyParts :: _, name => name :: partPlaces name
  | _, name => name.tails

/-! ## Places further on -/

variable {name place later : List Char} {token : Token} {pattern rest : Pattern}

theorem suffix_of_mem_partPlaces (member : place ∈ partPlaces name) : place <:+ name := by
  induction name with
  | nil =>
      rw [List.mem_singleton.mp member]
  | cons c name ih =>
      rw [partPlaces] at member
      split at member
      · rcases List.mem_cons.mp member with rfl | further
        · exact List.suffix_cons c place
        · exact (ih further).trans (List.suffix_cons c name)
      · exact (ih member).trans (List.suffix_cons c name)

theorem mem_partPlaces_of_slash (after : '/' :: place <:+ name) : place ∈ partPlaces name := by
  induction name with
  | nil => cases List.suffix_nil.mp after
  | cons c name ih =>
      rw [partPlaces]
      rcases List.suffix_cons_iff.mp after with same | further
      · cases same
        exact List.mem_cons_self
      · split
        · exact List.mem_cons_of_mem _ (ih further)
        · exact ih further

theorem partPlaces_trans (member : place ∈ partPlaces name) (further : later ∈ partPlaces place) :
    later ∈ partPlaces name := by
  induction name with
  | nil =>
      rw [List.mem_singleton.mp member] at further
      exact further
  | cons c name ih =>
      rw [partPlaces] at member ⊢
      split at member <;> rename_i slash
      · rw [if_pos slash]
        rcases List.mem_cons.mp member with rfl | member
        · exact List.mem_cons_of_mem _ further
        · exact List.mem_cons_of_mem _ (ih member)
      · rw [if_neg slash]
        exact ih member

theorem partPlaces_nested (name : List Char) :
    (name :: partPlaces name).Pairwise fun earlier later => later ∈ partPlaces earlier := by
  induction name with
  | nil => simp [partPlaces]
  | cons c name ih =>
      refine List.pairwise_cons.mpr ⟨fun _ => id, ?_⟩
      rw [partPlaces]
      split
      · exact ih
      · exact (List.pairwise_cons.mp ih).2

theorem tails_nested (name : List Char) :
    name.tails.Pairwise fun earlier later => later ∈ earlier.tails := by
  induction name with
  | nil => simp
  | cons c name ih =>
      rw [List.tails_cons]
      refine List.pairwise_cons.mpr ⟨fun place member => ?_, ih⟩
      exact List.mem_cons_of_mem _ member

theorem mem_reach_of_part (pattern : Pattern) (member : place ∈ partPlaces name) :
    place ∈ reach pattern name := by
  rw [reach.eq_def]
  split
  · exact List.mem_cons_of_mem _ member
  · exact (List.mem_tails _ _).mpr (suffix_of_mem_partPlaces member)

theorem reach_of_plain (plain : pattern.head? ≠ some .anyParts) (name : List Char) :
    reach pattern name = name.tails := by
  rw [reach.eq_def]
  split
  · exact absurd rfl plain
  · rfl

theorem self_mem_reach (pattern : Pattern) (name : List Char) : name ∈ reach pattern name := by
  rw [reach.eq_def]
  split
  · exact List.mem_cons_self
  · exact (List.mem_tails _ _).mpr List.suffix_rfl

/-! ## One token -/

theorem Token.sequence_or_parts_or_single (token : Token) :
    token = .anySequence ∨ token = .anyParts ∨ token.isSingle = true := by
  cases token <;> simp [isSingle]

theorem Token.places_single_nil (single : token.isSingle = true) : token.places [] = [] := by
  cases token <;> first | rfl | cases single

theorem Token.places_single_cons (single : token.isSingle = true) (c : Char) (name : List Char) :
    token.places (c :: name) = if token.reads c then [name] else [] := by
  cases token <;> first | rfl | cases single

theorem Placed.plain (placed : Placed (token :: rest)) (noSlash : token ≠ .char '/')
    (noParts : token ≠ .anyParts) : rest.head? ≠ some .anyParts := by
  intro parts
  rcases placed.rel_head? parts rfl with slash | before
  · exact noSlash slash
  · exact noParts before

/-- What follows a token is tried only at places that it has reached. -/
theorem places_nested (placed : Placed (token :: rest)) (name : List Char) :
    (token.places name).Pairwise fun earlier later => later ∈ reach rest earlier := by
  rcases token.sequence_or_parts_or_single with rfl | rfl | single
  · refine (tails_nested name).imp fun {earlier later} member => ?_
    rwa [reach_of_plain (placed.plain (by simp) (by simp))]
  · exact (partPlaces_nested name).imp (mem_reach_of_part rest)
  · cases name with
    | nil => simp [Token.places_single_nil single]
    | cons c name =>
        rw [Token.places_single_cons single]
        split <;> simp

theorem mem_places_of_reach (several : token.isSingle = false)
    (member : place ∈ reach (token :: rest) name) (further : later ∈ token.places place) :
    later ∈ token.places name := by
  rcases token.sequence_or_parts_or_single with rfl | rfl | single
  · exact (List.mem_tails _ _).mpr
      (((List.mem_tails _ _).mp further).trans ((List.mem_tails _ _).mp member))
  · rcases List.mem_cons.mp member with rfl | member
    · exact further
    · rcases List.mem_cons.mp further with rfl | further
      · exact List.mem_cons_of_mem _ member
      · exact List.mem_cons_of_mem _ (partPlaces_trans member further)
  · cases several.symm.trans single

/-- Where a token reads a character further on, what follows it is at a place that is reached after
an earlier character. -/
theorem mem_reach_of_read {d : Char} (placed : Placed (token :: rest))
    (single : token.isSingle = true) (further : d :: later <:+ name) (read : token.reads d = true) :
    later ∈ reach rest name := by
  by_cases slash : token = .char '/'
  · subst slash
    obtain rfl : d = '/' := by simpa [Token.reads] using read
    exact mem_reach_of_part rest (mem_partPlaces_of_slash further)
  · have noParts : token ≠ .anyParts := by
      rintro rfl
      cases single
    rw [reach_of_plain (placed.plain slash noParts)]
    exact (List.mem_tails _ _).mpr ((List.suffix_cons d later).trans further)

/-! ## The search -/

/-- Giving up early misses no match if an attempt that gives up speaks for all later places. -/
theorem tryEach_eq_found_iff {attempt : List Char → Verdict}
    {reached : List Char → List (List Char)}
    {property : List Char → Prop} {places : List (List Char)}
    (nested : places.Pairwise fun earlier later => later ∈ reached earlier)
    (found : ∀ place, attempt place = .found ↔ property place)
    (nowhere : ∀ place, attempt place = .nowhere → ∀ later ∈ reached place, ¬ property later) :
    tryEach attempt places = .found ↔ ∃ place ∈ places, property place := by
  induction places with
  | nil => simp [tryEach]
  | cons place places ih =>
      obtain ⟨within, nested⟩ := List.pairwise_cons.mp nested
      rw [tryEach, List.exists_mem_cons_iff, ← found]
      cases tried : attempt place with
      | found => simp
      | notHere => simp [ih nested]
      | nowhere =>
          have nothing : ¬ ∃ later ∈ places, property later :=
            fun ⟨later, member, holds⟩ => nowhere place tried later (within later member) holds
          simp [nothing]

/-- One attempt after which nothing is tried has given up. -/
theorem nowhere_of_tryEach_singleton {attempt : List Char → Verdict}
    (gaveUp : tryEach attempt [place] = .nowhere) : attempt place = .nowhere := by
  rw [tryEach] at gaveUp
  split at gaveUp
  · cases gaveUp
  · exact gaveUp

theorem search_single_nil (single : token.isSingle = true) :
    search (token :: rest) [] = .nowhere := by
  simp [search, single]

theorem search_cons (long : token.isSingle = false ∨ name ≠ []) :
    search (token :: rest) name = tryEach (search rest) (token.places name) := by
  rw [search, if_neg]
  rcases long with several | long
  · simp [several]
  · simp [long]

theorem not_matches_single_nil (single : token.isSingle = true) : ¬ Matches (token :: rest) [] := by
  simp [Matches, Token.places_single_nil single]

theorem not_matches_of_single {c : Char} (placed : Placed (token :: rest))
    (single : token.isSingle = true)
    (gaveUp : tryEach (search rest) (token.places (c :: name)) = .nowhere)
    (nowhere : search rest name = .nowhere → ∀ place ∈ reach rest name, ¬ Matches rest place)
    (member : place <:+ c :: name) : ¬ Matches (token :: rest) place := by
  rw [Token.places_single_cons single] at gaveUp
  split at gaveUp
  · cases place with
    | nil => exact not_matches_single_nil single
    | cons d later =>
        rintro ⟨further, reached, matched⟩
        rw [Token.places_single_cons single] at reached
        split at reached <;> rename_i read
        · obtain rfl : further = later := List.mem_singleton.mp reached
          -- What follows the character further on was in reach of the attempt that gave up.
          refine nowhere (nowhere_of_tryEach_singleton gaveUp) _ ?_ matched
          rcases List.suffix_cons_iff.mp member with same | earlier
          · cases same
            exact self_mem_reach rest _
          · exact mem_reach_of_read placed single earlier read
        · cases reached
  · cases gaveUp

/-- A search finds a match exactly when there is one, and one that gives up has missed none. -/
theorem search_spec (placed : Placed pattern) (name : List Char) :
    (search pattern name = .found ↔ Matches pattern name) ∧
      (search pattern name = .nowhere → ∀ place ∈ reach pattern name, ¬ Matches pattern place) := by
  induction pattern generalizing name with
  | nil =>
      rw [search, Matches]
      split <;> simp [*]
  | cons token rest ih =>
      have spec := ih placed.tail
      have tried := tryEach_eq_found_iff (places_nested placed name) (fun place => (spec place).1)
        (fun place => (spec place).2)
      cases several : token.isSingle with
      | false =>
          rw [search_cons (.inl several)]
          refine ⟨tried, fun gaveUp place member => ?_⟩
          rintro ⟨later, further, matched⟩
          have there := tried.mpr ⟨later, mem_places_of_reach several member further, matched⟩
          cases gaveUp.symm.trans there
      | true =>
          have plain : (token :: rest).head? ≠ some .anyParts := by
            rintro parts
            cases parts
            cases several
          rw [reach_of_plain plain]
          cases name with
          | nil =>
              rw [search_single_nil several]
              refine ⟨iff_of_false (by simp) (not_matches_single_nil several), fun _ => ?_⟩
              simpa using not_matches_single_nil several
          | cons c name =>
              rw [search_cons (.inr (by simp))]
              refine ⟨tried, fun gaveUp place member => ?_⟩
              exact not_matches_of_single placed several gaveUp (spec name).2
                ((List.mem_tails _ _).mp member)

/-! ## What the rows tell -/

theorem exists_partPlaces_cons (c : Char) (property : List Char → Prop) :
    (∃ place ∈ partPlaces (c :: name), property place) ↔
      (c = '/' ∧ property name) ∨ ∃ place ∈ partPlaces name, property place := by
  rw [partPlaces]
  split <;> simp [*]

theorem tells_laterParts {property : List Char → Prop} {row : List Bool}
    (tells : Tells property name row) :
    Tells (fun name => ∃ place ∈ partPlaces name, property place) name (laterParts name row) := by
  induction name generalizing row with
  | nil =>
      obtain ⟨here, rfl, told⟩ := tells
      exact ⟨here, rfl, by simp [partPlaces, told]⟩
  | cons c name ih =>
      obtain ⟨here, later, rfl, -, after⟩ := tells
      refine ⟨_, _, rfl, ?_, ih after⟩
      rw [Bool.or_eq_true, Bool.and_eq_true, after.head, (ih after).head, decide_eq_true_eq]
      exact (exists_partPlaces_cons c property).symm

theorem tells_or {property other : List Char → Prop} {row further : List Bool}
    (tells : Tells property name row) (tellsOther : Tells other name further) :
    Tells (fun name => property name ∨ other name) name (List.zipWith (· || ·) row further) := by
  induction name generalizing row further with
  | nil =>
      obtain ⟨here, rfl, told⟩ := tells
      obtain ⟨there, rfl, toldOther⟩ := tellsOther
      exact ⟨_, rfl, by rw [Bool.or_eq_true, told, toldOther]⟩
  | cons c name ih =>
      obtain ⟨here, later, rfl, told, after⟩ := tells
      obtain ⟨there, laterOther, rfl, toldOther, afterOther⟩ := tellsOther
      exact ⟨_, _, rfl, by rw [Bool.or_eq_true, told, toldOther], ih after afterOther⟩

theorem matches_sequence_cons_iff (c : Char) :
    Matches (.anySequence :: rest) (c :: name) ↔
      Matches rest (c :: name) ∨ Matches (.anySequence :: rest) name := by
  simp only [Matches, Token.places, List.tails_cons, List.exists_mem_cons_iff]

theorem matches_single_cons_iff (single : token.isSingle = true) (c : Char) :
    Matches (token :: rest) (c :: name) ↔ token.reads c = true ∧ Matches rest name := by
  rw [Matches, Token.places_single_cons single]
  split <;> simp [*]

theorem Token.row_single (single : token.isSingle = true) (name : List Char) (later : List Bool) :
    token.row name later = NamePattern.stepRow token.reads name later := by
  cases token <;> first | rfl | cases single

theorem tells_row {row : List Bool} (token : Token) (tells : Tells (Matches rest) name row) :
    Tells (Matches (token :: rest)) name (token.row name row) := by
  rcases token.sequence_or_parts_or_single with rfl | rfl | single
  · refine tells.starRow ?_ fun c name => matches_sequence_cons_iff c
    simp [Matches, Token.places]
  · refine (tells_or tells (tells_laterParts tells)).congr fun name => ?_
    rw [Matches, Token.places, List.exists_mem_cons_iff]
  · rw [Token.row_single single]
    exact tells.stepRow (not_matches_single_nil single) fun c name =>
      matches_single_cons_iff single c

theorem tells_rows (pattern : Pattern) (name : List Char) :
    Tells (Matches pattern) name
      (pattern.foldr (fun token later => token.row name later) (NamePattern.endRow name)) := by
  induction pattern with
  | nil => exact NamePattern.tells_endRow name
  | cons token rest ih => exact tells_row token ih

theorem accepts_iff_matches (pattern : Pattern) (name : String) :
    pattern.accepts name = true ↔ Matches pattern name.toList :=
  (tells_rows pattern name.toList).head

/-! ## Patterns that can be read -/

/-- What has been read of a pattern, the last token first, given whether a part of a path may begin
after it. -/
structure ReadSoFar (before : Pattern) (afterSlash : Bool) : Prop where
  placed : Placed before.reverse
  ends : afterSlash = true → ∀ last ∈ before.head?, last = .char '/' ∨ last = .anyParts

theorem placed_push {before : Pattern} (placed : Placed before.reverse)
    (may : token = .anyParts → ∀ last ∈ before.head?, last = .char '/' ∨ last = .anyParts) :
    Placed (token :: before).reverse := by
  rw [Placed, List.isChain_reverse] at placed ⊢
  exact placed.cons fun last present parts => may parts last present

theorem ReadSoFar.push {before : Pattern} {afterSlash slash : Bool}
    (soFar : ReadSoFar before afterSlash) (noParts : token ≠ .anyParts)
    (ends : slash = true → token = .char '/') : ReadSoFar (token :: before) slash where
  placed := placed_push soFar.placed fun parts => absurd parts noParts
  ends := by
    rintro after last present
    obtain rfl : token = last := Option.some.inj present
    exact .inl (ends after)

theorem ReadSoFar.push_parts {before : Pattern} (soFar : ReadSoFar before true) :
    ReadSoFar (.anyParts :: before) true where
  placed := placed_push soFar.placed fun _ => soFar.ends rfl
  ends := by
    rintro - last present
    obtain rfl : .anyParts = last := Option.some.inj present
    exact .inr rfl

theorem readSoFar_next (before : Pattern) : ReadSoFar before true →
    ReadSoFar (match before with | .anyParts :: _ :: _ => before | _ => .anyParts :: before)
      true := by
  intro soFar
  split
  · exact soFar
  · exact soFar.push_parts

theorem bracket_ne_anyParts {text after : List Char} (read : bracket text = some (token, after)) :
    token ≠ .anyParts := by
  rintro rfl
  unfold bracket at read
  split at read
  · obtain ⟨_, -, parts⟩ := Option.map_eq_some_iff.mp read
    cases parts
  · cases read
  · obtain ⟨_, -, parts⟩ := Option.map_eq_some_iff.mp read
    cases parts
  · cases read

theorem placed_of_tokensFrom {position : Nat} {before : Pattern} {afterSlash : Bool}
    {text : List Char} (soFar : ReadSoFar before afterSlash)
    (read : tokensFrom position before afterSlash text = .ok pattern) : Placed pattern := by
  fun_induction tokensFrom position before afterSlash text with
  | case1 =>
      cases read
      exact soFar.placed
  | case2 position before afterSlash rest ih => exact ih (soFar.push (by simp) (by simp)) read
  | case3 => cases read
  | case4 position before _ next =>
      cases read
      exact (readSoFar_next _ soFar).placed
  | case5 position before next rest _ ih => exact ih (readSoFar_next _ soFar) read
  | case6 => cases read
  | case7 => cases read
  | case8 position before afterSlash rest _ _ ih => exact ih (soFar.push (by simp) (by simp)) read
  | case9 position before afterSlash rest token after inside ih =>
      exact ih (soFar.push (bracket_ne_anyParts inside) (by simp)) read
  | case10 => cases read
  | case11 position before afterSlash c rest _ _ _ _ _ ih =>
      exact ih (soFar.push (by simp) (by simp)) read

theorem placed_of_ofText {text : String} (read : ofText text = .ok pattern) : Placed pattern := by
  have nothing : ReadSoFar [] true := ⟨.nil, by simp⟩
  exact placed_of_tokensFrom nothing read

/-- Searching for a match comes to the same as working out where there are matches. -/
theorem search_eq_found_iff {text : String} (read : ofText text = .ok pattern) (name : String) :
    search pattern name.toList = .found ↔ pattern.accepts name = true := by
  rw [accepts_iff_matches]
  exact (search_spec (placed_of_ofText read) name.toList).1

end Rehearsal.Glob
