import Rehearsal.Tree.NamePattern
/-!
# File name patterns

Patterns with sets of characters in brackets and with `**`, which stands for whole parts of a path.
A pattern may be malformed. Case matters, and without `**` a slash is a character like others.
-/

set_option autoImplicit false

namespace Rehearsal.Glob

inductive Range where
  | single (c : Char)
  | span (first last : Char)
  deriving DecidableEq, Repr

inductive Token where
  | char (c : Char)
  | anyChar
  | anySequence
  /-- Whole parts of a path, with the slashes after them; the last part needs none. -/
  | anyParts
  | within (ranges : List Range)
  | except (ranges : List Range)
  deriving DecidableEq, Repr

abbrev Pattern := List Token

/-- Why a text is no pattern. -/
inductive FaultKind where
  | wildcards
  | partWildcards
  | range
  deriving DecidableEq, Repr

/-- A fault and the number of characters before it. -/
structure Fault where
  position : Nat
  kind : FaultKind
  deriving DecidableEq, Repr

def Fault.message (fault : Fault) : String :=
  let reason := match fault.kind with
    | .wildcards => "wildcards are either regular `*` or recursive `**`"
    | .partWildcards => "recursive wildcards must form a single path component"
    | .range => "invalid range pattern"
  s!"Pattern syntax error near position {fault.position}: {reason}"

/-! ## Reading -/

/-- The ranges of the characters in brackets. A hyphen between two characters spans a range. -/
def ranges : List Char → List Range
  | [] => []
  | first :: '-' :: last :: rest => .span first last :: ranges rest
  | c :: rest => .single c :: ranges rest

/-- Cuts at the first closing bracket. -/
def cutBracket : List Char → Option (List Char × List Char)
  | [] => none
  | c :: rest =>
    if c = ']' then some ([], rest)
    else (cutBracket rest).map fun (inside, after) => (c :: inside, after)

/-- What is left after the first closing bracket is shorter. -/
theorem length_of_cutBracket {text inside after : List Char}
    (cut : cutBracket text = some (inside, after)) : after.length < text.length := by
  induction text generalizing inside with
  | nil => simp [cutBracket] at cut
  | cons c rest ih =>
    simp only [cutBracket] at cut
    split at cut
    · simp only [Option.some.injEq, Prod.mk.injEq] at cut
      simp [cut.2]
    · obtain ⟨⟨inner, left⟩, found, same⟩ := Option.map_eq_some_iff.1 cut
      simp only [Prod.mk.injEq] at same
      have shorter := ih (same.2 ▸ found)
      simp only [List.length_cons]
      omega

/-- A set of characters after its opening bracket: the token and what follows it. The first
character inside belongs to the set even if it is a bracket. -/
def bracket : List Char → Option (Token × List Char)
  | '!' :: first :: rest =>
    (cutBracket rest).map fun (inside, after) => (.except (ranges (first :: inside)), after)
  | '!' :: [] => none
  | first :: rest =>
    (cutBracket rest).map fun (inside, after) => (.within (ranges (first :: inside)), after)
  | [] => none

theorem length_of_bracket {text after : List Char} {token : Token}
    (read : bracket text = some (token, after)) : after.length < text.length := by
  unfold bracket at read
  split at read <;> try contradiction
  all_goals
    obtain ⟨⟨inside, left⟩, cut, same⟩ := Option.map_eq_some_iff.1 read
    have shorter := length_of_cutBracket cut
    simp only [Prod.mk.injEq] at same
    simp only [List.length_cons, ← same.2]
    omega

/-- Reads the text of a pattern from a position on. `afterSlash` says whether a part of a path may
begin here, and `parts` how a `**` that follows is told: not at all right after another one, unless
that one began the pattern. -/
def tokensFrom (position : Nat) (before : Pattern) (afterSlash : Bool) (text : List Char) :
    Except Fault Pattern :=
  match text with
  | [] => .ok before.reverse
  | '?' :: rest => tokensFrom (position + 1) (.anyChar :: before) false rest
  | '*' :: '*' :: '*' :: _ => .error ⟨position + 2, .wildcards⟩
  | '*' :: '*' :: rest =>
    if afterSlash then
      let next := match before with
        | .anyParts :: _ :: _ => before
        | _ => .anyParts :: before
      match rest with
      | [] => .ok next.reverse
      | c :: more =>
        if c = '/' then tokensFrom (position + 3) next true more
        else .error ⟨position + 2, .partWildcards⟩
    else .error ⟨position - 1, .partWildcards⟩
  | '*' :: rest => tokensFrom (position + 1) (.anySequence :: before) false rest
  | '[' :: rest =>
    match read : bracket rest with
    | some (token, after) =>
      tokensFrom (position + 1 + (rest.length - after.length)) (token :: before) false after
    | none => .error ⟨position, .range⟩
  | c :: rest => tokensFrom (position + 1) (.char c :: before) (c = '/') rest
termination_by text.length
decreasing_by
  all_goals try simp only [List.length_cons]
  all_goals try omega
  have shorter := length_of_bracket read
  omega

/-- The pattern that a text stands for. -/
def ofText (text : String) : Except Fault Pattern := tokensFrom 0 [] true text.toList

/-! ## Matching -/

def Range.holds (range : Range) (c : Char) : Bool :=
  match range with
  | .single only => c == only
  | .span first last => first ≤ c && c ≤ last

/-- At which positions some later position is one of a row, among those right after a slash and the
end of the name. -/
def laterParts : List Char → List Bool → List Bool
  | c :: name, _ :: later =>
    let row := laterParts name later
    ((c = '/' && later.headD false) || row.headD false) :: row
  | _, later => [later.headD false]

/-- At which positions of a name the rest matches, given where it matches what follows a token. -/
def Token.row (name : List Char) (later : List Bool) : Token → List Bool
  | .char c => NamePattern.stepRow (· == c) name later
  | .anyChar => NamePattern.stepRow (fun _ => true) name later
  | .anySequence => NamePattern.starRow later
  | .anyParts => List.zipWith (· || ·) later (laterParts name later)
  | .within ranges => NamePattern.stepRow (fun c => ranges.any (·.holds c)) name later
  | .except ranges => NamePattern.stepRow (fun c => !ranges.any (·.holds c)) name later

def Pattern.accepts (pattern : Pattern) (name : String) : Bool :=
  (pattern.foldr (fun token later => token.row name.toList later)
    (NamePattern.endRow name.toList)).headD false

/-- Writes a character so that it stands for itself. -/
def escapeChar (c : Char) : List Char :=
  if c = '?' || c = '*' || c = '[' || c = ']' then ['[', c, ']'] else [c]

/-- The pattern of a text in which every character stands for itself. -/
def escape (text : String) : String :=
  String.ofList (text.toList.flatMap escapeChar)

end Rehearsal.Glob
