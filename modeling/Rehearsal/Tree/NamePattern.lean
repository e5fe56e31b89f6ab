/-!
# Name patterns

A name may be given by a pattern in which `*` stands for any sequence of characters and `?` for any
single one. Every other character, brackets included, stands for itself.
-/

set_option autoImplicit false

namespace Rehearsal.NamePattern

/-- The names that a pattern stands for. -/
inductive Denotes : List Char → List Char → Prop where
  | nil : Denotes [] []
  /-- A star stands for nothing. -/
  | starNone {pattern name} : Denotes pattern name → Denotes ('*' :: pattern) name
  /-- A star stands for one more character. -/
  | starMore {pattern name} (c : Char) :
      Denotes ('*' :: pattern) name → Denotes ('*' :: pattern) (c :: name)
  | any {pattern name} (c : Char) : Denotes pattern name → Denotes ('?' :: pattern) (c :: name)
  | same {pattern name} (c : Char) : c ≠ '*' → c ≠ '?' →
      Denotes pattern name → Denotes (c :: pattern) (c :: name)

/-- Where a pattern that begins with a star matches, given where what follows the star matches: at a
position from which some later one, or the same, is such a place. A row has one entry for every
position in a name, its end included. -/
def starRow : List Bool → List Bool
  | [] => []
  | here :: later =>
    let row := starRow later
    (here || row.headD false) :: row

/-- Where a pattern that begins with a single character matches, given where what follows it
matches. -/
def stepRow (fits : Char → Bool) : List Char → List Bool → List Bool
  | c :: name, _ :: later => (fits c && later.headD false) :: stepRow fits name later
  | _, _ => [false]

/-- Where nothing more matches: at the end of the name. -/
def endRow : List Char → List Bool
  | [] => [true]
  | _ :: name => false :: endRow name

/-- At which positions of a name the rest of it is one that a pattern stands for. -/
def matchRow (name : List Char) : List Char → List Bool
  | [] => endRow name
  | c :: pattern =>
    let later := matchRow name pattern
    if c = '*' then starRow later
    else if c = '?' then stepRow (fun _ => true) name later
    else stepRow (fun d => c == d) name later

/-- Whether a name is one of those that a pattern stands for. -/
def matchesList (pattern name : List Char) : Bool :=
  (matchRow name pattern).headD false

def hasWildcard (pattern : List Char) : Bool :=
  pattern.any fun c => c = '*' || c = '?'

/-- Whether the pattern matches the name. Without a wildcard the two are compared. -/
def accepts (pattern name : String) : Bool :=
  if hasWildcard pattern.toList then matchesList pattern.toList name.toList
  else pattern == name

end Rehearsal.NamePattern
