import Rehearsal.Json.Doc
/-!
# Identifiers

The 128-bit identifiers of trail entries: 32 hexadecimal digits, written in five groups.
-/

set_option autoImplicit false

namespace Rehearsal

/-- An identifier, given by its hexadecimal digits. -/
structure Identifier where
  digits : List Nat
  deriving DecidableEq, Repr

namespace Identifier

def groupSizes : List Nat := [8, 4, 4, 4, 12]

def grouped : List Nat → List Char → List Char
  | [], _ => []
  | [size], digits => digits.take size
  | size :: next :: sizes, digits =>
    digits.take size ++ '-' :: grouped (next :: sizes) (digits.drop size)

def text (identifier : Identifier) : String :=
  String.ofList (grouped groupSizes (identifier.digits.map Nat.digitChar))

inductive Fault where
  /-- A character stands at `offset` that is no hexadecimal digit. -/
  | badCharacter (c : Char) (offset : Nat)
  /-- Without hyphens, there are not 32 digits. -/
  | badLength (length : Nat)
  /-- There are not five groups. -/
  | badGroupCount (count : Nat)
  | badGroupLength (group expected length : Nat)
  deriving DecidableEq, Repr

def Fault.message : Fault → String
  | .badCharacter c offset => s!"invalid character: found `{c}` at {offset}"
  | .badLength length => s!"invalid length: expected length 32 for simple format, found {length}"
  | .badGroupCount count => s!"invalid group count: expected 5, found {count}"
  | .badGroupLength group expected length =>
    s!"invalid group length in group {group}: expected {expected}, found {length}"

/-- The digits of a text without hyphens. -/
def plainDigits? : List Char → Option (List Nat)
  | [] => some []
  | c :: rest =>
    match Json.hexValue? c with
    | some digit => (plainDigits? rest).map (digit :: ·)
    | none => none

def groupedDigits? : List Nat → List Char → Option (List Nat)
  | [], text => if text.isEmpty then some [] else none
  | [size], text => if text.length = size then plainDigits? text else none
  | size :: next :: sizes, text =>
    match plainDigits? (text.take size), text.drop size with
    | some front, '-' :: rest => (groupedDigits? (next :: sizes) rest).map (front ++ ·)
    | _, _ => none

def urn : List Char := "urn:uuid:".toList

/-- Takes off the braces or the scheme around an identifier, and says how long what stood in front
was. Without any, the identifier may also be written without hyphens. -/
def unwrap (text : List Char) : List Char × Nat × Bool :=
  match text with
  | '\x7b' :: rest =>
    if 2 ≤ text.length && text.getLast? == some '\x7d' then (rest.dropLast, 1, false)
    else (text, 0, true)
  | _ =>
    if urn.isPrefixOf text then (text.drop urn.length, urn.length, false) else (text, 0, true)

/-- The first character that is neither a digit nor a hyphen, with its offset in bytes. -/
def strayCharacter? : Nat → List Char → Option (Char × Nat)
  | _, [] => none
  | offset, c :: rest =>
    if c = '-' || (Json.hexValue? c).isSome then strayCharacter? (offset + c.utf8Size) rest
    else some (c, offset)

/-- The offsets of the hyphens. -/
def hyphens : Nat → List Char → List Nat
  | _, [] => []
  | offset, c :: rest =>
    if c = '-' then offset :: hyphens (offset + 1) rest else hyphens (offset + 1) rest

/-- The first group that does not end where it should: `start` is where it begins. -/
def badGroup (total group start : Nat) : List Nat → List Nat → Fault
  | size :: sizes, hyphen :: more =>
    if hyphen = start + size then badGroup total (group + 1) (start + size + 1) sizes more
    else .badGroupLength group size (hyphen - start)
  | size :: _, [] => .badGroupLength group size (total - start)
  | [], _ => .badGroupCount group

def faultOf (text : List Char) : Fault :=
  let (body, offset, plain) := unwrap text
  match strayCharacter? offset body with
  | some (c, place) => .badCharacter c place
  | none =>
    let places := hyphens 0 body
    if places.isEmpty && plain then .badLength text.length
    else if places.length ≠ 4 then .badGroupCount (places.length + 1)
    else badGroup text.length 0 0 groupSizes places

/-- Reads an identifier: 32 digits, or five groups that may stand in braces or after a scheme. -/
def ofText (text : String) : Except Fault Identifier :=
  let characters := text.toList
  let (body, _, plain) := unwrap characters
  let digits? :=
    if plain && characters.length = 32 then plainDigits? characters
    else groupedDigits? groupSizes body
  match digits? with
  | some digits => .ok ⟨digits⟩
  | none => .error (faultOf characters)

end Identifier

end Rehearsal
