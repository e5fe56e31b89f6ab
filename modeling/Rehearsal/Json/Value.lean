/-!
# JSON values and their written form

The values that messages, trails and settings are made of, and their two written forms: compact,
on one line without spaces, and indented by two spaces per level. Numbers are natural, for no
message holds another kind.
-/

set_option autoImplicit false

namespace Rehearsal.Json

/-- A JSON value; an object keeps its members in the order they are written in. -/
inductive Value where
  | null
  | bool (value : Bool)
  | number (value : Nat)
  | string (text : String)
  | array (items : List Value)
  | object (members : List (String × Value))
  deriving Repr, Inhabited

/-- A character of a string literal: quotes, backslashes and control characters below U+0020 are
escaped, by a letter where there is one. -/
def escapeChar (c : Char) : List Char :=
  if c = '"' then ['\\', '"']
  else if c = '\\' then ['\\', '\\']
  else if c = '\x08' then ['\\', 'b']
  else if c = '\x0c' then ['\\', 'f']
  else if c = '\n' then ['\\', 'n']
  else if c = '\r' then ['\\', 'r']
  else if c = '\t' then ['\\', 't']
  else if c.toNat < 0x20 then
    ['\\', 'u', '0', '0', Nat.digitChar (c.toNat / 16), Nat.digitChar (c.toNat % 16)]
  else [c]

def literal (text : String) : List Char :=
  '"' :: text.toList.flatMap escapeChar ++ ['"']

def numeral (value : Nat) : List Char :=
  Nat.toDigits 10 value

mutual

def Value.compactList : Value → List Char
  | .null => ['n', 'u', 'l', 'l']
  | .bool true => ['t', 'r', 'u', 'e']
  | .bool false => ['f', 'a', 'l', 's', 'e']
  | .number value => numeral value
  | .string text => literal text
  | .array items => '[' :: compactItems items ++ [']']
  | .object members => '\x7b' :: compactMembers members ++ ['\x7d']

def compactItems : List Value → List Char
  | [] => []
  | [item] => item.compactList
  | item :: next :: rest => item.compactList ++ ',' :: compactItems (next :: rest)

def compactMembers : List (String × Value) → List Char
  | [] => []
  | [(key, value)] => literal key ++ ':' :: value.compactList
  | (key, value) :: next :: rest =>
    literal key ++ ':' :: value.compactList ++ ',' :: compactMembers (next :: rest)

end

def Value.compact (value : Value) : String :=
  String.ofList value.compactList

def newline (level : Nat) : List Char :=
  '\n' :: List.replicate (2 * level) ' '

mutual

def Value.prettyList (level : Nat) : Value → List Char
  | .array (item :: rest) =>
    '[' :: prettyItems (level + 1) (item :: rest) ++ newline level ++ [']']
  | .object (member :: rest) =>
    '\x7b' :: prettyMembers (level + 1) (member :: rest) ++ newline level ++ ['\x7d']
  | .array [] => ['[', ']']
  | .object [] => ['\x7b', '\x7d']
  | .null => ['n', 'u', 'l', 'l']
  | .bool true => ['t', 'r', 'u', 'e']
  | .bool false => ['f', 'a', 'l', 's', 'e']
  | .number value => numeral value
  | .string text => literal text

def prettyItems (level : Nat) : List Value → List Char
  | [] => []
  | [item] => newline level ++ item.prettyList level
  | item :: next :: rest =>
    newline level ++ item.prettyList level ++ ',' :: prettyItems level (next :: rest)

def prettyMembers (level : Nat) : List (String × Value) → List Char
  | [] => []
  | [(key, value)] => newline level ++ literal key ++ ':' :: ' ' :: value.prettyList level
  | (key, value) :: next :: rest =>
    newline level ++ literal key ++ ':' :: ' ' :: value.prettyList level ++
      ',' :: prettyMembers level (next :: rest)

end

def Value.pretty (value : Value) : String :=
  String.ofList (value.prettyList 0)

def Value.ofText? : Option String → Value
  | some text => .string text
  | none => .null

def Value.ofTexts (texts : List String) : Value :=
  .array (texts.map .string)

end Rehearsal.Json
