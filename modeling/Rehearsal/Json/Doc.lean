import Rehearsal.Json.Numeral
/-!
# Documents: JSON text as far as it can be read

Reading a text never fails as a whole. It yields the document up to the first fault in the text's
structure, and the fault itself where it stands. Whoever decodes the document meets the fault at
its place, after anything that is wrong with what stands before it, so of two mistakes in a text
the first is reported whether it concerns the structure or the meaning.
-/

set_option autoImplicit false

namespace Rehearsal.Json

inductive Piece where
  /-- A character, written as itself or by a short escape. -/
  | char (c : Char)
  /-- A character by a short escape, which begins with a backslash. -/
  | escape (c : Char)
  /-- A 16-bit unit, by its four hexadecimal digits. -/
  | unit (value : Nat)
  deriving DecidableEq, Repr

/-- A string literal: the text it stands for, or the fault in it. -/
abbrev Token := Except Fault String

inductive Doc where
  | null
  | bool (value : Bool)
  | number (numeral : Numeral)
  /-- A string, and what keeps it from ending. -/
  | string (token : Token) (rest : Option Fault)
  /-- The items of a list, and what keeps it from ending after them. -/
  | array (items : List Doc) (rest : Option Fault)
  /-- The members of an object, and what keeps it from ending after them. -/
  | object (members : List (Token × Doc)) (rest : Option Fault)
  /-- An object whose first member begins with something other than a string. -/
  | strayKey (key : Doc)
  /-- No value can be read here. -/
  | fault (cause : Fault)

def isSpace (c : Char) : Bool :=
  c == ' ' || c == '\n' || c == '\t' || c == '\r'

def skipSpaces (text : List Char) : List Char :=
  text.dropWhile isSpace

def hexValue? (c : Char) : Option Nat :=
  if '0' ≤ c && c ≤ '9' then some (c.toNat - 48)
  else if 'a' ≤ c && c ≤ 'f' then some (c.toNat - 87)
  else if 'A' ≤ c && c ≤ 'F' then some (c.toNat - 55)
  else none

def shortEscape? (c : Char) : Option Char :=
  if c = '"' then some '"'
  else if c = '\\' then some '\\'
  else if c = '/' then some '/'
  else if c = 'b' then some '\x08'
  else if c = 'f' then some '\x0c'
  else if c = 'n' then some '\n'
  else if c = 'r' then some '\r'
  else if c = 't' then some '\t'
  else none

/-- How many bytes the first four characters of a text take. -/
def leadingBytes (text : List Char) : Nat :=
  (text.take 4).foldl (fun count c => count + c.utf8Size) 0

/-- Why the text after `\u` is no unit: it is too short to hold four digits, or they are none. -/
def badUnit (text : List Char) : Fault :=
  if leadingBytes text < 4 then .endInString else .badHexDigits

/-- Reads the text after an opening quote: the pieces up to the closing quote, and either what
follows it or the fault that hides it. -/
def readPieces : List Char → List Piece × Except Fault (List Char)
  | [] => ([], .error .endInString)
  | '"' :: rest => ([], .ok rest)
  | ['\\'] => ([], .error .endInString)
  | '\\' :: 'u' :: a :: b :: c :: d :: rest =>
    match hexValue? a, hexValue? b, hexValue? c, hexValue? d with
    | some w, some x, some y, some z =>
      let (pieces, after) := readPieces rest
      (.unit (w * 4096 + x * 256 + y * 16 + z) :: pieces, after)
    | _, _, _, _ => ([], .error (badUnit (a :: b :: c :: d :: rest)))
  | '\\' :: c :: rest =>
    if c = 'u' then ([], .error (badUnit rest))
    else
      match shortEscape? c with
      | some meant =>
        let (pieces, after) := readPieces rest
        (.escape meant :: pieces, after)
      | none => ([], .error .unknownEscape)
  | c :: rest =>
    if c.toNat < 0x20 then ([], .error .controlCharacter)
    else
      let (pieces, after) := readPieces rest
      (.char c :: pieces, after)

def isFirstSurrogate (unit : Nat) : Bool := 0xD800 ≤ unit && unit ≤ 0xDBFF

def isSecondSurrogate (unit : Nat) : Bool := 0xDC00 ≤ unit && unit ≤ 0xDFFF

/-- The character of a pair of surrogates. -/
def pairChar (first second : Nat) : Char :=
  Char.ofNat (0x10000 + (first - 0xD800) * 0x400 + (second - 0xDC00))

/-- What a first surrogate is missing where the pieces end with `fault`, or with the closing
quote. -/
def afterFirstSurrogate : Option Fault → Fault
  | some .endInString => .endInString
  | some .badHexDigits => .badHexDigits
  | _ => .surrogateCutOff

/-- The text that pieces stand for; `stop` is the fault after the last piece. Surrogates must come
in pairs. -/
def joinPieces (stop : Option Fault) : List Piece → Except Fault (List Char)
  | [] =>
    match stop with
    | some fault => .error fault
    | none => .ok []
  | .char c :: rest => (joinPieces stop rest).map (c :: ·)
  | .escape c :: rest => (joinPieces stop rest).map (c :: ·)
  | .unit value :: rest =>
    if isSecondSurrogate value then .error .loneSurrogate
    else if isFirstSurrogate value then
      match rest with
      | .unit next :: more =>
        if isSecondSurrogate next then (joinPieces stop more).map (pairChar value next :: ·)
        else .error .loneSurrogate
      | [] => .error (afterFirstSurrogate stop)
      | _ :: _ => .error .surrogateCutOff
    else (joinPieces stop rest).map (Char.ofNat value :: ·)

/-- Reads the text after an opening quote: the literal, and either what follows it or the fault
that hides it. -/
def readString (text : List Char) : Token × Except Fault (List Char) :=
  let (pieces, after) := readPieces text
  let stop := match after with
    | .ok _ => none
    | .error fault => some fault
  ((joinPieces stop pieces).map String.ofList, after)

def takeDigits : List Char → List Nat × List Char
  | [] => ([], [])
  | c :: rest =>
    match Text.digitValue? c with
    | some digit =>
      let (digits, after) := takeDigits rest
      (digit :: digits, after)
    | none => ([], c :: rest)

/-- One digit at least, or the fault that there is none. -/
def readDigits (text : List Char) : Except Fault (List Nat × List Char) :=
  match takeDigits text with
  | ([], []) => .error .endInNumber
  | ([], _ :: _) => .error .badNumber
  | (digits, rest) => .ok (digits, rest)

/-- The digits before the point: a zero stands alone. -/
def readWhole (text : List Char) : Except Fault (List Nat × List Char) :=
  match readDigits text with
  | .ok (0 :: _ :: _, _) => .error .badNumber
  | other => other

/-- The point and the digits after it, if there is a point. -/
def readFraction : List Char → Except Fault (Option (List Nat) × List Char)
  | '.' :: rest => (readDigits rest).map fun (digits, after) => (some digits, after)
  | text => .ok (none, text)

def readPowerSign : List Char → Bool × List Char
  | '-' :: rest => (true, rest)
  | '+' :: rest => (false, rest)
  | text => (false, text)

/-- The power of ten, if there is one. -/
def readPower : List Char → Except Fault (Option (Bool × List Nat) × List Char)
  | [] => .ok (none, [])
  | c :: rest =>
    if c = 'e' || c = 'E' then
      let (down, text) := readPowerSign rest
      (readDigits text).map fun (digits, after) => (some (down, digits), after)
    else .ok (none, c :: rest)

def readUnsigned (negative : Bool) (text : List Char) : Except Fault (Numeral × List Char) := do
  let (whole, afterWhole) ← readWhole text
  let (fraction, afterFraction) ← readFraction afterWhole
  let (power, rest) ← readPower afterFraction
  return (⟨negative, whole, fraction, power⟩, rest)

/-- The rest of a text after the word `rest`, which must stand in front. -/
def readWord : List Char → List Char → Except Fault (List Char)
  | [], text => .ok text
  | _ :: _, [] => .error .endInWord
  | expected :: more, c :: rest => if c = expected then readWord more rest else .error .unknownWord

/-- A document and the text after it, or nothing after a document that ends in a fault. -/
abbrev Reading := Doc × Option (List Char)

def readConstant (meaning : Doc) (word text : List Char) : Reading :=
  match readWord word text with
  | .ok rest => (meaning, some rest)
  | .error fault => (.fault fault, none)

/-- Reads a numeral after its sign. -/
def readNumber (negative : Bool) (text : List Char) : Reading :=
  match readUnsigned negative text with
  | .ok (numeral, rest) => (.number numeral, some rest)
  | .error fault => (.fault fault, none)

/-- Reads a string after its opening quote. -/
def readText (text : List Char) : Reading :=
  match readString text with
  | (token, .ok rest) => (.string token none, some rest)
  | (token, .error fault) => (.string token (some fault), none)

mutual

/-- Reads a document from the front of a text. The fuel bounds the nesting and the number of parts;
the length of the text is enough. -/
def readDoc : Nat → List Char → Reading
  | 0, _ => (.fault .tooDeep, none)
  | fuel + 1, text =>
    match skipSpaces text with
    | [] => (.fault .endInValue, none)
    | c :: rest =>
      if c = 'n' then readConstant .null ['u', 'l', 'l'] rest
      else if c = 't' then readConstant (.bool true) ['r', 'u', 'e'] rest
      else if c = 'f' then readConstant (.bool false) ['a', 'l', 's', 'e'] rest
      else if c = '-' then readNumber true rest
      else if '0' ≤ c && c ≤ '9' then readNumber false (c :: rest)
      else if c = '"' then readText rest
      else if c = '[' then
        match skipSpaces rest with
        | [] => (.array [] (some .endInList), none)
        | ']' :: after => (.array [] none, some after)
        | _ =>
          let (items, stop, after) := readItems fuel rest
          (.array items stop, after)
      else if c = '\x7b' then
        match skipSpaces rest with
        | [] => (.object [] (some .endInObject), none)
        | '\x7d' :: after => (.object [] none, some after)
        | '"' :: after =>
          let (members, stop, after) := readMembers fuel after
          (.object members stop, after)
        | other => (.strayKey (readDoc fuel other).1, none)
      else (.fault .valueMissing, none)

def readItems : Nat → List Char → List Doc × Option Fault × Option (List Char)
  | 0, _ => ([], some .tooDeep, none)
  | fuel + 1, text =>
    match readDoc fuel text with
    | (item, none) => ([item], none, none)
    | (item, some after) =>
      match skipSpaces after with
      | [] => ([item], some .endInList, none)
      | ']' :: rest => ([item], none, some rest)
      | ',' :: rest =>
        match skipSpaces rest with
        | [] => ([item], some .endInValue, none)
        | ']' :: _ => ([item], some .trailingComma, none)
        | _ =>
          let (items, stop, after) := readItems fuel rest
          (item :: items, stop, after)
      | _ => ([item], some .listEndMissing, none)

/-- Reads a member, whose opening quote is behind, and the members after it, up to the closing
brace. -/
def readMembers : Nat → List Char → List (Token × Doc) × Option Fault × Option (List Char)
  | 0, _ => ([], some .tooDeep, none)
  | fuel + 1, text =>
    match readString text with
    | (key, .error fault) => ([(key, .fault fault)], none, none)
    | (key, .ok afterKey) =>
      match skipSpaces afterKey with
      | ':' :: afterColon =>
        match readDoc fuel afterColon with
        | (value, none) => ([(key, value)], none, none)
        | (value, some after) =>
          match skipSpaces after with
          | [] => ([(key, value)], some .endInObject, none)
          | '\x7d' :: rest => ([(key, value)], none, some rest)
          | ',' :: rest =>
            match skipSpaces rest with
            | [] => ([(key, value)], some .endInValue, none)
            | '\x7d' :: _ => ([(key, value)], some .trailingComma, none)
            | '"' :: more =>
              let (members, stop, after) := readMembers fuel more
              ((key, value) :: members, stop, after)
            | _ => ([(key, value)], some .keyNotText, none)
          | _ => ([(key, value)], some .objectEndMissing, none)
      | [] => ([(key, .fault .endInObject)], none, none)
      | _ => ([(key, .fault .colonMissing)], none, none)

end

def read (text : String) : Reading :=
  readDoc (text.toList.length + 1) text.toList

end Rehearsal.Json
