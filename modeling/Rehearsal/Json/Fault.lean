/-!
# What can be wrong with JSON text

The causes for which a text is no JSON, each with its wording. A value that nobody asked for is
passed over without being interpreted; some causes are worded otherwise there.
-/

set_option autoImplicit false

namespace Rehearsal.Json

inductive Fault where
  | endInList
  | endInObject
  | endInString
  | endInValue
  | endInNumber
  | endInWord
  | colonMissing
  | listEndMissing
  | objectEndMissing
  /-- A word begins like `null`, `true` or `false` and is none of them. -/
  | unknownWord
  | valueMissing
  | unknownEscape
  | badHexDigits
  /-- A second surrogate stands alone, or a first one is followed by none. -/
  | loneSurrogate
  /-- A first surrogate is followed by no escape by number. -/
  | surrogateCutOff
  | controlCharacter
  | badNumber
  | numberRange
  | keyNotText
  | trailingComma
  | trailingText
  | tooDeep
  deriving DecidableEq, Repr

def Fault.message : Fault → String
  | .endInList => "EOF while parsing a list"
  | .endInObject => "EOF while parsing an object"
  | .endInString => "EOF while parsing a string"
  | .endInValue => "EOF while parsing a value"
  | .endInNumber => "EOF while parsing a value"
  | .endInWord => "EOF while parsing a value"
  | .colonMissing => "expected `:`"
  | .listEndMissing => "expected `,` or `]`"
  | .objectEndMissing => "expected `,` or `\x7d`"
  | .unknownWord => "expected ident"
  | .valueMissing => "expected value"
  | .unknownEscape => "invalid escape"
  | .badHexDigits => "invalid escape"
  | .loneSurrogate => "lone leading surrogate in hex escape"
  | .surrogateCutOff => "unexpected end of hex escape"
  | .controlCharacter => "control character (\\u0000-\\u001F) found while parsing a string"
  | .badNumber => "invalid number"
  | .numberRange => "number out of range"
  | .keyNotText => "key must be a string"
  | .trailingComma => "trailing comma"
  | .trailingText => "trailing characters"
  | .tooDeep => "recursion limit exceeded"

/-- The fault as it is noticed in a list that is passed over. -/
def Fault.inSkippedList : Fault → Fault
  | .trailingComma => .valueMissing
  | other => other

/-- The fault as it is noticed in an object that is passed over. -/
def Fault.inSkippedObject : Fault → Fault
  | .trailingComma => .keyNotText
  | .endInValue => .endInObject
  | other => other

/-- The fault as it is noticed in a number or a word that is passed over. -/
def Fault.inSkippedScalar : Fault → Fault
  | .endInNumber => .badNumber
  | other => other

end Rehearsal.Json
