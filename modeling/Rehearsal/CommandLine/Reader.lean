import Rehearsal.CommandLine.Parameter
/-!
# Reading one level of the command line

Words are read one by one. An option waits for its text in the word after it, and is entered when
the next option or the end of the level settles it; so a fault in a later word may be told before
one of an earlier option.
-/

set_option autoImplicit false

namespace Rehearsal.CommandLine

/-- Why the words of a command line are not carried out. -/
inductive UsageFault where
  | unknownWord
  /-- A text is given to an option that takes none. -/
  | needlessText
  | badText
  | repeated
  | unknownVerb
  | noVerb
  | noOperand
  | nothing
  | help
  | version
  deriving DecidableEq, Repr

/-- Whether it is a mistake, and not a question for help or for the version. -/
def UsageFault.isMistake : UsageFault → Bool
  | .help | .version => false
  | _ => true

structure Reader where
  /-- The options that have been entered, with their texts. -/
  given : List (Key × String)
  /-- The option that is to be settled, and its text if that has been read. -/
  pending : Option (Parameter × Option String)
  operand : Option String
  /-- Whether every word that follows is an operand. -/
  operandsOnly : Bool

namespace Reader

def fresh : Reader := ⟨[], none, none, false⟩

def has (reader : Reader) (key : Key) : Bool :=
  reader.given.any fun entry => entry.1 = key

def textOf (reader : Reader) (key : Key) : Option String :=
  reader.given.lookup key

def countOf (reader : Reader) (key : Key) : Nat :=
  (reader.given.filter fun entry => entry.1 = key).length

/-- Whether the reader waits for the text of an option. -/
def awaitsText (reader : Reader) : Bool :=
  match reader.pending with
  | some (_, none) => true
  | _ => false

/-- Enters an option with the text that was read for it. -/
def enter (reader : Reader) (parameter : Parameter) (text : Option String) :
    Except UsageFault Reader :=
  if parameter.kind.takesText && text.isNone then .error .badText
  else if parameter.kind ≠ .count && reader.has parameter.key then .error .repeated
  else if parameter.key = .help then .error .help
  else if parameter.key = .version then .error .version
  else if parameter.kind = .path && text = some "" then .error .badText
  else .ok { reader with given := reader.given ++ [(parameter.key, text.getD "")] }

def settle (reader : Reader) : Except UsageFault Reader :=
  match reader.pending with
  | some (parameter, text) => { reader with pending := none }.enter parameter text
  | none => .ok reader

/-- Takes an option whose text, if it takes one, is known. -/
def take (reader : Reader) (parameter : Parameter) (text : Option String) :
    Except UsageFault Reader := do
  let settled ← reader.settle
  settled.enter parameter text

def expect (reader : Reader) (parameter : Parameter) : Except UsageFault Reader := do
  let settled ← reader.settle
  return { settled with pending := some (parameter, none) }

/-- Reads an option by its name, with the text after an equals sign if there is one. -/
def readNamed (level : Level) (reader : Reader) (name : String) (text : Option String) :
    Except UsageFault Reader :=
  match level.named name with
  | none => .error .unknownWord
  | some parameter =>
    match parameter.kind.takesText, text with
    | true, some text => reader.take parameter (some text)
    | true, none => reader.expect parameter
    | false, some _ => .error .needlessText
    | false, none => reader.take parameter none

/-- Reads options by their letters. What follows the letter of an option that takes a text is the
text, possibly after an equals sign. -/
def readLetters (level : Level) : Reader → List Char → Except UsageFault Reader
  | reader, [] => .ok reader
  | reader, letter :: rest =>
    match level.lettered letter with
    | none => .error .unknownWord
    | some parameter =>
      if parameter.kind.takesText then
        match rest with
        | [] => reader.expect parameter
        | '=' :: text => reader.take parameter (some (String.ofList text))
        | text => reader.take parameter (some (String.ofList text))
      else do
        let taken ← reader.take parameter none
        taken.readLetters level rest

/-- Reads a word that is no option. -/
def readOperand (level : Level) (reader : Reader) (word : String) : Except UsageFault Reader :=
  if level.takesOperand then
    match reader.operand with
    | some _ => .error .unknownWord
    | none => do
      let settled ← reader.settle
      return { settled with operand := some word }
  else if level.takesVerb &&
      !(reader.operandsOnly && ((Verb.ofWord? word).isSome || word = "help")) then
    .error .unknownVerb
  else .error .unknownWord

/-- Reads a word for which an option may be waiting. -/
def readPlain (level : Level) (reader : Reader) (word : String) : Except UsageFault Reader :=
  match reader.pending with
  | some (parameter, none) => .ok { reader with pending := some (parameter, some word) }
  | _ => reader.readOperand level word

/-- Cuts characters at the first equals sign. -/
def cutEquals (text : List Char) : String × Option String :=
  let name := text.takeWhile (· ≠ '=')
  match text.drop name.length with
  | [] => (String.ofList name, none)
  | _ :: rest => (String.ofList name, some (String.ofList rest))

def readWord (level : Level) (reader : Reader) (word : String) : Except UsageFault Reader :=
  if reader.operandsOnly then reader.readOperand level word
  else
    match word.toList with
    | ['-', '-'] => .ok { reader with operandsOnly := true }
    | '-' :: '-' :: rest =>
      let (name, text) := cutEquals rest
      reader.readNamed level name text
    | '-' :: letter :: rest => reader.readLetters level (letter :: rest)
    | _ => reader.readPlain level word

/-- Whether a word is a verb, or asks for help about one, where it stands. -/
def isVerb (level : Level) (reader : Reader) (word : String) : Bool :=
  level.takesVerb && !reader.operandsOnly && !reader.awaitsText &&
    ((Verb.ofWord? word).isSome || word = "help")

/-- Reads the words of a level up to a verb: the reader after them, and the verb with the words
after it. -/
def read (level : Level) : Reader → List String →
    Except UsageFault (Reader × Option (String × List String))
  | reader, [] => .ok (reader, none)
  | reader, word :: rest =>
    if reader.isVerb level word then .ok (reader, some (word, rest))
    else do
      let after ← reader.readWord level word
      after.read level rest

end Reader

end Rehearsal.CommandLine
