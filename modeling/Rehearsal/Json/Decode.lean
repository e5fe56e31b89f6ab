import Rehearsal.Json.Doc
import Rehearsal.Text.Shown
/-!
# Decoding documents

How a value of a given shape is taken from a document, and why it may not be there. Members of an
object come in any order, unknown ones are passed over, and an object may also be written as the
list of its members' values in their declared order.

An object that names its own variant has to be held until the name is known. What is decoded from
such a held document has been read completely, so no fault of the text can be met in it any more.
-/

set_option autoImplicit false

namespace Rehearsal.Json

/-- What was found in place of something else. -/
inductive Found where
  | null
  | bool (value : Bool)
  | natural (value : Nat)
  | negative (magnitude : Nat)
  | floating (shown : String)
  | string (text : String)
  | sequence
  | map
  | unitVariant
  deriving DecidableEq, Repr

def Found.message : Found → String
  | .null => "null"
  | .bool value => s!"boolean `{value}`"
  | .natural value => s!"integer `{value}`"
  | .negative magnitude => s!"integer `-{magnitude}`"
  | .floating shown => s!"floating point `{shown}`"
  | .string text => "string " ++ Text.quote text
  | .sequence => "sequence"
  | .map => "map"
  | .unitVariant => "unit variant"

/-- Why a document does not hold a value of the wanted shape. -/
inductive DecodeError where
  | syntaxFault (fault : Fault)
  | wrongKind (found : Found) (expected : String)
  /-- The value is of the right kind and not allowed. -/
  | wrongValue (found : Found) (expected : String)
  | wrongLength (length : Nat) (expected : String)
  /-- There is no such variant. -/
  | unknownVariant (name : String) (known : List String)
  | missingMember (name : String)
  | duplicateMember (name : String)
  /-- A text of a notation of its own is not well-formed. -/
  | malformed (reason : String)
  deriving DecidableEq, Repr

/-- Names in backquotes: two are joined by "or", more are listed. -/
def alternatives : List String → String
  | [] => "there are no variants"
  | [only] => s!"expected `{only}`"
  | [first, second] => s!"expected `{first}` or `{second}`"
  | names => "expected one of " ++ ", ".intercalate (names.map fun name => s!"`{name}`")

def DecodeError.message : DecodeError → String
  | .syntaxFault fault => fault.message
  | .wrongKind found expected => s!"invalid type: {found.message}, expected {expected}"
  | .wrongValue found expected => s!"invalid value: {found.message}, expected {expected}"
  | .wrongLength length expected => s!"invalid length {length}, expected {expected}"
  | .unknownVariant name known => s!"unknown variant `{name}`, {alternatives known}"
  | .missingMember name => s!"missing field `{name}`"
  | .duplicateMember name => s!"duplicate field `{name}`"
  | .malformed reason => reason

abbrev Decoded (α : Type) := Except DecodeError α

/-- Whether a document is decoded while its text is read, and then how many more lists and objects
may be opened, or after it has been held. -/
inductive Source where
  | text (room : Nat)
  | held
  deriving DecidableEq, Repr

/-- The nesting that a text may have. -/
def nestingLimit : Nat := 127

/-- The source inside a list or an object. -/
def Source.inner : Source → Decoded Source
  | .text 0 => .error (.syntaxFault .tooDeep)
  | .text (room + 1) => .ok (.text room)
  | .held => .ok .held

/-- A way to take a value from a document. -/
abbrev Decoder (α : Type) := Source → Doc → Decoded α

def liftFault {α : Type} : Except Fault α → Decoded α
  | .ok value => .ok value
  | .error fault => .error (.syntaxFault fault)

def noFault : Option Fault → Decoded Unit
  | none => .ok ()
  | some fault => .error (.syntaxFault fault)

def Number.found : Number → Found
  | .natural value => .natural value
  | .negative magnitude => .negative magnitude
  | .floating shown => .floating shown

def Doc.found : Doc → Decoded Found
  | .null => .ok .null
  | .bool value => .ok (.bool value)
  | .number numeral => liftFault (numeral.number.map Number.found)
  | .string token _ => liftFault (token.map Found.string)
  | .array _ _ => .ok .sequence
  | .object _ _ => .ok .map
  | .strayKey _ => .ok .map
  | .fault cause => .error (.syntaxFault cause)

def mismatch {α : Type} (expected : String) (doc : Doc) : Decoded α := do
  let found ← doc.found
  throw (.wrongKind found expected)

mutual

/-- Passes over a document that nobody asked for. Numbers and escapes in it are not interpreted and
its nesting is not bounded. -/
def Doc.skip : Doc → Decoded Unit
  | .null => .ok ()
  | .bool _ => .ok ()
  | .number _ => .ok ()
  | .string _ rest => noFault rest
  | .array items rest => do
    skipItems items
    noFault (rest.map Fault.inSkippedList)
  | .object members rest => do
    skipMembers members
    noFault (rest.map Fault.inSkippedObject)
  | .strayKey _ => .error (.syntaxFault .keyNotText)
  | .fault cause => .error (.syntaxFault cause.inSkippedScalar)

def skipItems : List Doc → Decoded Unit
  | [] => .ok ()
  | item :: rest => do
    item.skip
    skipItems rest

def skipMembers : List (Token × Doc) → Decoded Unit
  | [] => .ok ()
  | (_, value) :: rest => do
    value.skip
    skipMembers rest

end

mutual

/-- Checks that a document can be held: that all of it can be read, with at most `room` lists and
objects open at a time. -/
def Doc.hold : Nat → Doc → Decoded Unit
  | _, .null => .ok ()
  | _, .bool _ => .ok ()
  | _, .number numeral => do
    let _ ← liftFault numeral.number
    return ()
  | _, .string token _ => do
    let _ ← liftFault token
    return ()
  | room, .array items rest =>
    match room with
    | 0 => .error (.syntaxFault .tooDeep)
    | inner + 1 => do
      holdItems inner items
      noFault rest
  | room, .object members rest =>
    match room with
    | 0 => .error (.syntaxFault .tooDeep)
    | inner + 1 => do
      holdMembers inner members
      noFault rest
  | 0, .strayKey _ => .error (.syntaxFault .tooDeep)
  | _ + 1, .strayKey _ => .error (.syntaxFault .keyNotText)
  | _, .fault cause => .error (.syntaxFault cause)

def holdItems : Nat → List Doc → Decoded Unit
  | _, [] => .ok ()
  | room, item :: rest => do
    item.hold room
    holdItems room rest

def holdMembers : Nat → List (Token × Doc) → Decoded Unit
  | _, [] => .ok ()
  | room, (key, value) :: rest => do
    let _ ← liftFault key
    value.hold room
    holdMembers room rest

end

def Source.hold : Source → Doc → Decoded Unit
  | .text room, doc => doc.hold room
  | .held, _ => .ok ()

/-- Passes over a member that nobody asked for. -/
def Source.skip : Source → Doc → Decoded Unit
  | .text _, doc => doc.skip
  | .held, _ => .ok ()

/-- A string; `expected` says of which kind. -/
def textOf (expected : String) : Decoder String
  | _, .string token _ => liftFault token
  | _, doc => mismatch expected doc

def text : Decoder String := textOf "a string"

/-- A value, or nothing for null. -/
def optional {α : Type} (decoder : Decoder α) : Decoder (Option α)
  | _, .null => .ok none
  | source, doc => (decoder source doc).map some

def decodeItems {α : Type} (decoder : Decoder α) (source : Source) : List Doc → Decoded (List α)
  | [] => .ok []
  | item :: rest => do
    let value ← decoder source item
    let values ← decodeItems decoder source rest
    return value :: values

def list {α : Type} (decoder : Decoder α) : Decoder (List α)
  | source, .array items rest => do
    let inner ← source.inner
    let values ← decodeItems decoder inner items
    noFault rest
    return values
  | _, doc => mismatch "a sequence" doc

/-- A natural number below `bound`; `expected` names the type of such numbers. -/
def naturalBelow (bound : Nat) (expected : String) : Decoder Nat
  | _, .number numeral => do
    match ← liftFault numeral.number with
    | .natural value =>
      if value < bound then return value
      else throw (.wrongValue (.natural value) expected)
    | .negative magnitude => throw (.wrongValue (.negative magnitude) expected)
    | .floating shown => throw (.wrongKind (.floating shown) expected)
  | _, doc => mismatch expected doc

def word64 : Decoder Nat := naturalBelow Text.bound64 "u64"

def word32 : Decoder Nat := naturalBelow Text.bound32 "u32"

def flag : Decoder Bool
  | _, .bool value => .ok value
  | _, doc => mismatch "a boolean" doc

/-- Null, or in a held document an empty object. -/
def unit : Decoder Unit
  | _, .null => .ok ()
  | .held, .object [] _ => .ok ()
  | _, doc => mismatch "unit" doc

/-- The items of a list that stands for an object, and how many have been taken. -/
structure Row where
  source : Source
  taken : Nat
  items : List Doc
  rest : Option Fault

/-- Takes the next item, if the list has not ended. -/
def Row.next? {α : Type} (row : Row) (decoder : Decoder α) : Decoded (Option α × Row) :=
  match row.items with
  | item :: items => do
    let value ← decoder row.source item
    return (some value, { row with taken := row.taken + 1, items := items })
  | [] => do
    noFault row.rest
    return (none, row)

/-- Takes the next item, which must be there; `expected` describes the whole list. -/
def Row.next {α : Type} (row : Row) (expected : String) (decoder : Decoder α) :
    Decoded (α × Row) := do
  match ← row.next? decoder with
  | (some value, rest) => return (value, rest)
  | (none, _) => throw (.wrongLength row.taken expected)

def elements : Nat → String
  | 1 => "1 element"
  | count => s!"{count} elements"

/-- Checks that the list ends here. In a text, what else follows is not looked at. -/
def Row.finish (row : Row) : Decoded Unit :=
  match row.source with
  | .held =>
    if row.items.isEmpty then .ok ()
    else .error (.wrongLength (row.taken + row.items.length) s!"{elements row.taken} in sequence")
  | .text _ =>
    match row.items, row.rest with
    | [], none => .ok ()
    | [], some .trailingComma => .error (.syntaxFault .trailingComma)
    | [], some .endInList => .error (.syntaxFault .endInList)
    | _, _ => .error (.syntaxFault .trailingText)

/-- How the parts of an object are put together: `member` takes in one member, `finish` completes
them, and `row` takes them from a list in declared order. -/
structure Shape (parts α : Type) where
  title : String
  start : parts
  member : Source → parts → String → Doc → Decoded parts
  finish : parts → Decoded α
  row : Row → Decoded (α × Row)

def foldMembers {parts : Type} (member : parts → String → Doc → Decoded parts) :
    parts → List (Token × Doc) → Decoded parts
  | found, [] => .ok found
  | found, (key, value) :: rest => do
    let name ← liftFault key
    let more ← member found name value
    foldMembers member more rest

def Shape.decode {parts α : Type} (shape : Shape parts α) : Decoder α
  | source, .object members rest => do
    let inner ← source.inner
    let found ← foldMembers (shape.member inner) shape.start members
    noFault rest
    shape.finish found
  | source, .array items rest => do
    let inner ← source.inner
    let (value, row) ← shape.row ⟨inner, 0, items, rest⟩
    row.finish
    return value
  | source, .strayKey _ => do
    let _ ← source.inner
    throw (.syntaxFault .keyNotText)
  | _, doc => mismatch shape.title doc

def once {α : Type} (name : String) (before : Option α) (decoder : Decoder α) (source : Source)
    (value : Doc) : Decoded (Option α) :=
  match before with
  | some _ => .error (.duplicateMember name)
  | none => (decoder source value).map some

def required {α : Type} (name : String) : Option α → Decoded α
  | some value => .ok value
  | none => .error (.missingMember name)

def variantName (known : List String) : Decoder String
  | source, doc => do
    let name ← textOf "variant identifier" source doc
    if known.contains name then return name else throw (.unknownVariant name known)

def tagName : String := "type"

structure Tagged where
  tag : Option String
  /-- In reverse order. -/
  members : List (Token × Doc)

def Tagged.member (known : List String) (source : Source) (found : Tagged) (name : String)
    (value : Doc) : Decoded Tagged :=
  if name = tagName then
    match found.tag with
    | some _ => .error (.duplicateMember tagName)
    | none => do
      let tag ← variantName known source value
      return { found with tag := some tag }
  else do
    source.hold value
    return { found with members := (.ok name, value) :: found.members }

def Source.holdAll (source : Source) : List Doc → Decoded Unit
  | [] => .ok ()
  | item :: rest => do
    source.hold item
    source.holdAll rest

/-- An object that names its variant by a member of its own. The rest of it is held and decoded by
the variant named. -/
def tagged {α : Type} (title : String) (known : List String) (variant : String → Decoder α) :
    Decoder α
  | source, .object members rest => do
    let inner ← source.inner
    let found ← foldMembers (Tagged.member known inner) ⟨none, []⟩ members
    noFault rest
    let tag ← required tagName found.tag
    variant tag .held (.object found.members.reverse none)
  | source, .array items rest => do
    let inner ← source.inner
    match items with
    | [] =>
      noFault rest
      throw (.missingMember tagName)
    | first :: others =>
      let tag ← variantName known inner first
      inner.holdAll others
      noFault rest
      variant tag .held (.array others none)
  | source, .strayKey _ => do
    let _ ← source.inner
    throw (.syntaxFault .keyNotText)
  | _, doc => mismatch s!"internally tagged enum {title}" doc

/-- A variant without members: whatever else the object holds is passed over. -/
def bareVariant {α : Type} (value : α) : Decoder α
  | _, .array [] _ => .ok value
  | _, .array items _ => .error (.wrongLength items.length "0 elements in sequence")
  | _, _ => .ok value

/-- A value given by the name of a variant, or by an object whose only member names the variant and
holds its content. `content` is nothing for a name alone. -/
def external {α : Type} (known : List String)
    (variant : String → Option (Source × Doc) → Decoded α) : Decoder α
  | source, .string token rest => do
    let tag ← variantName known source (.string token rest)
    variant tag none
  | .held, .object members _ =>
    match members with
    | [(key, value)] => do
      let tag ← variantName known .held (.string key none)
      variant tag (some (.held, value))
    | _ => .error (.wrongValue .map "map with a single key")
  | .text room, .object members rest => do
    let inner ← (Source.text room).inner
    match members with
    | [] =>
      match rest with
      | some _ => throw (.syntaxFault .endInValue)
      | none => throw (.syntaxFault .valueMissing)
    | (key, value) :: others =>
      let tag ← variantName known inner (.string key none)
      let result ← variant tag (some (inner, value))
      match others, rest with
      | [], none => return result
      | [], some .endInObject => throw (.syntaxFault .endInObject)
      | _, _ => throw (.syntaxFault .valueMissing)
  | .text room, .strayKey key => do
    let inner ← (Source.text room).inner
    let _ ← variantName known inner key
    throw (.syntaxFault .colonMissing)
  | .text _, .fault .endInValue => .error (.syntaxFault .endInValue)
  | .text _, _ => .error (.syntaxFault .valueMissing)
  | .held, doc => mismatch "string or map" doc

/-- Decodes a whole text: nothing but spaces may follow the document. -/
def decode {α : Type} (decoder : Decoder α) (source : String) : Decoded α := do
  let (doc, rest) := read source
  let value ← decoder (.text nestingLimit) doc
  match rest with
  | none => return value
  | some after =>
    if (skipSpaces after).isEmpty then return value else throw (.syntaxFault .trailingText)

end Rehearsal.Json
