import Rehearsal.Text.Unprintable
/-!
# One-line descriptions

How a value is described for a reader of messages: records with the names of their fields, texts in
quotes, absent and present values marked as such.
-/

set_option autoImplicit false

namespace Rehearsal.Text

/-! ## Quoted text

A text between double quotes: a quote, a backslash and the usual control characters have a short
escape, every other character without a shape of its own is given by its number in hexadecimal. -/

/-- The escape of a character by number, such as `\u{200b}`. -/
def numericEscape (c : Char) : List Char :=
  ['\\', 'u', '\x7b'] ++ Nat.toDigits 16 c.toNat ++ ['\x7d']

def quoteChar (c : Char) : List Char :=
  if c = '\x00' then ['\\', '0']
  else if c = '\t' then ['\\', 't']
  else if c = '\r' then ['\\', 'r']
  else if c = '\n' then ['\\', 'n']
  else if c = '\\' then ['\\', '\\']
  else if c = '"' then ['\\', '"']
  else if isHidden c then numericEscape c
  else [c]

def quote (text : String) : String :=
  String.ofList ('"' :: text.toList.flatMap quoteChar ++ ['"'])

/-! ## Descriptions -/

inductive Shown where
  /-- A word that stands for itself. -/
  | word (word : String)
  | text (text : String)
  | list (items : List Shown)
  | applied (title : String) (value : Shown)
  /-- A name with labelled values; without any, the name alone. -/
  | record (title : String) (fields : List (String × Shown))
  deriving Repr, Inhabited

mutual

def Shown.render : Shown → String
  | .word spelled => spelled
  | .text contents => quote contents
  | .list items => "[" ++ Shown.renderItems items ++ "]"
  | .applied title value => title ++ "(" ++ value.render ++ ")"
  | .record title [] => title
  | .record title (field :: rest) =>
    title ++ " \x7b " ++ Shown.renderFields (field :: rest) ++ " \x7d"

def Shown.renderItems : List Shown → String
  | [] => ""
  | [item] => item.render
  | item :: next :: rest => item.render ++ ", " ++ Shown.renderItems (next :: rest)

def Shown.renderFields : List (String × Shown) → String
  | [] => ""
  | [(label, value)] => label ++ ": " ++ value.render
  | (label, value) :: next :: rest =>
    label ++ ": " ++ value.render ++ ", " ++ Shown.renderFields (next :: rest)

end

def Shown.maybe : Option Shown → Shown
  | some value => .applied "Some" value
  | none => .word "None"

def Shown.maybeText (text : Option String) : Shown :=
  .maybe (text.map .text)

end Rehearsal.Text
