import Rehearsal.Text.Utf8
/-!
# Padded base64

The standard alphabet with canonical padding. Reading accepts exactly what writing yields and
otherwise says where it stopped.
-/

set_option autoImplicit false

namespace Rehearsal.Text.Base64

def symbol (value : Nat) : Char :=
  if value < 26 then Char.ofNat (65 + value)
  else if value < 52 then Char.ofNat (71 + value)
  else if value < 62 then Char.ofNat (value - 4)
  else if value = 62 then '+'
  else '/'

def symbolValue? (byte : UInt8) : Option Nat :=
  let code := byte.toNat
  if 65 ≤ code && code ≤ 90 then some (code - 65)
  else if 97 ≤ code && code ≤ 122 then some (code - 71)
  else if 48 ≤ code && code ≤ 57 then some (code + 4)
  else if code = 43 then some 62
  else if code = 47 then some 63
  else none

def pad : UInt8 := 61

/-- The symbols of some bytes: three bytes make four symbols. -/
def encodeList : Bytes → List Char
  | [] => []
  | [a] =>
    [symbol (a.toNat / 4), symbol (a.toNat % 4 * 16), '=', '=']
  | [a, b] =>
    [symbol (a.toNat / 4), symbol (a.toNat % 4 * 16 + b.toNat / 16), symbol (b.toNat % 16 * 4), '=']
  | a :: b :: c :: rest =>
    symbol (a.toNat / 4) :: symbol (a.toNat % 4 * 16 + b.toNat / 16) ::
      symbol (b.toNat % 16 * 4 + c.toNat / 64) :: symbol (c.toNat % 64) :: encodeList rest

def encode (bytes : Bytes) : String :=
  String.ofList (encodeList bytes)

inductive Fault where
  /-- The byte at `offset` is no symbol, or padding where none may stand. -/
  | badSymbol (offset : Nat) (byte : UInt8)
  | badLength (length : Nat)
  /-- The last symbol holds bits that belong to no byte. -/
  | badLastSymbol (offset : Nat) (byte : UInt8)
  | badPadding
  deriving DecidableEq, Repr

def Fault.message : Fault → String
  | .badSymbol offset byte => s!"Invalid symbol {byte.toNat}, offset {offset}."
  | .badLength length => s!"Invalid input length: {length}"
  | .badLastSymbol offset byte => s!"Invalid last symbol {byte.toNat}, offset {offset}."
  | .badPadding => "Invalid padding"

/-- The symbols at the end of a text: their values in order, the last of them, and where padding
began after them. -/
structure Ending where
  values : List Nat
  last : UInt8
  padding : List Nat

/-- Reads the at most four bytes that end a text, from the `index`-th of them on; `offset` is where
the first of them stands. -/
def readEnding (offset : Nat) : Nat → Ending → Bytes → Except Fault Ending
  | _, ending, [] => .ok ending
  | index, ending, byte :: rest =>
    if byte = pad then
      if index < 2 then .error (.badSymbol (offset + index) byte)
      else readEnding offset (index + 1) { ending with padding := ending.padding ++ [index] } rest
    else
      match ending.padding with
      | first :: _ => .error (.badSymbol (offset + first) pad)
      | [] =>
        match symbolValue? byte with
        | none => .error (.badSymbol (offset + index) byte)
        | some value =>
          readEnding offset (index + 1) ⟨ending.values ++ [value], byte, []⟩ rest

/-- The bytes of the symbols at the end of a text, if no bit is left over. -/
def Ending.bytes? : List Nat → Option Bytes
  | [] => some []
  | [a, b] => if b % 16 = 0 then some [UInt8.ofNat (a * 4 + b / 16)] else none
  | [a, b, c] =>
    if c % 4 = 0 then some [UInt8.ofNat (a * 4 + b / 16), UInt8.ofNat (b % 16 * 16 + c / 4)]
    else none
  | [a, b, c, d] =>
    some [UInt8.ofNat (a * 4 + b / 16), UInt8.ofNat (b % 16 * 16 + c / 4),
      UInt8.ofNat (c % 4 * 64 + d)]
  | _ => none

/-- Decodes the at most four bytes that end a text. -/
def decodeEnding (offset : Nat) (ending : Bytes) : Except Fault Bytes := do
  let found ← readEnding offset 0 ⟨[], 0, []⟩ ending
  let count := found.values.length
  if !ending.isEmpty && count < 2 then throw (.badLength (offset + count))
  if (count + found.padding.length) % 4 ≠ 0 then throw .badPadding
  match Ending.bytes? found.values with
  | some bytes => return bytes
  | none => throw (.badLastSymbol (offset + count - 1) found.last)

/-- The value of a symbol inside a text, where no padding may stand. -/
def inner (offset : Nat) (byte : UInt8) : Except Fault Nat :=
  match symbolValue? byte with
  | some value => .ok value
  | none => .error (.badSymbol offset byte)

/-- Decodes bytes from `offset` on. Four bytes that end the text are its ending. -/
def decodeFrom : Nat → Bytes → Except Fault Bytes
  | offset, a :: b :: c :: d :: e :: rest => do
    let w ← inner offset a
    let x ← inner (offset + 1) b
    let y ← inner (offset + 2) c
    let z ← inner (offset + 3) d
    let bytes ← decodeFrom (offset + 4) (e :: rest)
    return UInt8.ofNat (w * 4 + x / 16) :: UInt8.ofNat (x % 16 * 16 + y / 4) ::
      UInt8.ofNat (y % 4 * 64 + z) :: bytes
  | offset, ending => decodeEnding offset ending

/-- A single foreign byte after complete groups, such as a line end, is reported before anything
else. -/
def strayEnd? (bytes : Bytes) : Option Fault :=
  if bytes.length % 4 = 1 then
    match bytes.getLast? with
    | some byte =>
      if byte ≠ pad && (symbolValue? byte).isNone then some (.badSymbol (bytes.length - 1) byte)
      else none
    | none => none
  else none

def decode (text : String) : Except Fault Bytes :=
  let bytes := Utf8.encode text
  match strayEnd? bytes with
  | some fault => .error fault
  | none => decodeFrom 0 bytes

end Rehearsal.Text.Base64
