/-!
# Reading UTF-8

Decoding a list of bytes, with the place and the length of the first ill-formed sequence. A
sequence is ill-formed up to the longest part that could still have begun a character.
-/

set_option autoImplicit false

namespace Rehearsal

/-- Contents of a file, or a piece of what a process writes. -/
abbrev Bytes := List UInt8

end Rehearsal

namespace Rehearsal.Text.Utf8

inductive Fault where
  /-- The `length` bytes from `index` on begin no character. -/
  | illFormed (index length : Nat)
  /-- The bytes end inside the character that begins at `index`. -/
  | cutOff (index : Nat)
  deriving DecidableEq, Repr

def Fault.message : Fault → String
  | .illFormed index length =>
    s!"invalid utf-8 sequence of {length} bytes from index {index}"
  | .cutOff index => s!"incomplete utf-8 byte sequence from index {index}"

/-- A continuation byte holds six bits after the mark `10`. -/
def isTail (byte : UInt8) : Bool := 0x80 ≤ byte && byte ≤ 0xBF

/-- Whether `second` may follow `first` in a character of three or four bytes: it excludes
overlong forms, surrogates and values above U+10FFFF. -/
def isSecond (first second : UInt8) : Bool :=
  if first == 0xE0 then 0xA0 ≤ second && second ≤ 0xBF
  else if first == 0xED then 0x80 ≤ second && second ≤ 0x9F
  else if first == 0xF0 then 0x90 ≤ second && second ≤ 0xBF
  else if first == 0xF4 then 0x80 ≤ second && second ≤ 0x8F
  else isTail second

/-- The six low bits of a continuation byte. -/
def low (byte : UInt8) : Nat := byte.toNat % 64

/-- Decodes the bytes that start at `index`. -/
def decodeFrom : Nat → Bytes → Except Fault (List Char)
  | _, [] => .ok []
  | index, a :: afterA =>
    if a < 0x80 then
      (decodeFrom (index + 1) afterA).map (Char.ofNat a.toNat :: ·)
    else if 0xC2 ≤ a && a ≤ 0xDF then
      match afterA with
      | [] => .error (.cutOff index)
      | b :: afterB =>
        if isTail b then
          (decodeFrom (index + 2) afterB).map (Char.ofNat (a.toNat % 32 * 64 + low b) :: ·)
        else .error (.illFormed index 1)
    else if 0xE0 ≤ a && a ≤ 0xEF then
      match afterA with
      | [] => .error (.cutOff index)
      | b :: afterB =>
        if isSecond a b then
          match afterB with
          | [] => .error (.cutOff index)
          | c :: afterC =>
            if isTail c then
              (decodeFrom (index + 3) afterC).map
                (Char.ofNat (a.toNat % 16 * 4096 + low b * 64 + low c) :: ·)
            else .error (.illFormed index 2)
        else .error (.illFormed index 1)
    else if 0xF0 ≤ a && a ≤ 0xF4 then
      match afterA with
      | [] => .error (.cutOff index)
      | b :: afterB =>
        if isSecond a b then
          match afterB with
          | [] => .error (.cutOff index)
          | c :: afterC =>
            if isTail c then
              match afterC with
              | [] => .error (.cutOff index)
              | d :: afterD =>
                if isTail d then
                  (decodeFrom (index + 4) afterD).map
                    (Char.ofNat (a.toNat % 8 * 262144 + low b * 4096 + low c * 64 + low d) :: ·)
                else .error (.illFormed index 3)
            else .error (.illFormed index 2)
        else .error (.illFormed index 1)
    else .error (.illFormed index 1)

def decode (bytes : Bytes) : Except Fault String :=
  (decodeFrom 0 bytes).map String.ofList

def encodeChar (c : Char) : Bytes :=
  let code := c.toNat
  if code < 0x80 then [UInt8.ofNat code]
  else if code < 0x800 then [UInt8.ofNat (0xC0 + code / 64), UInt8.ofNat (0x80 + code % 64)]
  else if code < 0x10000 then
    [UInt8.ofNat (0xE0 + code / 4096), UInt8.ofNat (0x80 + code / 64 % 64),
      UInt8.ofNat (0x80 + code % 64)]
  else
    [UInt8.ofNat (0xF0 + code / 262144), UInt8.ofNat (0x80 + code / 4096 % 64),
      UInt8.ofNat (0x80 + code / 64 % 64), UInt8.ofNat (0x80 + code % 64)]

def encode (text : String) : Bytes :=
  text.toList.flatMap encodeChar

end Rehearsal.Text.Utf8
