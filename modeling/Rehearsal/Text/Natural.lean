/-!
# Natural numbers and lengths of time

Reading the digits of a bounded natural number, and writing one with leading zeros. A length of time
in whole nanoseconds has as its text the number in the largest unit that is not zero, with as many
decimal places as it takes.
-/

set_option autoImplicit false

namespace Rehearsal

namespace Text

def digitValue? (c : Char) : Option Nat :=
  if '0' ≤ c && c ≤ '9' then some (c.toNat - 48) else none

/-- The value of a run of decimal digits read after `value`, or nothing when some character is no
digit. -/
def digitsValue? : Nat → List Char → Option Nat
  | value, [] => some value
  | value, c :: rest =>
    match digitValue? c with
    | some digit => digitsValue? (value * 10 + digit) rest
    | none => none

/-- Reads an optional plus sign followed by one or more digits, of a value below `bound`. -/
def readNatural? (bound : Nat) (text : List Char) : Option Nat :=
  let digits := match text with
    | '+' :: rest => rest
    | other => other
  match digits with
  | [] => none
  | _ =>
    match digitsValue? 0 digits with
    | some value => if value < bound then some value else none
    | none => none

/-- Decimal notation of `value` with zeros in front up to `width` digits. -/
def padded (width value : Nat) : String :=
  let digits := Nat.toDigits 10 value
  String.ofList (List.replicate (width - digits.length) '0' ++ digits)

/-- One more than the greatest 64-bit word. -/
def bound64 : Nat := Nat.pow 2 64

/-- One more than the greatest 32-bit word. -/
def bound32 : Nat := Nat.pow 2 32

end Text

/-! ## Lengths of time -/

structure Elapsed where
  nanoseconds : Nat
  deriving DecidableEq, Repr, Inhabited

namespace Elapsed

def ofMilliseconds (count : Nat) : Elapsed := ⟨count * 1000000⟩

/-- Seconds and nanoseconds. -/
def ofParts (seconds nanoseconds : Nat) : Elapsed := ⟨seconds * 1000000000 + nanoseconds⟩

/-- The whole milliseconds in it. -/
def milliseconds (time : Elapsed) : Nat := time.nanoseconds / 1000000

def dropZerosEnd (digits : List Char) : List Char :=
  (digits.reverse.dropWhile (· == '0')).reverse

/-- A whole part and a fraction of `width` digits. -/
def decimal (whole fraction width : Nat) : String :=
  let digits := dropZerosEnd (Text.padded width fraction).toList
  if digits.isEmpty then toString whole
  else toString whole ++ "." ++ String.ofList digits

/-- The text of a length of time, such as `1.5s` or `250ms`. -/
def text (time : Elapsed) : String :=
  let total := time.nanoseconds
  if 1000000000 ≤ total then decimal (total / 1000000000) (total % 1000000000) 9 ++ "s"
  else if 1000000 ≤ total then decimal (total / 1000000) (total % 1000000) 6 ++ "ms"
  else if 1000 ≤ total then decimal (total / 1000) (total % 1000) 3 ++ "µs"
  else decimal total 0 0 ++ "ns"

end Elapsed

end Rehearsal
