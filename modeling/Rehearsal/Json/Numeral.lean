import Rehearsal.Json.Fault
import Rehearsal.Text.Natural
import Rehearsal.Text.Shortest
/-!
# Numerals

A numeral as it is written, and the number it stands for: a natural number or a negative integer of
64 bits where it is an integer of that range, and a binary64 number otherwise.
-/

set_option autoImplicit false

namespace Rehearsal.Json

/-- The parts of a numeral: its digits before and after the point and its power of ten. -/
structure Numeral where
  negative : Bool
  whole : List Nat
  fraction : Option (List Nat)
  /-- Whether the power is negative, and its digits. -/
  power : Option (Bool × List Nat)
  deriving DecidableEq, Repr

inductive Number where
  | natural (value : Nat)
  /-- The integer `-magnitude`. -/
  | negative (magnitude : Nat)
  /-- The text of a binary64 number. -/
  | floating (shown : String)
  deriving DecidableEq, Repr

/-- Appends a digit to a significand that must stay a word of 64 bits. -/
def appendDigit? (significand digit : Nat) : Option Nat :=
  let longer := significand * 10 + digit
  if longer < Text.bound64 then some longer else none

/-- Reads the digits before the point: those that no longer fit only count. -/
def wholeSignificand : Nat → List Nat → Nat × Int
  | significand, [] => (significand, 0)
  | significand, digit :: rest =>
    match appendDigit? significand digit with
    | some longer => wholeSignificand longer rest
    | none => (significand, Int.ofNat (rest.length + 1))

/-- Reads the digits after the point: from the first that no longer fits on they are dropped. -/
def fractionSignificand : Nat → Int → List Nat → Nat × Int
  | significand, exponent, [] => (significand, exponent)
  | significand, exponent, digit :: rest =>
    match appendDigit? significand digit with
    | some longer => fractionSignificand longer (exponent - 1) rest
    | none => (significand, exponent)

def digitsValue (digits : List Nat) : Nat :=
  digits.foldl (fun value digit => value * 10 + digit) 0

/-- The greatest power of ten that is given by a word of 31 bits. -/
def greatestPower : Nat := Nat.pow 2 31 - 1

/-- A power of ten up to the 308th, rounded to binary64. -/
def powerOfTen (power : Nat) : Float := Float.ofScientific 1 false power

/-- Multiplies by a power of ten, at most the 308th in one step; the product is out of range when
it is infinite. -/
def scaleFrom : Nat → Float → Int → Except Fault Float
  | 0, value, _ => .ok value
  | fuel + 1, value, exponent =>
    if exponent.natAbs ≤ 308 then
      if 0 ≤ exponent then
        let product := value * powerOfTen exponent.natAbs
        if product.isInf then .error .numberRange else .ok product
      else .ok (value / powerOfTen exponent.natAbs)
    else if value == 0 then .ok value
    else if 0 ≤ exponent then .error .numberRange
    else scaleFrom fuel (value / powerOfTen 308) (exponent + 308)

/-- `significand · 10^exponent` as a binary64 number. After three steps down any value is zero. -/
def scale (significand : Nat) (exponent : Int) : Except Fault Float :=
  scaleFrom 6 (UInt64.ofNat significand).toFloat exponent

def signed (negative : Bool) (value : Float) : Number :=
  .floating (Text.floatingText (if negative then -value else value).toBits.toNat)

def Numeral.floating (numeral : Numeral) : Except Fault Number :=
  let (whole, wholeExponent) := wholeSignificand 0 numeral.whole
  let (significand, exponent) := match numeral.fraction with
    | some digits => fractionSignificand whole wholeExponent digits
    | none => (whole, wholeExponent)
  match numeral.power with
  | none => (scale significand exponent).map (signed numeral.negative)
  | some (down, digits) =>
    let power := digitsValue digits
    if greatestPower < power then
      if significand ≠ 0 && !down then .error .numberRange
      else .ok (signed numeral.negative 0)
    else
      let total := if down then exponent - Int.ofNat power else exponent + Int.ofNat power
      (scale significand total).map (signed numeral.negative)

/-- The number that a numeral stands for, unless it is out of range. Negative zero is no integer. -/
def Numeral.number (numeral : Numeral) : Except Fault Number :=
  match numeral.fraction, numeral.power with
  | none, none =>
    let value := digitsValue numeral.whole
    if !numeral.negative && value < Text.bound64 then .ok (.natural value)
    else if numeral.negative && value ≠ 0 && value ≤ Nat.pow 2 63 then .ok (.negative value)
    else numeral.floating
  | _, _ => numeral.floating

end Rehearsal.Json
