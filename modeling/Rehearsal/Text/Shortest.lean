/-!
# Shortest decimal text of a binary64 number

The fewest significant digits that read back as the same number, the nearest of those if several
do, in positional notation for moderate magnitudes and with an exponent beyond.
-/

set_option autoImplicit false

namespace Rehearsal.Text

/-- A finite positive binary64 number `mantissa · 2^(power - 1074)`. -/
structure Binary where
  mantissa : Nat
  power : Nat
  deriving DecidableEq, Repr

/-- The magnitude held in the low 63 bits of a finite number's representation. -/
def Binary.ofBits (bits : Nat) : Binary :=
  let fraction := bits % Nat.pow 2 52
  let exponent := bits / Nat.pow 2 52 % Nat.pow 2 11
  if exponent = 0 then ⟨fraction, 0⟩ else ⟨Nat.pow 2 52 + fraction, exponent - 1⟩

/-- Twice the distance to the next number below is half as large under a power of two, unless the
numbers are evenly spaced there. -/
def Binary.narrowBelow (number : Binary) : Bool :=
  number.mantissa == Nat.pow 2 52 && 0 < number.power

/-- Whether `digits · 10^(scale - 400)` is read back as `number`: it lies between the midpoints to
the neighbours, and on a midpoint only when the mantissa is even. -/
def Binary.readsBack (number : Binary) (digits scale : Nat) : Bool :=
  let unit := Nat.pow 2 number.power * Nat.pow 10 400
  let value := 4 * digits * Nat.pow 10 scale * Nat.pow 2 1074
  let below := (4 * number.mantissa - (if number.narrowBelow then 1 else 2)) * unit
  let above := (4 * number.mantissa + 2) * unit
  if number.mantissa % 2 = 0 then below ≤ value && value ≤ above
  else below < value && value < above

/-- The number rounded down to a multiple of `10^(scale - 400)`. -/
def Binary.roundedDown (number : Binary) (scale : Nat) : Nat :=
  number.mantissa * Nat.pow 2 number.power * Nat.pow 10 400 / (Nat.pow 10 scale * Nat.pow 2 1074)

/-- Whether the upper of two neighbouring multiples is the nearer one, or as near and even. -/
def Binary.upperIsNearer (number : Binary) (lower scale : Nat) : Bool :=
  let middle := (2 * lower + 1) * Nat.pow 10 scale * Nat.pow 2 1074
  let value := 2 * number.mantissa * Nat.pow 2 number.power * Nat.pow 10 400
  middle < value || (middle == value && lower % 2 == 1)

/-- A multiple of `10^(scale - 400)` that is read back as the number, the nearer if both
neighbours are. -/
def Binary.hit? (number : Binary) (scale : Nat) : Option Nat :=
  let lower := number.roundedDown scale
  let lowerHits := lower != 0 && number.readsBack lower scale
  let upperHits := number.readsBack (lower + 1) scale
  if lowerHits && upperHits then
    some (if number.upperIsNearer lower scale then lower + 1 else lower)
  else if lowerHits then some lower
  else if upperHits then some (lower + 1)
  else none

/-- The hit on the coarsest grid, with the exponent of that grid, from `scale` down. -/
def Binary.shortestFrom (number : Binary) : Nat → Nat × Int
  | 0 => (number.roundedDown 0, -400)
  | scale + 1 =>
    match number.hit? (scale + 1) with
    | some digits => (digits, Int.ofNat (scale + 1) - 400)
    | none => number.shortestFrom scale

/-- Digits and exponent of the shortest decimal number that reads back; 710 is above the largest
scale at which any number has a hit. -/
def Binary.shortest (number : Binary) : Nat × Int :=
  number.shortestFrom 710

structure DecimalLayout where
  /-- The least position of the point, counted from the front of the digits, that is written with
  zeros after the point. -/
  leastPoint : Int
  /-- The greatest position of the point that is written without an exponent. -/
  greatestPoint : Int
  /-- The least number of digits of an exponent. -/
  exponentDigits : Nat

/-- Numbers in messages have at most four zeros after the point, at most sixteen digits in front
of it, and otherwise an exponent with its sign and two digits at least. -/
def messageLayout : DecimalLayout := ⟨-4, 16, 2⟩

/-- Writes `digits · 10^exponent`. -/
def DecimalLayout.write (layout : DecimalLayout) (digits : Nat) (exponent : Int) : String :=
  let figures := Nat.toDigits 10 digits
  let count : Int := figures.length
  let point := count + exponent
  if 0 ≤ exponent && point ≤ layout.greatestPoint then
    String.ofList (figures ++ List.replicate exponent.toNat '0' ++ ['.', '0'])
  else if 0 < point && point ≤ layout.greatestPoint then
    String.ofList (figures.take point.toNat ++ '.' :: figures.drop point.toNat)
  else if layout.leastPoint ≤ point && point ≤ 0 then
    String.ofList ('0' :: '.' :: List.replicate (-point).toNat '0' ++ figures)
  else
    let front := match figures with
      | [] => []
      | [figure] => [figure]
      | figure :: more => figure :: '.' :: more
    let size := Nat.toDigits 10 (point - 1).natAbs
    let zeros := List.replicate (layout.exponentDigits - size.length) '0'
    String.ofList (front ++ ['e', if 0 < point then '+' else '-'] ++ zeros ++ size)

def floatingText (bits : Nat) : String :=
  let sign := if bits / Nat.pow 2 63 % 2 = 1 then "-" else ""
  let number := Binary.ofBits (bits % Nat.pow 2 63)
  if number.mantissa = 0 then sign ++ "0.0"
  else
    let (digits, exponent) := number.shortest
    sign ++ messageLayout.write digits exponent

end Rehearsal.Text
