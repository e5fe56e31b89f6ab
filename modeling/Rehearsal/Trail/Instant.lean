import Rehearsal.Text.Natural
import Rehearsal.Text.Unicode
/-!
# Instants

Points in time as dates and times of day in the proleptic Gregorian calendar at zero offset: their
text with date, time and offset, its reading, and the short stamp that names a capture.
-/

set_option autoImplicit false

namespace Rehearsal

structure Instant where
  year : Int
  month : Nat
  day : Nat
  hour : Nat
  minute : Nat
  second : Nat
  nanosecond : Nat
  deriving DecidableEq, Repr, Inhabited

namespace Instant

/-! ## The calendar -/

def isLeap (year : Int) : Bool :=
  year % 4 == 0 && (year % 100 != 0 || year % 400 == 0)

def daysIn (year : Int) (month : Nat) : Nat :=
  if month = 2 then if isLeap year then 29 else 28
  else if month = 4 || month = 6 || month = 9 || month = 11 then 30
  else 31

def nextDay (time : Instant) : Instant :=
  if time.day < daysIn time.year time.month then { time with day := time.day + 1 }
  else if time.month < 12 then { time with month := time.month + 1, day := 1 }
  else { time with year := time.year + 1, month := 1, day := 1 }

def previousDay (time : Instant) : Instant :=
  if 1 < time.day then { time with day := time.day - 1 }
  else if 1 < time.month then
    { time with month := time.month - 1, day := daysIn time.year (time.month - 1) }
  else { time with year := time.year - 1, month := 12, day := 31 }

/-- The instant some seconds later, or earlier, by at most a day. -/
def shift (time : Instant) (seconds : Int) : Instant :=
  let ofDay : Int := time.hour * 3600 + time.minute * 60 + time.second + seconds
  let day := if ofDay < 0 then time.previousDay
    else if 86400 ≤ ofDay then time.nextDay
    else time
  let clock := (ofDay % 86400).toNat
  { day with hour := clock / 3600, minute := clock / 60 % 60, second := clock % 60 }

def afterDays : Nat → Instant → Instant
  | 0, time => time
  | days + 1, time => afterDays days time.nextDay

/-- The start of the count of seconds. -/
def epoch : Instant := ⟨1970, 1, 1, 0, 0, 0, 0⟩

/-- The instant of a count of seconds and nanoseconds since the epoch. -/
def ofEpoch (seconds nanoseconds : Nat) : Instant :=
  let all := seconds + nanoseconds / 1000000000
  let time := (epoch.afterDays (all / 86400)).shift (all % 86400)
  { time with nanosecond := nanoseconds % 1000000000 }

/-! ## Writing -/

/-- The text of a year: four digits, and a sign when they are not enough. -/
def yearText (year : Int) : String :=
  if 0 ≤ year && year ≤ 9999 then Text.padded 4 year.toNat
  else (if year < 0 then "-" else "+") ++ Text.padded 4 year.natAbs

/-- The text of a fraction of a second: none, or three, six or nine digits. -/
def fractionText (nanosecond : Nat) : String :=
  if nanosecond = 0 then ""
  else if nanosecond % 1000000 = 0 then "." ++ Text.padded 3 (nanosecond / 1000000)
  else if nanosecond % 1000 = 0 then "." ++ Text.padded 6 (nanosecond / 1000)
  else "." ++ Text.padded 9 nanosecond

/-- Date and time with an offset of zero. A second that was inserted into the calendar is the
sixtieth of its minute and is held as the last second with a second's worth of nanoseconds more. -/
def text (time : Instant) : String :=
  let inserted := 1000000000 ≤ time.nanosecond
  let second := if inserted then time.second + 1 else time.second
  let nanosecond := if inserted then time.nanosecond - 1000000000 else time.nanosecond
  yearText time.year ++ "-" ++ Text.padded 2 time.month ++ "-" ++ Text.padded 2 time.day ++ "T" ++
    Text.padded 2 time.hour ++ ":" ++ Text.padded 2 time.minute ++ ":" ++ Text.padded 2 second ++
    fractionText nanosecond ++ "Z"

/-- The stamp of a capture: date and time to the millisecond, without separators. -/
def stamp (time : Instant) : String :=
  yearText time.year ++ Text.padded 2 time.month ++ Text.padded 2 time.day ++ "T" ++
    Text.padded 2 time.hour ++ Text.padded 2 time.minute ++ Text.padded 2 time.second ++ "." ++
    Text.padded 3 (time.nanosecond / 1000000 % 1000) ++ "Z"

/-! ## Reading -/

/-- Why a text is no instant. -/
inductive Fault where
  | tooShort
  | tooLong
  | invalid
  /-- Some part is out of its range, or there is no such day. -/
  | outOfRange
  deriving DecidableEq, Repr

def Fault.message : Fault → String
  | .tooShort => "premature end of input"
  | .tooLong => "trailing input"
  | .invalid => "input contains invalid characters"
  | .outOfRange => "input is out of range"

def skipBlanks (text : List Char) : List Char := text.dropWhile Text.isBlank

/-- The number that at most `most` digits in front stand for, and how many there are. -/
def digitsUpTo : Nat → List Char → Nat × Nat × List Char
  | 0, text => (0, 0, text)
  | _ + 1, [] => (0, 0, [])
  | most + 1, c :: rest =>
    match Text.digitValue? c with
    | some digit =>
      let (value, count, after) := digitsUpTo most rest
      (digit * Nat.pow 10 count + value, count + 1, after)
    | none => (0, 0, c :: rest)

def number (most : Nat) (text : List Char) : Except Fault (Nat × Nat × List Char) :=
  match text with
  | [] => .error .tooShort
  | _ =>
    match digitsUpTo most text with
    | (_, 0, _) => .error .invalid
    | found => .ok found

/-- Reads a two-digit number with blanks in front, within bounds. -/
def field (least greatest : Nat) (text : List Char) : Except Fault (Nat × List Char) := do
  let (value, _, rest) ← number 2 (skipBlanks text)
  if least ≤ value && value ≤ greatest then return (value, rest) else throw .outOfRange

/-- The greatest year that can be held while a text is read. -/
def greatestYearRead : Nat := Nat.pow 2 31 - 1

/-- The greatest year of an instant; the least one is as far below zero and one more. -/
def greatestYear : Int := 262142

/-- Reads a year: four digits, or any number of them after a sign. -/
def yearField (text : List Char) : Except Fault (Int × List Char) := do
  match skipBlanks text with
  | '-' :: rest =>
    let (value, _, after) ← number rest.length rest
    if value ≤ greatestYearRead + 1 then return (-Int.ofNat value, after) else throw .outOfRange
  | '+' :: rest =>
    let (value, _, after) ← number rest.length rest
    if value ≤ greatestYearRead then return (Int.ofNat value, after) else throw .outOfRange
  | rest =>
    let (value, _, after) ← number 4 rest
    return (Int.ofNat value, after)

def separator (expected : Char) (text : List Char) : Except Fault (List Char) :=
  match skipBlanks text with
  | [] => .error .tooShort
  | c :: rest => if c = expected then .ok rest else .error .invalid

/-- Reads the fraction of a second; digits after the ninth are dropped. -/
def fraction : List Char → Except Fault (Nat × List Char)
  | '.' :: rest => do
    let (value, count, after) ← number 9 rest
    return (value * Nat.pow 10 (9 - count), after.dropWhile fun c => (Text.digitValue? c).isSome)
  | text => .ok (0, text)

/-- Reads exactly two digits, the first of which may be bounded. -/
def twoDigits : List Char → Except Fault (Nat × Nat × List Char)
  | a :: b :: rest =>
    match Text.digitValue? a, Text.digitValue? b with
    | some tens, some ones => .ok (tens, ones, rest)
    | _, _ => .error .invalid
  | _ => .error .tooShort

/-- Reads an offset in seconds: a letter for zero, or a sign, hours and minutes. -/
def offset (text : List Char) : Except Fault (Int × List Char) :=
  match text with
  | [] => .error .tooShort
  | c :: rest =>
    if c = 'Z' || c = 'z' then .ok (0, rest)
    else if c = '+' || c = '-' || c.toNat = 0x2212 then do
      let (tens, ones, afterHours) ← twoDigits rest
      let minutes := afterHours.dropWhile fun d => d = ':' || Text.isBlank d
      let (minuteTens, minuteOnes, after) ← twoDigits minutes
      if 6 ≤ minuteTens then throw .outOfRange
      let seconds : Int := (tens * 10 + ones) * 3600 + (minuteTens * 10 + minuteOnes) * 60
      return (if c = '+' then seconds else -seconds, after)
    else .error .invalid

/-- Whether a text begins with the letters of universal time. -/
def isUniversal : List Char → Bool
  | a :: b :: c :: _ => [a, b, c].map Char.toUpper == ['U', 'T', 'C']
  | _ => false

def zone (text : List Char) : Except Fault (Int × List Char) :=
  let trimmed := skipBlanks text
  if isUniversal trimmed then .ok (0, trimmed.drop 3) else offset trimmed

/-- Reads date, time and offset, and moves the instant to offset zero. -/
def ofText (text : String) : Except Fault Instant := do
  let (year, rest) ← yearField text.toList
  let rest ← separator '-' rest
  let (month, rest) ← field 1 12 rest
  let rest ← separator '-' rest
  let (day, rest) ← field 1 31 rest
  let rest ← match rest with
    | [] => throw .tooShort
    | c :: more => if c = 't' || c = 'T' || c = ' ' then pure more else throw .invalid
  let (hour, rest) ← field 0 23 rest
  let rest ← separator ':' rest
  let (minute, rest) ← field 0 59 rest
  let rest ← separator ':' rest
  let (second, rest) ← field 0 60 rest
  let (nanosecond, rest) ← fraction rest
  let (seconds, rest) ← zone rest
  if !(skipBlanks rest).isEmpty then throw .tooLong
  if 86400 ≤ seconds.natAbs then throw .outOfRange
  if greatestYear < year || year < -greatestYear - 1 then throw .outOfRange
  if daysIn year month < day then throw .outOfRange
  let inserted := second = 60
  let time : Instant :=
    ⟨year, month, day, hour, minute, if inserted then 59 else second,
      if inserted then nanosecond + 1000000000 else nanosecond⟩
  return time.shift (-seconds)

end Instant

end Rehearsal
