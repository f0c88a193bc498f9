import SchemaCheck.Calendar.Layout
import SchemaCheck.Number.Power

/-!
Instants as Internet timestamps: a date, a time and an offset with numbers of fixed width, such as
`2023-01-01T14:30:00.5+02:00`. This is also how instants and dates are written.
-/

namespace SchemaCheck.Calendar

open Text

def scanTwo (text : List Char) : Option (Nat × List Char) := scanNumber 2 2 text

/-- The nanoseconds of a fraction; digits after the ninth do not count. -/
def scanFraction (text : List Char) : Option (Nat × List Char) :=
  let digits := text.takeWhile Char.isDigit
  if digits.isEmpty then none
  else
    let kept := digits.take 9
    some (numeral kept * tenTo (9 - kept.length), text.drop digits.length)

/-- The sign of an offset; `minus` says whether the sign U+2212 may stand for a hyphen. -/
def scanSign (minus : Bool) : List Char → Option (Int × List Char)
  | '+' :: rest => some (1, rest)
  | '-' :: rest => some (-1, rest)
  | c :: rest => if minus && c == Char.ofNat 0x2212 then some (-1, rest) else none
  | [] => none

def scanOffsetMinutes (text : List Char) : Option (Nat × List Char) := do
  let (minutes, rest) ← scanTwo text
  if minutes < 60 then return (minutes, rest) else none

/-- An offset in seconds: `Z`, or hours and minutes with a colon and less than a day. -/
def scanColonOffset (text : List Char) : Option (Int × List Char) :=
  match text with
  | 'Z' :: rest => some (0, rest)
  | 'z' :: rest => some (0, rest)
  | _ => do
    let (sign, rest) ← scanSign true text
    let (hours, rest) ← scanTwo rest
    let rest ← skip? ':' rest
    let (minutes, rest) ← scanOffsetMinutes rest
    if hours < 24 then return (sign * (hours * 3600 + minutes * 60), rest) else none

/-- The text behind the letter, in either case, or the blank between a date and a time. -/
def skipDateEnd? : List Char → Option (List Char)
  | [] => none
  | c :: rest => if c = 'T' ∨ c = 't' ∨ c = ' ' then some rest else none

def scanOptionalFraction : List Char → Option (Nat × List Char)
  | '.' :: rest => scanFraction rest
  | text => some (0, text)

def ofTimestamp? (text : List Char) : Option Instant := do
  let (year, rest) ← scanNumber 4 4 text
  let rest ← skip? '-' rest
  let (month, rest) ← scanTwo rest
  let rest ← skip? '-' rest
  let (day, rest) ← scanTwo rest
  let rest ← skipDateEnd? rest
  let (hour, rest) ← scanTwo rest
  let rest ← skip? ':' rest
  let (minute, rest) ← scanTwo rest
  let rest ← skip? ':' rest
  let (second, rest) ← scanTwo rest
  let (nanosecond, rest) ← scanOptionalFraction rest
  let (offset, rest) ← scanColonOffset rest
  if rest.isEmpty then
    Parts.instant? { year, month, day, hour, minute, second, nanosecond } offset
  else none

/-- A year with four digits; before year 0 and after year 9999 it has a sign. -/
def yearText (year : Int) : List Char :=
  if year < 0 then '-' :: padded 4 year.natAbs
  else if year ≤ 9999 then padded 4 year.natAbs
  else '+' :: padded 4 year.natAbs

def Date.text (date : Date) : List Char :=
  let civil := date.civil
  yearText civil.year ++ '-' :: padded 2 civil.month ++ '-' :: padded 2 civil.day

/-- The digits of a fraction of a second without zeros at its end, after a point. -/
def fractionText (nanosecond : Nat) : List Char :=
  if nanosecond = 0 then []
  else '.' :: ((padded 9 nanosecond).reverse.dropWhile (· == '0')).reverse

/-- A time of day; a leap second is second 60. -/
def Clock.text (clock : Clock) : List Char :=
  let second := clock.second % 60 + if clock.isLeapSecond then 1 else 0
  padded 2 clock.hour ++ ':' :: padded 2 clock.minute ++ ':' :: padded 2 second ++
    fractionText (clock.nanosecond % secondLength)

def Instant.text (i : Instant) : List Char := i.date.text ++ 'T' :: i.clock.text ++ ['Z']

end SchemaCheck.Calendar
