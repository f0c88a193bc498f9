/-!
Days of the civil calendar, with its leap years carried on before and after its use, and their
numbers: how many days they come after the first of January 1970.

The count is by years that begin in March, so that a leap day is the last of its year, and by eras
of 400 years, which are all of one length.
-/

namespace SchemaCheck.Calendar

/-- A year, a month from 1 to 12 and a day from 1. The year before year 1 is year 0. -/
structure Civil where
  year : Int
  month : Nat
  day : Nat
deriving DecidableEq

def isLeapYear (year : Int) : Bool :=
  year % 4 == 0 && (year % 100 != 0 || year % 400 == 0)

def daysInMonth (year : Int) (month : Nat) : Nat :=
  if month = 2 then if isLeapYear year then 29 else 28
  else if month = 4 ∨ month = 6 ∨ month = 9 ∨ month = 11 then 30
  else 31

def Civil.Valid (c : Civil) : Prop :=
  1 ≤ c.month ∧ c.month ≤ 12 ∧ 1 ≤ c.day ∧ c.day ≤ daysInMonth c.year c.month

instance (c : Civil) : Decidable c.Valid := by
  unfold Civil.Valid
  infer_instance

def eraLength : Int := 146097

/-- The first of January 1970, counted from the first of March in year 0. -/
def epochDay : Int := 719468

/-- The days from the first of March to a month, which counts from March on. -/
def monthStart (month : Int) : Int := (153 * month + 2) / 5

def Civil.dayNumber (c : Civil) : Int :=
  let year := if c.month ≤ 2 then c.year - 1 else c.year
  let month := ((c.month : Int) + 9) % 12
  let inEra := year % 400
  year / 400 * eraLength + inEra * 365 + inEra / 4 - inEra / 100 + monthStart month +
    (c.day - 1) - epochDay

def Civil.ofDayNumber (n : Int) : Civil :=
  let shifted := n + epochDay
  let inEra := shifted % eraLength
  let century := min 3 (inEra / 36524)
  let inCentury := inEra - 36524 * century
  let four := inCentury / 1461
  let inFour := inCentury % 1461
  let single := min 3 (inFour / 365)
  let inYear := inFour - 365 * single
  let month := (5 * inYear + 2) / 153
  let year := shifted / eraLength * 400 + century * 100 + four * 4 + single
  { year := if month < 10 then year else year + 1
    month := (if month < 10 then month + 3 else month - 9).toNat
    day := (inYear - monthStart month + 1).toNat }

/-- The day of the week of a day number, from Sunday on. -/
def weekday (n : Int) : Nat := ((n + 4) % 7).toNat

end SchemaCheck.Calendar
