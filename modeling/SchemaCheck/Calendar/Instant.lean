import SchemaCheck.Calendar.Civil

/-!
Dates, times of day, and instants in universal time. Dates reach from the year -262143 to the year
262142; a leap second is the second in front of it with a billion nanoseconds more.
-/

namespace SchemaCheck.Calendar

/-- The first day, which is the first of January -262143. -/
def firstDay : Int := -96465292

/-- The last day, which is the 31st of December 262142. -/
def lastDay : Int := 95026236

structure Date where
  dayNumber : Int
  first_le : firstDay ≤ dayNumber
  le_last : dayNumber ≤ lastDay
deriving DecidableEq

namespace Date

def ofDayNumber? (n : Int) : Option Date :=
  if h : firstDay ≤ n ∧ n ≤ lastDay then some ⟨n, h.1, h.2⟩ else none

def ofCivil? (c : Civil) : Option Date :=
  if c.Valid then ofDayNumber? c.dayNumber else none

def civil (date : Date) : Civil := Civil.ofDayNumber date.dayNumber

end Date

def dayLength : Nat := 86400

def secondLength : Nat := 1000000000

structure Clock where
  second : Nat
  nanosecond : Nat
  second_lt : second < dayLength
  nanosecond_lt : nanosecond < 2 * secondLength
deriving DecidableEq

namespace Clock

def midnight : Clock := ⟨0, 0, by decide, by decide⟩

/-- The time with the given hour, minute, second and nanosecond. The second 60 is a leap second. -/
def ofParts? (hour minute second nanosecond : Nat) : Option Clock :=
  if h : hour < 24 ∧ minute < 60 ∧ second ≤ 60 ∧ nanosecond < secondLength then
    if second = 60 then
      some
        { second := hour * 3600 + minute * 60 + 59
          nanosecond := nanosecond + secondLength
          second_lt := by
            unfold dayLength
            omega
          nanosecond_lt := by
            have := h.2.2.2
            omega }
    else if short : second < 60 then
      some
        { second := hour * 3600 + minute * 60 + second
          nanosecond
          second_lt := by
            unfold dayLength
            omega
          nanosecond_lt := by
            have := h.2.2.2
            omega }
    else none
  else none

def hour (clock : Clock) : Nat := clock.second / 3600

def minute (clock : Clock) : Nat := clock.second / 60 % 60

def isLeapSecond (clock : Clock) : Bool := secondLength ≤ clock.nanosecond

end Clock

structure Instant where
  date : Date
  clock : Clock
deriving DecidableEq

namespace Instant

def unixSeconds (i : Instant) : Int := i.date.dayNumber * dayLength + i.clock.second

def ofUnix? (seconds : Int) (nanosecond : Nat) : Option Instant := do
  let date ← Date.ofDayNumber? (seconds / dayLength)
  if h : nanosecond < 2 * secondLength then
    return ⟨date,
      { second := (seconds % dayLength).toNat
        nanosecond
        second_lt := by
          unfold dayLength
          omega
        nanosecond_lt := h }⟩
  else none

def ofDate (date : Date) : Instant := ⟨date, .midnight⟩

/-- The instant that a clock shows which is `offset` seconds ahead of universal time. -/
def atOffset? (date : Date) (clock : Clock) (offset : Int) : Option Instant :=
  ofUnix? ((⟨date, clock⟩ : Instant).unixSeconds - offset) clock.nanosecond

end Instant

end SchemaCheck.Calendar
