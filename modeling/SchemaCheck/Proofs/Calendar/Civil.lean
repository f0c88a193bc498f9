import Mathlib.Tactic.IntervalCases
import SchemaCheck.Calendar.Instant

/-!
Days and their numbers. A day has its place in a year that begins in March (`MarchDay`), and from
this place follow both its number and its date in the calendar. So every day number is that of a
valid date (`Civil.ofDayNumber_valid`, `Civil.dayNumber_ofDayNumber`), and a date that is taken
apart into year, month and day is put together again (`Date.ofCivil?_civil`).
-/

namespace SchemaCheck.Calendar

/-- A day by its place in the years that begin in March: the era of 400 years, the century in it,
the span of four years in the century, the year in the span, and the day in the year. -/
structure MarchDay where
  era : Int
  century : Int
  four : Int
  single : Int
  inYear : Int
  century_bounds : 0 ≤ century ∧ century ≤ 3
  four_bounds : 0 ≤ four ∧ four ≤ 24
  single_bounds : 0 ≤ single ∧ single ≤ 3
  inYear_bounds : 0 ≤ inYear ∧ inYear ≤ 365
  /-- Just the last year of a span has a 366th day, and of the spans that end a century just the
  last one in the era. -/
  leap : inYear = 365 → single = 3 ∧ (four = 24 → century = 3)

namespace MarchDay

def year (d : MarchDay) : Int := d.era * 400 + d.century * 100 + d.four * 4 + d.single

/-- The month, which counts from March on. -/
def month (d : MarchDay) : Int := (5 * d.inYear + 2) / 153

def civil (d : MarchDay) : Civil where
  year := if d.month < 10 then d.year else d.year + 1
  month := (if d.month < 10 then d.month + 3 else d.month - 9).toNat
  day := (d.inYear - monthStart d.month + 1).toNat

def number (d : MarchDay) : Int :=
  d.era * eraLength + d.century * 36524 + d.four * 1461 + d.single * 365 + d.inYear - epochDay

variable (d : MarchDay)

theorem year_eras : d.year / 400 = d.era ∧
    d.year % 400 = d.century * 100 + d.four * 4 + d.single := by
  have century := d.century_bounds
  have four := d.four_bounds
  have single := d.single_bounds
  unfold year
  omega

/-- The day lies in its month, which is one of twelve. -/
theorem month_bounds : 0 ≤ d.month ∧ d.month ≤ 11 ∧ monthStart d.month ≤ d.inYear ∧
    d.inYear < monthStart (d.month + 1) := by
  have bounds := d.inYear_bounds
  unfold month monthStart
  omega

theorem civil_month :
    (d.civil.month : Int) = if d.month < 10 then d.month + 3 else d.month - 9 := by
  obtain ⟨low, high, _⟩ := d.month_bounds
  dsimp only [civil]
  split <;> omega

theorem civil_day : (d.civil.day : Int) = d.inYear - monthStart d.month + 1 := by
  obtain ⟨_, _, start, _⟩ := d.month_bounds
  dsimp only [civil]
  omega

theorem civil_dayNumber : d.civil.dayNumber = d.number := by
  obtain ⟨low, high, start, _⟩ := d.month_bounds
  obtain ⟨era, inEra⟩ := d.year_eras
  have century := d.century_bounds
  have four := d.four_bounds
  have single := d.single_bounds
  have month := d.civil_month
  have sinceMarch : ((d.civil.month : Int) + 9) % 12 = d.month := by
    rw [month]
    split <;> omega
  have year : (if d.civil.month ≤ 2 then d.civil.year - 1 else d.civil.year) = d.year := by
    dsimp only [civil]
    split <;> split <;> omega
  simp only [Civil.dayNumber, sinceMarch, year, d.civil_day, era, inEra]
  unfold number
  omega

/-- A year with a 366th day ends in a leap day. -/
theorem leapYear_of_last (last : d.inYear = 365) : isLeapYear (d.year + 1) = true := by
  obtain ⟨single, century⟩ := d.leap last
  have four := d.four_bounds
  unfold isLeapYear year
  simp only [Bool.and_eq_true, Bool.or_eq_true, beq_iff_eq, bne_iff_ne]
  omega

/-- From March to January a month is as long as it takes to the next one. -/
theorem daysInMonth_march (year : Int) (month : Nat) (low : month ≤ 10) :
    (daysInMonth year (if month < 10 then month + 3 else month - 9) : Int) =
      monthStart (month + 1) - monthStart month := by
  interval_cases month <;> rfl

theorem civil_day_le : d.civil.day ≤ daysInMonth d.civil.year d.civil.month := by
  obtain ⟨low, high, start, stop⟩ := d.month_bounds
  have inYear := d.inYear_bounds
  have month := d.civil_month
  have day := d.civil_day
  -- February ends the year that began in March, so its length hangs on the year behind.
  by_cases february : d.month = 11
  · have second : d.civil.month = 2 := by
      rw [february] at month
      exact Int.ofNat.inj month
    have year : d.civil.year = d.year + 1 := by
      dsimp only [civil]
      rw [if_neg (by omega)]
    have before : monthStart 11 = 337 := rfl
    rw [february, before] at day
    rw [second, daysInMonth, if_pos rfl, year]
    split
    · omega
    next ordinary =>
      have short : d.inYear ≠ 365 := fun last => ordinary (d.leapYear_of_last last)
      omega
  · have length := daysInMonth_march d.civil.year d.month.toNat (by omega)
    have same : (if d.month.toNat < 10 then d.month.toNat + 3 else d.month.toNat - 9) =
        d.civil.month := by
      split at month <;> split <;> omega
    rw [same, Int.toNat_of_nonneg low] at length
    omega

theorem civil_valid : d.civil.Valid := by
  obtain ⟨low, high, start, _⟩ := d.month_bounds
  have month := d.civil_month
  have day := d.civil_day
  refine ⟨?_, ?_, ?_, d.civil_day_le⟩
  · split at month <;> omega
  · split at month <;> omega
  · omega

theorem inEra_range (n : Int) :
    0 ≤ (n + epochDay) % eraLength ∧ (n + epochDay) % eraLength < 146097 := by
  unfold eraLength
  omega

def ofDayNumber (n : Int) : MarchDay :=
  let inEra := (n + epochDay) % eraLength
  let century := min 3 (inEra / 36524)
  let inCentury := inEra - 36524 * century
  let inFour := inCentury % 1461
  let single := min 3 (inFour / 365)
  have range : 0 ≤ inEra ∧ inEra < 146097 := inEra_range n
  { era := (n + epochDay) / eraLength
    century
    four := inCentury / 1461
    single
    inYear := inFour - 365 * single
    century_bounds := by omega
    four_bounds := by omega
    single_bounds := by omega
    inYear_bounds := by omega
    leap := by omega }

theorem civil_ofDayNumber (n : Int) : (ofDayNumber n).civil = Civil.ofDayNumber n := rfl

theorem number_ofDayNumber (n : Int) : (ofDayNumber n).number = n := by
  have era := Int.mul_ediv_add_emod (n + epochDay) eraLength
  unfold number ofDayNumber
  dsimp only
  rw [Int.mul_comm] at era
  omega

end MarchDay

theorem Civil.ofDayNumber_valid (n : Int) : (ofDayNumber n).Valid :=
  MarchDay.civil_ofDayNumber n ▸ (MarchDay.ofDayNumber n).civil_valid

/-- The date of a day number has that number. -/
theorem Civil.dayNumber_ofDayNumber (n : Int) : (ofDayNumber n).dayNumber = n := by
  rw [← MarchDay.civil_ofDayNumber, MarchDay.civil_dayNumber, MarchDay.number_ofDayNumber]

theorem Date.ofCivil?_civil (date : Date) : ofCivil? date.civil = some date := by
  have bounds := And.intro date.first_le date.le_last
  rw [ofCivil?, civil, if_pos (Civil.ofDayNumber_valid _), Civil.dayNumber_ofDayNumber,
    ofDayNumber?, dif_pos bounds]

end SchemaCheck.Calendar
