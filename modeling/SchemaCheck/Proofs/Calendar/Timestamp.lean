import Mathlib.Data.List.DropRight
import SchemaCheck.Calendar.Internet
import SchemaCheck.Proofs.Calendar.Civil
import SchemaCheck.Proofs.Text.Scan

/-!
Instants as timestamps, written and read again. The reader takes years of four digits only and
knows a leap second by the second 60. So it reads the text of an instant as this instant, if the
year lies between 0 and 9999 and a leap second ends its minute (`ofTimestamp?_text`), and no text of
a year with a sign (`ofTimestamp?_signed`).
-/

namespace SchemaCheck.Calendar

open Text

def Date.FourDigitYear (date : Date) : Prop := 0 ≤ date.civil.year ∧ date.civil.year ≤ 9999

instance (date : Date) : Decidable date.FourDigitYear := by
  unfold Date.FourDigitYear
  infer_instance

namespace Clock

/-- A leap second is the last second of its minute. -/
def Regular (clock : Clock) : Prop := clock.isLeapSecond = true → clock.second % 60 = 59

def shownSecond (clock : Clock) : Nat :=
  clock.second % 60 + if clock.isLeapSecond then 1 else 0

theorem hour_lt (clock : Clock) : clock.hour < 24 :=
  Nat.div_lt_of_lt_mul clock.second_lt

theorem minute_lt (clock : Clock) : clock.minute < 60 := Nat.mod_lt _ (by decide)

theorem fraction_lt (clock : Clock) : clock.nanosecond % secondLength < secondLength :=
  Nat.mod_lt _ (by decide)

theorem shownSecond_le (clock : Clock) : clock.shownSecond ≤ 60 := by
  unfold shownSecond
  split <;> omega

theorem shown_short (clock : Clock) :
    clock.hour < 100 ∧ clock.minute < 100 ∧ clock.shownSecond < 100 := by
  have hour := clock.hour_lt
  have minute := clock.minute_lt
  have second := clock.shownSecond_le
  omega

theorem Regular.ofParts? {clock : Clock} (regular : clock.Regular) :
    ofParts? clock.hour clock.minute clock.shownSecond (clock.nanosecond % secondLength) =
      some clock := by
  have bounds := And.intro clock.hour_lt
    (And.intro clock.minute_lt (And.intro clock.shownSecond_le clock.fraction_lt))
  have small := clock.nanosecond_lt
  rw [Clock.ofParts?, dif_pos bounds]
  -- A leap second is kept as the second in front of it with a billion nanoseconds more.
  by_cases leap : clock.isLeapSecond = true
  · have last := regular leap
    have sixty : clock.shownSecond = 60 := by rw [shownSecond, last, if_pos leap]
    have large : secondLength ≤ clock.nanosecond := of_decide_eq_true leap
    rw [if_pos sixty]
    congr 2
    · unfold hour minute
      omega
    · unfold secondLength at *
      omega
  · have shown : clock.shownSecond = clock.second % 60 := by
      rw [shownSecond, if_neg leap, Nat.add_zero]
    have short : clock.shownSecond < 60 := shown ▸ Nat.mod_lt _ (by decide)
    have below : clock.nanosecond < secondLength := by
      simpa [isLeapSecond] using leap
    rw [if_neg (Nat.ne_of_lt short), dif_pos short]
    congr 2
    · unfold hour minute
      omega
    · exact Nat.mod_eq_of_lt below

end Clock

theorem Date.civil_short (date : Date) : date.civil.month < 100 ∧ date.civil.day < 100 := by
  obtain ⟨_, month, _, day⟩ := Civil.ofDayNumber_valid date.dayNumber
  refine ⟨Nat.lt_of_le_of_lt month (by decide), Nat.lt_of_le_of_lt day ?_⟩
  unfold daysInMonth
  split <;> split <;> omega

theorem Instant.atOffset?_zero (i : Instant) : atOffset? i.date i.clock 0 = some i := by
  have early := i.clock.second_lt
  have day : (i.unixSeconds - 0) / (dayLength : Int) = i.date.dayNumber := by
    unfold unixSeconds dayLength at *
    omega
  have second : ((i.unixSeconds - 0) % (dayLength : Int)).toNat = i.clock.second := by
    unfold unixSeconds dayLength at *
    omega
  have known : Date.ofDayNumber? i.date.dayNumber = some i.date :=
    dif_pos ⟨i.date.first_le, i.date.le_last⟩
  simp only [atOffset?, ofUnix?, day, known, second, i.clock.nanosecond_lt]
  rfl

/-- A fraction is written without zeros at its end and read as if they were there. -/
theorem scanOptionalFraction_text {nanosecond : Nat} (small : nanosecond < secondLength)
    (rest : List Char) :
    scanOptionalFraction (fractionText nanosecond ++ 'Z' :: rest) =
      some (nanosecond, 'Z' :: rest) := by
  by_cases none : nanosecond = 0
  · rw [none]
    rfl
  set digits := (padded 9 nanosecond).rdropWhile (· == '0') with digits_eq
  set zeros := (padded 9 nanosecond).rtakeWhile (· == '0') with zeros_eq
  have whole : digits ++ zeros = padded 9 nanosecond := List.rdropWhile_append_rtakeWhile
  -- What has been trimmed are zeros, which the reader makes up for by a power of ten.
  have onlyZeros : zeros = List.replicate zeros.length '0' :=
    List.eq_replicate_of_mem fun c member => by simpa using List.mem_rtakeWhile_imp member
  have length : digits.length + zeros.length = 9 := by
    rw [← List.length_append, whole, length_padded (by decide) small]
  have value : numeral digits * tenTo zeros.length = nanosecond := by
    rw [← numeral_zeros, ← onlyZeros, whole, numeral_padded]
  have filled : digits ≠ [] := by
    intro empty
    rw [empty] at value
    exact none (value.symm.trans (Nat.zero_mul _))
  have all : AllDigits digits := by
    intro c member
    exact padded_all 9 nanosecond c (whole ▸ List.mem_append_left _ member)
  have run := takeWhile_digits all (noDigitAhead_cons 'Z' rfl rest)
  have written : fractionText nanosecond = '.' :: digits := if_neg none
  rw [written, List.cons_append, scanOptionalFraction]
  simp only [scanFraction, run, List.isEmpty_eq_false_iff.mpr filled, Bool.false_eq_true, if_false,
    List.take_of_length_le (show digits.length ≤ 9 by omega), List.drop_left]
  rw [show 9 - digits.length = zeros.length by omega, value]

section Reader

variable {i : Instant}

theorem scanTwo_padded {n : Nat} (fits : n < 100) (rest : List Char) :
    scanTwo (padded 2 n ++ rest) = some (n, rest) :=
  scanNumber_padded (by decide) fits rest

theorem skipDateEnd?_letter (rest : List Char) : skipDateEnd? ('T' :: rest) = some rest :=
  rfl

theorem Date.FourDigitYear.short {date : Date} (four : date.FourDigitYear) :
    date.civil.year.natAbs < tenTo 4 := by
  obtain ⟨low, high⟩ := four
  show _ < 10000
  omega

theorem yearText_four {date : Date} (four : date.FourDigitYear) :
    yearText date.civil.year = padded 4 date.civil.year.natAbs := by
  rw [yearText, if_neg (by exact not_lt.mpr four.1), if_pos four.2]

/-- A chain of readers goes on behind what the first one has found. -/
theorem read_item {α : Type} {scanned : Option α} {further : α → Option Instant} {found : α}
    (here : scanned = some found) (behind : further found = some i) :
    (scanned >>= further) = some i :=
  Option.bind_eq_some_iff.mpr ⟨found, here, behind⟩

theorem stuck_item {α : Type} {scanned : Option α} {further : α → Option Instant} {found : α}
    (here : scanned = some found) (behind : further found = none) :
    (scanned >>= further) = none := by
  rw [here]
  exact behind

theorem Instant.text_eq (i : Instant) : i.text =
    yearText i.date.civil.year ++ '-' :: (padded 2 i.date.civil.month ++
      '-' :: (padded 2 i.date.civil.day ++ 'T' :: (padded 2 i.clock.hour ++
        ':' :: (padded 2 i.clock.minute ++ ':' :: (padded 2 i.clock.shownSecond ++
          (fractionText (i.clock.nanosecond % secondLength) ++ ['Z'])))))) := by
  simp only [Instant.text, Date.text, Clock.text, Clock.shownSecond, List.append_assoc,
    List.cons_append]

theorem ofTimestamp?_text (four : i.date.FourDigitYear) (regular : i.clock.Regular) :
    ofTimestamp? i.text = some i := by
  obtain ⟨monthShort, dayShort⟩ := i.date.civil_short
  obtain ⟨hourShort, minuteShort, secondShort⟩ := i.clock.shown_short
  have year : (i.date.civil.year.natAbs : Int) = i.date.civil.year := Int.natAbs_of_nonneg four.1
  rw [Instant.text_eq, yearText_four four, ofTimestamp?]
  -- Each reader meets the number and the mark that have been written for it.
  refine read_item (scanNumber_padded (by decide) four.short _) (read_item (skip?_self '-' _) ?_)
  refine read_item (scanTwo_padded monthShort _) (read_item (skip?_self '-' _) ?_)
  refine read_item (scanTwo_padded dayShort _) (read_item (skipDateEnd?_letter _) ?_)
  refine read_item (scanTwo_padded hourShort _) (read_item (skip?_self ':' _) ?_)
  refine read_item (scanTwo_padded minuteShort _) (read_item (skip?_self ':' _) ?_)
  refine read_item (scanTwo_padded secondShort _) ?_
  refine read_item (scanOptionalFraction_text i.clock.fraction_lt _) ?_
  have date : Date.ofCivil? ⟨i.date.civil.year, i.date.civil.month, i.date.civil.day⟩ =
      some i.date := Date.ofCivil?_civil i.date
  show Parts.instant? _ 0 = some i
  simp only [Parts.instant?, Parts.date?, Parts.clock?, year, date, regular.ofParts?]
  exact i.atOffset?_zero

/-- Any other year starts with a sign. -/
theorem yearText_signed {date : Date} (other : ¬date.FourDigitYear) :
    ∃ sign rest, yearText date.civil.year = sign :: rest ∧ (sign = '-' ∨ sign = '+') := by
  rw [yearText]
  by_cases before : date.civil.year < 0
  · rw [if_pos before]
    exact ⟨'-', _, rfl, .inl rfl⟩
  · have after : ¬date.civil.year ≤ 9999 := fun low => other ⟨not_lt.mp before, low⟩
    rw [if_neg before, if_neg after]
    exact ⟨'+', _, rfl, .inr rfl⟩

theorem Instant.text_signed (other : ¬i.date.FourDigitYear) :
    ∃ sign rest, i.text = sign :: rest ∧ (sign = '-' ∨ sign = '+') := by
  obtain ⟨sign, rest, year, isSign⟩ := yearText_signed other
  rw [Instant.text_eq, year, List.cons_append]
  exact ⟨sign, _, rfl, isSign⟩

theorem noDigitAhead_sign {sign : Char} (isSign : sign = '-' ∨ sign = '+') (rest : List Char) :
    NoDigitAhead (sign :: rest) := by
  rcases isSign with rfl | rfl
  · exact noDigitAhead_cons '-' rfl rest
  · exact noDigitAhead_cons '+' rfl rest

theorem ofTimestamp?_signed (other : ¬i.date.FourDigitYear) : ofTimestamp? i.text = none := by
  obtain ⟨sign, rest, text, isSign⟩ := Instant.text_signed other
  rw [text, ofTimestamp?, scanNumber_none (by decide) 4 (noDigitAhead_sign isSign rest)]
  rfl

end Reader

end SchemaCheck.Calendar
