import SchemaCheck.Proofs.Calendar.Seconds

/-!
Dates as texts, written and read again. A year has four digits or a sign, so the layout of a date
finds the year, the month and the day where they have been written (`readParts_date`); the readers
that are tried before look for a time or a month's name and find none. So the text of a date is read
as the beginning of its day, in every year of the calendar (`ofText?_date`).
-/

namespace SchemaCheck.Calendar

open Text

section Layout

theorem scanYear_of_starts {c : Char} (digit : c.isDigit = true) (text : List Char) :
    scanYear (c :: text) = (scanNumber 1 4 (c :: text)).map fun (n, rest) => ((n : Int), rest) := by
  rw [scanYear]
  · intro _ same
    rw [(List.cons.inj same).1] at digit
    cases digit
  · intro _ same
    rw [(List.cons.inj same).1] at digit
    cases digit

theorem scanYear_text (year : Int) {rest : List Char} (ahead : NoDigitAhead rest) :
    scanYear (yearText year ++ rest) = some (year, rest) := by
  have all := padded_all 4 year.natAbs
  have filled : 1 ≤ (padded 4 year.natAbs).length :=
    List.length_pos_of_ne_nil (padded_ne_nil 4 year.natAbs)
  -- Behind a sign a number has as many digits as there are.
  have many : scanNatural (padded 4 year.natAbs ++ rest) = some (year.natAbs, rest) := by
    rw [scanNatural, scanNumber_run all ahead filled (by simp), numeral_padded]
  by_cases before : year < 0
  · have value : -(year.natAbs : Int) = year := by omega
    rw [yearText, if_pos before, List.cons_append]
    simp only [scanYear, many, Option.map_some, value]
  have value : (year.natAbs : Int) = year := by omega
  by_cases four : year ≤ 9999
  · have width : (padded 4 year.natAbs).length = 4 :=
      length_padded (by decide) (by show _ < 10000; omega)
    obtain ⟨c, more, spelled⟩ := List.exists_cons_of_ne_nil (padded_ne_nil 4 year.natAbs)
    have digit := all c (spelled ▸ List.mem_cons_self)
    have number := scanNumber_run all ahead filled (Nat.le_of_eq width)
    rw [numeral_padded, spelled, List.cons_append] at number
    rw [yearText, if_neg before, if_pos four, spelled, List.cons_append]
    simp only [scanYear_of_starts digit, number, Option.map_some, value]
  · rw [yearText, if_neg before, if_neg four, List.cons_append]
    simp only [scanYear, many, Option.map_some, value]

theorem scanPair_padded {n : Nat} (fits : n < 100) {rest : List Char} (ahead : NoDigitAhead rest) :
    scanPair (padded 2 n ++ rest) = some (n, rest) := by
  have width : (padded 2 n).length = 2 := length_padded (by decide) fits
  have starts := (padded_all 2 n).ahead_append (padded_ne_nil 2 n) rest
  rw [scanPair, skipBlanks_figure (.of_digit starts),
    scanNumber_run (padded_all 2 n) ahead (by omega) (by omega), numeral_padded]

theorem Date.text_eq (date : Date) (rest : List Char) : date.text ++ rest =
    yearText date.civil.year ++ '-' :: (padded 2 date.civil.month ++
      '-' :: (padded 2 date.civil.day ++ rest)) := by
  simp only [Date.text, List.append_assoc, List.cons_append]

theorem yearText_ne_nil (year : Int) : yearText year ≠ [] := by
  unfold yearText
  split_ifs
  · exact List.cons_ne_nil _ _
  · exact padded_ne_nil 4 _
  · exact List.cons_ne_nil _ _

theorem yearText_solid (year : Int) : ∀ c ∈ yearText year, isBlank c = false := by
  unfold yearText
  split_ifs
  · exact List.forall_mem_cons.mpr ⟨rfl, padded_solid 4 _⟩
  · exact padded_solid 4 _
  · exact List.forall_mem_cons.mpr ⟨rfl, padded_solid 4 _⟩

theorem Date.text_solid (date : Date) : ∀ c ∈ date.text, isBlank c = false := by
  simp only [Date.text, List.forall_mem_append, List.forall_mem_cons]
  exact ⟨⟨yearText_solid _, rfl, padded_solid 2 _⟩, rfl, padded_solid 2 _⟩

theorem Date.text_ne_nil (date : Date) : date.text ≠ [] := by
  unfold Date.text
  exact List.append_ne_nil_of_right_ne_nil _ (List.cons_ne_nil _ _)

def Date.parts (date : Date) : Parts where
  year := date.civil.year
  month := date.civil.month
  day := date.civil.day

theorem Date.date?_parts (date : Date) : date.parts.date? = some date := ofCivil?_civil date

/-- The layout of a date gives the date, and what stands behind it is left to further items. -/
theorem readParts_date (date : Date) (items : List Item) {rest : List Char}
    (ahead : NoDigitAhead rest) :
    readParts {} (hyphenDate ++ items) (date.text ++ rest) = readParts date.parts items rest := by
  obtain ⟨monthShort, dayShort⟩ := date.civil_short
  obtain ⟨c, more, spelled⟩ := List.exists_cons_of_ne_nil (yearText_ne_nil date.civil.year)
  have solid (behind : List Char) :
      skipBlanks (yearText date.civil.year ++ behind) = yearText date.civil.year ++ behind := by
    refine skipBlanks_of_starts fun d first => ?_
    rw [spelled] at first
    rw [← Option.some.inj first]
    exact yearText_solid _ c (spelled ▸ List.mem_cons_self)
  rw [Date.text_eq]
  simp only [hyphenDate, List.cons_append, List.nil_append, readParts, Item.scan, solid,
    scanYear_text date.civil.year (noDigitAhead_cons '-' rfl _), skip?_self,
    scanPair_padded monthShort (noDigitAhead_cons '-' rfl _), scanPair_padded dayShort ahead,
    Option.map_some, Option.bind_eq_bind, Option.bind_some]
  rfl

end Layout

section Readers

variable (date : Date)

theorem ofLayouts?_date : ofLayouts? date.text = some (.ofDate date) := by
  have read (items : List Item) := readParts_date date items noDigitAhead_nil
  simp only [List.append_nil] at read
  have alone := read []
  rw [List.append_nil] at alone
  have noMark (parts : Parts) : readParts parts (.mark 'T' :: colonTime) [] = none := rfl
  have noTime (parts : Parts) : readParts parts (.blanks :: colonTime) [] = none := rfl
  simp only [ofLayouts?, timedLayouts, dateLayouts, List.findSome?_cons, List.findSome?_nil, read,
    alone, noMark, noTime, Option.bind_none]
  rw [readParts, Option.bind_some, date.date?_parts]
  rfl

theorem ofTimestamp?_date : ofTimestamp? date.text = none := by
  obtain ⟨monthShort, dayShort⟩ := date.civil_short
  have spelled := date.text_eq []
  rw [List.append_nil] at spelled
  rw [spelled]
  by_cases four : date.FourDigitYear
  · rw [yearText_four four, ofTimestamp?]
    -- Behind the day there is no letter, and so no time.
    refine stuck_item (scanNumber_padded (by decide) four.short _) ?_
    refine stuck_item (skip?_self '-' _) (stuck_item (scanTwo_padded monthShort _) ?_)
    refine stuck_item (skip?_self '-' _) (stuck_item (scanTwo_padded dayShort _) ?_)
    rfl
  · obtain ⟨sign, more, year, isSign⟩ := yearText_signed four
    rw [year, List.cons_append, ofTimestamp?,
      scanNumber_none (by decide) 4 (noDigitAhead_sign isSign _)]
    rfl

theorem ofMailDate?_date : ofMailDate? date.text = none := by
  have spelled := date.text_eq []
  rw [List.append_nil] at spelled
  rw [spelled]
  by_cases four : date.FourDigitYear
  · have all := padded_all 4 date.civil.year.natAbs
    have width : (padded 4 date.civil.year.natAbs).length = 4 :=
      length_padded (by decide) four.short
    rw [yearText_four four]
    apply ofMailDate?_none
    · exact .of_digit (all.ahead_append (padded_ne_nil 4 _) _)
    -- Of the four digits a day takes two.
    · intro found scanned
      exact skipSomeBlanks?_figure (.of_digit (scanNumber_ahead all (by omega) _ found scanned))
  · obtain ⟨sign, more, year, isSign⟩ := yearText_signed four
    rw [year, List.cons_append]
    exact ofMailDate?_sign isSign _

/-- The text of a date is read as the beginning of its day. -/
theorem ofText?_date : ofText? date.text = some (.ofDate date) := by
  rw [ofText?, ofTimestamp?_date, ofMailDate?_date, ofLayouts?_date]
  rfl

end Readers

end SchemaCheck.Calendar
