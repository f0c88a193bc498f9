import SchemaCheck.Proofs.Calendar.LeapSecond
import SchemaCheck.Proofs.Calendar.SignedYear
import SchemaCheck.Proofs.Coercion.Semantic

/-!
Coercion to the text of a date with its time, and again. The text is that of an instant in universal
time. From the years 0 to 9999 it is read as this instant and is its own canonical text; the text of
any other year is not read at all (`SemanticFormat.dateTime_again`). Such years come from a number
of seconds, from a year with a sign, or from an offset at either end of the four digits.
-/

namespace SchemaCheck

open Calendar
open Json (Value)

theorem Calendar.Instant.text_head (i : Instant) :
    ∃ c rest, i.text = c :: rest ∧ Text.isBlank c = false := by
  by_cases four : i.date.FourDigitYear
  · rw [Instant.text_eq, yearText_four four]
    exact Text.starts_solid (Text.padded_ne_nil 4 _) (Text.padded_solid 4 _) _
  · obtain ⟨sign, rest, text, isSign⟩ := Instant.text_signed four
    refine ⟨sign, rest, text, ?_⟩
    rcases isSign with rfl | rfl <;> rfl

namespace Coercion

variable {i : Instant} {value : Value}

theorem givenText?_instant (i : Instant) :
    givenText? (.string (String.ofList i.text)) = some i.text := by
  obtain ⟨c, rest, starts, _⟩ := i.text_head
  have filled : i.text ≠ [] := by
    rw [starts]
    exact List.cons_ne_nil c rest
  have kept : Text.trim i.text = i.text :=
    Text.trim_of_ends i.text_head ⟨i.date.text ++ 'T' :: i.clock.text, 'Z', rfl, rfl⟩
  exact givenText?_trimmed filled kept

theorem toInstant?_regular (value : Value) : GivesRegular (toInstant? value) := by
  cases value with
  | number n => exact .bind fun seconds _ => regular_unixSeconds seconds
  | _ => exact .bind fun text _ => regular_text text

theorem toInstant?_again (read : toInstant? value = some i) :
    toInstant? (.string (String.ofList i.text)) =
      if i.date.FourDigitYear then some i else none := by
  show (givenText? (.string (String.ofList i.text))).bind ofText? = _
  rw [givenText?_instant, Option.bind_some]
  split
  next four =>
    rw [ofText?, ofTimestamp?_text four (toInstant?_regular value i read)]
    rfl
  next other => exact ofText?_signed other

end Coercion

section Again

variable {name : String}

theorem Kind.read?_dateTime (named : SemanticFormat.ofName? name = some .dateTime)
    (value : Value) : Kind.read? .string (some name) value =
      (Coercion.toInstant? value).map fun i => .json (.string (String.ofList i.text)) := by
  rw [Kind.read?_named named, SemanticFormat.read?, Option.map_map]
  rfl

/-- Whatever a value is, if it is coerced to the text of a date with its time, this text stands for
the same instant and is coerced to itself, provided that the instant lies in the years 0 to 9999.
Otherwise the text is not coerced. -/
theorem SemanticFormat.dateTime_again (named : SemanticFormat.ofName? name = some .dateTime)
    {value : Value} {text : String}
    (coerced : Kind.read? .string (some name) value = some (.json (.string text))) :
    ∃ i, dateTime.read? value = some (.instant i) ∧
      if i.date.FourDigitYear then
        dateTime.read? (.string text) = some (.instant i) ∧
          Kind.read? .string (some name) (.string text) = some (.json (.string text))
      else
        dateTime.read? (.string text) = none ∧
          Kind.read? .string (some name) (.string text) = none := by
  rw [Kind.read?_dateTime named] at coerced
  obtain ⟨i, read, same⟩ := Option.map_eq_some_iff.mp coerced
  have spelled : String.ofList i.text = text := by
    injection same with same
    injection same
  have again := Coercion.toInstant?_again read
  rw [spelled] at again
  refine ⟨i, by rw [SemanticFormat.read?, read, Option.map_some], ?_⟩
  rw [Kind.read?_dateTime named, SemanticFormat.read?]
  split
  next four =>
    rw [again, if_pos four, Option.map_some, Option.map_some, spelled]
    exact ⟨rfl, rfl⟩
  next other =>
    rw [again, if_neg other]
    exact ⟨rfl, rfl⟩

/-- A leap second with a fraction, as it is shown five hours behind universal time. -/
theorem SemanticFormat.dateTime_again_leap :
    Kind.read? .string (some "date-time") (.string "2016-12-31T18:59:60.50-05:00") =
        some (.json (.string "2016-12-31T23:59:60.5Z")) ∧
      ∃ i, dateTime.read? (.string "2016-12-31T18:59:60.50-05:00") = some (.instant i) ∧
        if i.date.FourDigitYear then
          dateTime.read? (.string "2016-12-31T23:59:60.5Z") = some (.instant i) ∧
            Kind.read? .string (some "date-time") (.string "2016-12-31T23:59:60.5Z") =
              some (.json (.string "2016-12-31T23:59:60.5Z"))
        else
          dateTime.read? (.string "2016-12-31T23:59:60.5Z") = none ∧
            Kind.read? .string (some "date-time") (.string "2016-12-31T23:59:60.5Z") = none := by
  have coerced : Kind.read? .string (some "date-time") (.string "2016-12-31T18:59:60.50-05:00") =
      some (.json (.string "2016-12-31T23:59:60.5Z")) := by rfl
  exact ⟨coerced, dateTime_again rfl coerced⟩

/-- The first second of the year 10000 has a text that is not coerced. -/
theorem SemanticFormat.dateTime_fifthDigit :
    Kind.read? .string (some "date-time") (.ofNat 253402300800) =
        some (.json (.string "+10000-01-01T00:00:00Z")) ∧
      dateTime.read? (.string "+10000-01-01T00:00:00Z") = none ∧
      Kind.read? .string (some "date-time") (.string "+10000-01-01T00:00:00Z") = none := by
  refine ⟨?_, ?_, ?_⟩ <;> rfl

end Again

end SchemaCheck
