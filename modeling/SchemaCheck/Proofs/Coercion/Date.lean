import SchemaCheck.Proofs.Calendar.DateText
import SchemaCheck.Proofs.Coercion.Scalar
import SchemaCheck.Proofs.Coercion.Semantic

/-!
Coercion to dates, and of numbers of seconds. An integer and its text stand for the same instant,
and the text of a date stands for the date and for the beginning of its day; all of this in every
year of the calendar (`SemanticFormat.date_again`).
-/

namespace SchemaCheck

open Calendar
open Json (Value)

namespace Coercion

variable {n : Int}

theorem toInstant?_string (text : String) :
    toInstant? (.string text) = (givenText? (.string text)).bind ofText? := rfl

/-- An integer that is no signed word is no number of seconds, as it lies beyond the calendar. -/
theorem toInstant?_ofInt (n : Int) : toInstant? (.ofInt n) = ofUnixSeconds? n := by
  cases word : isSignedWord n with
  | true =>
    obtain ⟨low, high, exact⟩ := Json.Value.ofInt_word word
    rw [exact, toInstant?, Json.Number.signed?, if_pos (isSignedWord_iff.mp word).2,
      Option.bind_some]
  | false =>
    rw [ofUnixSeconds?_large word]
    by_cases range : -(signedBound : Int) ≤ n ∧ n < (wordBound : Int)
    · have large : ¬n < (signedBound : Int) := by
        simp only [isSignedWord, Bool.and_eq_false_iff, decide_eq_false_iff_not] at word
        exact word.resolve_left fun low => low range.1
      rw [Json.Value.ofInt_integer n range.1 range.2, toInstant?, Json.Number.signed?,
        if_neg large, Option.bind_none]
    · have wide : Json.Number.ofInt? n = none := dif_neg range
      rw [Value.ofInt, wide]
      cases Binary64.ofInt n <;> rfl

theorem toInstant?_decimal (n : Int) :
    toInstant? (.string (String.ofList (Text.decimal n))) = ofUnixSeconds? n := by
  have trimmed := Text.trim_of_solid (Text.decimal_solid n)
  rw [toInstant?_string, givenText?_trimmed (Text.decimal_ne_nil n) trimmed, Option.bind_some,
    ofText?_decimal]

theorem toInstant?_date (date : Date) :
    toInstant? (.string (String.ofList date.text)) = some (.ofDate date) := by
  have trimmed := Text.trim_of_solid date.text_solid
  rw [toInstant?_string, givenText?_trimmed date.text_ne_nil trimmed, Option.bind_some,
    ofText?_date]

/-- The day of a number of seconds begins at the last multiple of a day's length. -/
theorem ofUnixSeconds?_date {i : Instant} (read : ofUnixSeconds? n = some i) :
    (Instant.ofDate i.date).unixSeconds = n - n % 86400 := by
  have cases := ofUnixSeconds?_cases n
  split at cases
  · obtain ⟨j, also, seconds, _⟩ := cases
    rw [read] at also
    obtain rfl := Option.some.inj also
    have early := i.clock.second_lt
    unfold Instant.unixSeconds dayLength at seconds
    unfold dayLength at early
    simp only [Instant.unixSeconds, Instant.ofDate, Clock.midnight, dayLength]
    omega
  · rw [read] at cases
    cases cases

end Coercion

open Coercion

variable {name : String}

/-- An integer and its text stand for the same instant, if for any. Whatever a value is, if it is
read as a date, the canonical text of the date is settled and stands for the beginning of its day. -/
theorem SemanticFormat.date_again (named : SemanticFormat.ofName? name = some .date) :
    (∀ n : Int,
      if firstDay ≤ n / dayLength ∧ n / dayLength ≤ lastDay then
        ∃ i, dateTime.read? (.ofInt n) = some (.instant i) ∧
          dateTime.read? (.string (String.ofList (Text.decimal n))) = some (.instant i) ∧
          i.unixSeconds = n ∧ i.clock.nanosecond = 0
      else
        dateTime.read? (.ofInt n) = none ∧
          dateTime.read? (.string (String.ofList (Text.decimal n))) = none) ∧
    ∀ value d, date.read? value = some (.date d) →
      date.read? (.string (Meaning.date d).text) = some (.date d) ∧
        Kind.read? .string (some name) (.string (Meaning.date d).text) =
          some (.json (.string (Meaning.date d).text)) ∧
        dateTime.read? (.string (Meaning.date d).text) = some (.instant (.ofDate d)) ∧
        ∀ n : Int, value = .ofInt n ∨ value = .string (String.ofList (Text.decimal n)) →
          (Instant.ofDate d).unixSeconds = n - n % 86400 ∧ 0 ≤ n % 86400 := by
  constructor
  · intro n
    have cases := ofUnixSeconds?_cases n
    rw [read?, read?, toInstant?_ofInt, toInstant?_decimal]
    split at cases
    next known =>
      obtain ⟨i, read, seconds, whole⟩ := cases
      rw [if_pos known, read]
      exact ⟨i, rfl, rfl, seconds, whole⟩
    next unknown =>
      rw [if_neg unknown, cases]
      exact ⟨rfl, rfl⟩
  · intro value d read
    have instant : toInstant? (.string (Meaning.date d).text) = some (.ofDate d) :=
      toInstant?_date d
    have again : date.read? (.string (Meaning.date d).text) = some (.date d) := by
      rw [read?, toDate?, instant]
      rfl
    refine ⟨again, Kind.read?_again named again, ?_, ?_⟩
    · rw [read?, instant, Option.map_some]
    · intro n given
      have seconds : toInstant? value = ofUnixSeconds? n := by
        rcases given with rfl | rfl
        · exact toInstant?_ofInt n
        · exact toInstant?_decimal n
      obtain ⟨found, dated, same⟩ := Option.map_eq_some_iff.mp read
      obtain ⟨i, readInstant, ofDate⟩ := Option.map_eq_some_iff.mp dated
      obtain rfl : found = d := by injection same
      rw [seconds] at readInstant
      rw [← ofDate]
      exact ⟨ofUnixSeconds?_date readInstant, Int.emod_nonneg _ (by decide)⟩

/-- The last second of the year -1, which lies before the beginning of 1970. -/
theorem SemanticFormat.date_again_early :
    ofName? "date" = some .date ∧
      ∃ day, date.read? (.ofInt (-62167219201)) = some (.date day) ∧
        date.read? (.string "-0001-12-31") = some (.date day) ∧
        Kind.read? .string (some "date") (.string "-0001-12-31") =
          some (.json (.string "-0001-12-31")) ∧
        dateTime.read? (.string "-0001-12-31") = some (.instant (.ofDate day)) ∧
        (Instant.ofDate day).unixSeconds = -62167219201 - -62167219201 % 86400 := by
  have named : ofName? "date" = some .date := by decide
  have read : date.read? (.ofInt (-62167219201)) =
      some (.date ⟨-719529, by decide, by decide⟩) := by rfl
  have spelled : (Meaning.date ⟨-719529, by decide, by decide⟩).text = "-0001-12-31" := by rfl
  obtain ⟨again, settled, instant, midnight⟩ := (date_again named).2 _ _ read
  rw [spelled] at again settled instant
  exact ⟨named, _, read, again, settled, instant, (midnight _ (.inl rfl)).1⟩

end SchemaCheck
