import SchemaCheck.Proofs.Coercion.Semantic
import SchemaCheck.Proofs.Duration.Layouts
import SchemaCheck.Proofs.Duration.Rendering

/-!
Coercion to durations. The canonical text of a duration is read as the duration
(`SemanticFormat.duration_again`). A time with one of the usual endings is read as its seconds, and
nothing else is read instead if these are too many (`SemanticFormat.duration_seconds`).
-/

namespace SchemaCheck

open Duration (Numeral Ending)

namespace Coercion

open Duration

theorem toDuration?_trimmed {text : List Char} (filled : text ≠ [])
    (trimmed : Text.trim text = text) :
    toDuration? (.string (String.ofList text)) = ofText? text := by
  rw [toDuration?, givenText?_trimmed filled trimmed, Option.bind_some]
  intro _ number
  cases number

theorem toDuration?_render (d : Duration) : toDuration? (.string d.render) = some d := by
  obtain ⟨items, filled, sums, spelled⟩ := sums_render d
  obtain ⟨c, rest, starts, _⟩ := sums.starts filled
  have notEmpty : d.render.toList ≠ [] := by
    rw [spelled, starts]
    exact List.cons_ne_nil c rest
  have read := toDuration?_trimmed notEmpty (trim_render d)
  rwa [String.ofList_toList, ofText?_render] at read

theorem trim_ending (a : Numeral) (ending : Ending) :
    Text.trim (a.digits ++ ending.text) = a.digits ++ ending.text := by
  obtain ⟨front, c, ends, solid⟩ := ending.ends
  apply Text.trim_of_ends
  · exact Text.starts_solid a.filled a.all.solid ending.text
  · exact ⟨a.digits ++ front, c, by rw [ends, List.append_assoc], solid⟩

theorem toDuration?_ending (a : Numeral) (ending : Ending) :
    toDuration? (.string (String.ofList (a.digits ++ ending.text))) =
      ofSeconds? (ending.total a.value) := by
  have filled : a.digits ++ ending.text ≠ [] := List.append_ne_nil_of_left_ne_nil a.filled _
  rw [toDuration?_trimmed filled (trim_ending a ending), ofText?_ending]

end Coercion

open Coercion

variable {name : String}

/-- Every duration is read again from its canonical text, which is also settled as a string. -/
theorem SemanticFormat.duration_again (named : SemanticFormat.ofName? name = some .duration)
    (d : Duration) :
    duration.read? (.string (Meaning.duration d).text) = some (.duration d) ∧
      Kind.read? .string (some name) (.string (Meaning.duration d).text) =
        some (.json (.string (Meaning.duration d).text)) ∧
      Kind.read? .string none (.string (Meaning.duration d).text) =
        some (.json (.string (Meaning.duration d).text)) := by
  have again : duration.read? (.string (Meaning.duration d).text) = some (.duration d) := by
    rw [read?, Meaning.text, toDuration?_render, Option.map_some]
  exact ⟨again, Kind.read?_again named again, rfl⟩

/-- The longest duration, which is a nanosecond short of 2 ^ 64 seconds. -/
theorem SemanticFormat.duration_again_longest :
    ofName? "duration" = some .duration ∧
      duration.read? (.string
        "584542046090years 7months 15days 17h 5m 3s 999ms 999us 999ns") =
          some (.duration ⟨wordBound * tenTo 9 - 1, by decide⟩) ∧
      Kind.read? .string (some "duration") (.string
        "584542046090years 7months 15days 17h 5m 3s 999ms 999us 999ns") =
          some (.json (.string
            "584542046090years 7months 15days 17h 5m 3s 999ms 999us 999ns")) := by
  have named : ofName? "duration" = some .duration := by decide
  have spelled : (Meaning.duration ⟨wordBound * tenTo 9 - 1, by decide⟩).text =
      "584542046090years 7months 15days 17h 5m 3s 999ms 999us 999ns" := by rfl
  obtain ⟨again, settled, _⟩ := duration_again named ⟨wordBound * tenTo 9 - 1, by decide⟩
  rw [spelled] at again settled
  exact ⟨named, again, settled⟩

/-- A time with one of the usual endings is read as its seconds, or not at all. -/
theorem SemanticFormat.duration_seconds (a : Numeral) (ending : Ending) :
    if ending.total a.value < wordBound then
      ∃ d, duration.read? (.string (String.ofList (a.digits ++ ending.text))) =
          some (.duration d) ∧
        d.seconds = ending.total a.value ∧ d.subseconds = 0
    else duration.read? (.string (String.ofList (a.digits ++ ending.text))) = none := by
  rw [read?, toDuration?_ending]
  split
  next small =>
    obtain ⟨d, read, seconds, whole⟩ := Duration.ofSeconds?_of_lt small
    rw [read]
    exact ⟨d, rfl, seconds, whole⟩
  next large => rw [Duration.ofSeconds?_of_le (Nat.not_lt.mp large), Option.map_none]

-- The most hours that fit, and one hour more.
example : SemanticFormat.duration.read? (.string "5124095576030431h") =
      some (.duration ⟨5124095576030431 * 3600 * Duration.second, by decide⟩) ∧
    SemanticFormat.duration.read? (.string "5124095576030432h") = none := ⟨rfl, rfl⟩

end SchemaCheck
