import SchemaCheck.Proofs.Coercion.Semantic
import SchemaCheck.Proofs.Json.Exact
import SchemaCheck.Proofs.Json.Extent
import SchemaCheck.Proofs.Json.Plain

/-!
Coercion through JSON text. The canonical text of a value is its text on one line, but a string
stands for itself, without its quotes. So the canonical text is read again as long as it is not the
text of a string and the value does not nest too deep, and a string only when it is the canonical
text of another value (`SemanticFormat.json_again`).
-/

namespace SchemaCheck

open Json (Value Number)
open Coercion

/-- The reader takes the numbers in the canonical text of a value for the numbers of the value. -/
def Json.Value.ReadPlainly : Value → Prop
  | .number (.real x) => x.ReadPlainly
  | value => ∀ x ∈ value.reals, x.ReadExactly

variable {content : Value}

theorem readText?_compact {value : Value} (read : Json.parse value.compact = .ok value) :
    readText? value.compact = some value := by
  rw [readText?, Json.trimmed_compact, Json.parse?, read]
  rfl

namespace Coercion

def recode? (text : String) : Option String :=
  (readText? text).map fun found => (Meaning.json found).text

/-- A string is shorter than the text of which it is read. -/
theorem readText?_string_ne {text held : String} (read : readText? text = some (.string held)) :
    held ≠ text := by
  have shorter := Json.parse_string_shorter read
  have within : (Text.trimmed text).toList.length ≤ text.toList.length := by
    rw [Text.trimmed, String.toList_ofList]
    exact Text.length_trim_le _
  rintro rfl
  omega

theorem sorted_of_decode? {value : Value} (sorted : value.Sorted)
    (decoded : decode? value = some content) : content.Sorted := by
  cases value with
  | string text =>
    change (Json.parse (Text.trimmed text)).toOption = some content at decoded
    cases parsed : Json.parse (Text.trimmed text) with
    | ok found =>
      rw [parsed] at decoded
      cases decoded
      exact Value.sorted_of_parse parsed
    | error stop =>
      rw [parsed] at decoded
      cases decoded
  | _ =>
    cases decoded
    exact sorted

theorem recode?_compact (sorted : content.Sorted) (exactly : ∀ x ∈ content.reals, x.ReadExactly)
    (onOneLine : (Meaning.json content).text = content.compact) :
    recode? (Meaning.json content).text =
      if content.nesting ≤ Json.maxNesting then some (Meaning.json content).text else none := by
  rw [recode?, onOneLine]
  split
  next near =>
    rw [readText?_compact (Json.parse_compact sorted exactly near), ← onOneLine]
    rfl
  next deep =>
    rw [readText?, Json.trimmed_compact, Json.parse_tooDeep exactly (Nat.not_le.mp deep)]
    rfl

theorem recode?_numberText (n : Number) (plainly : ∀ x, n = .real x → x.ReadPlainly) :
    recode? (numberText n) = some (numberText n) := by
  obtain ⟨m, read, same⟩ := Json.parse_numberText n plainly
  rw [recode?, readText?, Json.trimmed_numberText, Json.parse?, read, ← same]
  rfl

theorem recode?_text (sorted : content.Sorted) (noString : content.text? = none)
    (plainly : content.ReadPlainly) :
    recode? (Meaning.json content).text =
      if content.nesting ≤ Json.maxNesting then some (Meaning.json content).text else none := by
  cases content with
  | string held => cases noString
  | number n =>
    have near : (Value.number n).nesting ≤ Json.maxNesting := Nat.zero_le _
    rw [if_pos near]
    refine recode?_numberText n ?_
    rintro x rfl
    exact plainly
  | _ => exact recode?_compact sorted plainly rfl

/-- A text that is its own canonical text stands for a value that is no string. -/
theorem recode?_eq_self_iff {held : String} : recode? held = some held ↔
    ∃ inner, readText? held = some inner ∧ inner.text? = none ∧
      (Meaning.json inner).text = held := by
  rw [recode?, Option.map_eq_some_iff]
  constructor
  · rintro ⟨inner, read, same⟩
    refine ⟨inner, read, ?_, same⟩
    cases inner with
    | string shorter => exact absurd same (readText?_string_ne read)
    | _ => rfl
  · rintro ⟨inner, read, _, same⟩
    exact ⟨inner, read, same⟩

end Coercion

theorem Kind.read?_json {name : String} (named : SemanticFormat.ofName? name = some .json)
    (text : String) : Kind.read? .string (some name) (.string text) =
      (recode? text).map fun again => .json (.string again) := by
  rw [Kind.read?_named named, SemanticFormat.read?, Option.map_map, recode?, Option.map_map]
  rfl

/-- A value is coerced to the canonical text of what it stands for, a string standing for the value
in it. The text of a string is kept exactly if it is itself the canonical text of a value that is no
string. The text of any other value is read again exactly if the value does not nest too deep, and
is kept then, provided that the reader takes its numbers for what they are. -/
theorem SemanticFormat.json_again {name text : String} {value : Value}
    (named : SemanticFormat.ofName? name = some .json) (sorted : value.Sorted)
    (coerced : Kind.read? .string (some name) value = some (.json (.string text))) :
    ∃ content, decode? value = some content ∧ text = (Meaning.json content).text ∧
      (∀ held, content = .string held →
        (Kind.read? .string (some name) (.string text) = some (.json (.string text)) ↔
          ∃ inner, readText? held = some inner ∧ inner.text? = none ∧
            (Meaning.json inner).text = held)) ∧
      (content.text? = none → content.ReadPlainly →
        Kind.read? .string (some name) (.string text) =
          if content.nesting ≤ Json.maxNesting then some (.json (.string text)) else none) := by
  rw [Kind.read?_named named] at coerced
  obtain ⟨meaning, read, made⟩ := Option.map_eq_some_iff.mp coerced
  obtain ⟨content, decoded, rfl⟩ := Option.map_eq_some_iff.mp read
  obtain rfl : (Meaning.json content).text = text := by
    injection made with made
    injection made
  refine ⟨content, decoded, rfl, ?_, fun noString plainly => ?_⟩
  · rintro held rfl
    have alone : (fun again => Meaning.json (.string again)).Injective := by
      intro one other same
      injection same with same
      injection same
    rw [Kind.read?_json named, ← recode?_eq_self_iff]
    exact (Option.map_injective alone).eq_iff (b := some held)
  · rw [Kind.read?_json named, recode?_text (sorted_of_decode? sorted decoded) noString plainly]
    split <;> rfl

/-- An object with a fraction, the fraction alone, and a string that holds the text of a list. -/
theorem SemanticFormat.json_again_object :
    let quarter : Binary64.Finite := ⟨false, twoTo 1072, by decide +kernel, by decide +kernel⟩
    let record := Value.object [("list", .array [.null]), ("size", .number (.real quarter))]
    let text := "\x7b\"list\":[null],\"size\":0.25\x7d"
    Kind.read? .string (some "json") record = some (.json (.string text)) ∧
      Kind.read? .string (some "json") (.string text) = some (.json (.string text)) ∧
      Kind.read? .string (some "json") (.number (.real quarter)) =
        some (.json (.string "0.25")) ∧
      Kind.read? .string (some "json") (.string "0.25") = some (.json (.string "0.25")) ∧
      Kind.read? .string (some "json") (.string "\"[1]\"") = some (.json (.string "[1]")) ∧
      Kind.read? .string (some "json") (.string "[1]") = some (.json (.string "[1]")) := by
  intro quarter record text
  have named : SemanticFormat.ofName? "json" = some .json := rfl
  have sorted : record.Sorted := by
    refine .object (by decide) fun field member => ?_
    rcases List.mem_cons.mp member with rfl | member
    · refine .array fun item member => ?_
      obtain rfl := List.mem_singleton.mp member
      exact .null
    · obtain rfl := List.mem_singleton.mp member
      exact .number _
  have exactly : ∀ x ∈ record.reals, x.ReadExactly := by
    intro x member
    obtain rfl : x = quarter := List.mem_singleton.mp member
    exact Json.readExactly_of_short (by decide +kernel) (by decide +kernel)
  have spelled : record.compact = text := by decide +kernel
  have first : Kind.read? .string (some "json") record = some (.json (.string text)) := by
    rw [← spelled]
    rfl
  have quoted : Kind.read? .string (some "json") (.string "\"[1]\"") =
      some (.json (.string "[1]")) := rfl
  have shown : numberText (.real quarter) = "0.25" := by decide +kernel
  have alone : Kind.read? .string (some "json") (.number (.real quarter)) =
      some (.json (.string "0.25")) := by
    rw [← shown]
    rfl
  refine ⟨first, ?_, alone, ?_, quoted, ?_⟩
  · obtain ⟨content, decoded, _, _, others⟩ := json_again named sorted first
    obtain rfl := Option.some.inj decoded
    exact others rfl exactly
  · obtain ⟨content, decoded, _, _, others⟩ := json_again named (.number _) alone
    obtain rfl := Option.some.inj decoded
    have plainly : quarter.ReadPlainly := Binary64.Finite.readPlainly_of_short
      (by decide +kernel) (by decide +kernel) (by decide +kernel)
    exact others rfl plainly
  · obtain ⟨content, decoded, _, ofString, _⟩ := json_again named (.string _) quoted
    obtain rfl := Option.some.inj decoded
    exact (ofString "[1]" rfl).mpr ⟨_, rfl, rfl, rfl⟩

/-- The text in quotes loses them, and is not JSON text without them. -/
theorem SemanticFormat.json_unquoted :
    Kind.read? .string (some "json") (.string "\"abc\"") = some (.json (.string "abc")) ∧
      Kind.read? .string (some "json") (.string "abc") = none :=
  ⟨rfl, rfl⟩

end SchemaCheck
