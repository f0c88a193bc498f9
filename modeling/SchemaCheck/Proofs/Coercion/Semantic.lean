import SchemaCheck.Coercion.Semantic
import SchemaCheck.Proofs.Text.Blank

/-!
Coercion through a format, whichever it is. A text that has no blanks around it is read as it is
given (`Coercion.givenText?_trimmed`), and a string receives the canonical text of what has been
read (`Kind.read?_named`).
-/

namespace SchemaCheck

open Json (Value)

theorem Coercion.givenText?_trimmed {text : List Char} (filled : text ≠ [])
    (trimmed : Text.trim text = text) : givenText? (.string (String.ofList text)) = some text := by
  have notEmpty : text.isEmpty = false := List.isEmpty_eq_false_iff.mpr filled
  simp only [givenText?, String.toList_ofList, trimmed, notEmpty, Bool.false_eq_true, if_false]

/-- Where nothing is read from the empty text, it does not matter that it is left out. -/
theorem Coercion.bind_givenText? {Result : Type} {read : List Char → Option Result}
    (nothing : read [] = none) (text : String) :
    (givenText? (.string text)).bind read = read (Text.trim text.toList) := by
  unfold givenText?
  simp only
  split
  next empty => rw [List.isEmpty_iff.mp empty, nothing, Option.bind_none]
  next => rw [Option.bind_some]

variable {format : SemanticFormat} {name : String}

theorem Kind.read?_named (named : SemanticFormat.ofName? name = some format) (value : Value) :
    Kind.read? .string (some name) value =
      (format.read? value).map fun meaning => .json (.string meaning.text) := by
  rw [Kind.read?, Option.bind_some, named]
  simp only [if_true]

/-- If a canonical text is read as what it stands for, it is its own canonical text. -/
theorem Kind.read?_again (named : SemanticFormat.ofName? name = some format) {meaning : Meaning}
    (again : format.read? (.string meaning.text) = some meaning) :
    Kind.read? .string (some name) (.string meaning.text) =
      some (.json (.string meaning.text)) := by
  rw [Kind.read?_named named, again, Option.map_some]

end SchemaCheck
