import SchemaCheck.Proofs.Coercion.Semantic
import SchemaCheck.Proofs.Uuid

/-!
Coercion to identifiers. Without the blanks around it, a text has to be a spelling of 32 hexadecimal
digits, and these are the digits of the bytes that are read. The canonical text is settled
(`SemanticFormat.uuid_spellings`). Braces and the name of a resource around the groups are let pass
(`SemanticFormat.uuid_braced`).
-/

namespace SchemaCheck

open Uuid (Digits Spelling hyphenated)
open Json (Value)

namespace Coercion

variable {id : Uuid}

theorem toUuid?_string (text : String) :
    toUuid? (.string text) = Uuid.ofText? (Text.trim text.toList) := bind_givenText? rfl text

theorem toUuid?_eq_some_iff {text : String} : toUuid? (.string text) = some id ↔
    ∃ digits, Spelling digits (Text.trim text.toList) ∧ Digits digits id.bytes := by
  rw [toUuid?_string, Uuid.ofText?_eq_some_iff]

theorem toUuid?_render (id : Uuid) : toUuid? (.string (String.ofList id.render)) = some id := by
  rw [toUuid?_string, String.toList_ofList, Text.trim_of_solid id.render_solid, id.ofText?_render]

theorem read?_uuid_iff {value : Value} :
    SemanticFormat.uuid.read? value = some (.uuid id) ↔ toUuid? value = some id := by
  simp [SemanticFormat.read?]

theorem exists_toUuid?_iff {text : String} : (∃ id, toUuid? (.string text) = some id) ↔
    ∃ digits, digits.length = 32 ∧ (∀ c ∈ digits, Text.isHexDigit c = true) ∧
      Spelling digits (Text.trim text.toList) := by
  constructor
  · rintro ⟨id, read⟩
    obtain ⟨digits, spelling, spelled⟩ := toUuid?_eq_some_iff.mp read
    exact ⟨digits, by rw [spelled.length_eq, id.length_eq], spelled.isHexDigit, spelling⟩
  · rintro ⟨digits, length, all, spelling⟩
    have pairs : digits.length = 2 * 16 := length
    obtain ⟨bytes, sixteen, spelled⟩ := Uuid.exists_digits pairs all
    exact ⟨⟨bytes, sixteen⟩, toUuid?_eq_some_iff.mpr ⟨digits, spelling, spelled⟩⟩

end Coercion

open Coercion

/-- A text is read just if it is a spelling of 32 hexadecimal digits, with blanks around it. Unless
a brace or the name of a resource is ahead, these are the digits alone and the digits in groups. The
bytes that are read have these digits, and the canonical text is the digits in groups and in lower
case, which is settled. -/
theorem SemanticFormat.uuid_spellings (text : String) :
    ((∃ id, uuid.read? (.string text) = some (.uuid id)) ↔
      ∃ digits, digits.length = 32 ∧ (∀ c ∈ digits, Text.isHexDigit c = true) ∧
        Spelling digits (Text.trim text.toList)) ∧
      ((Text.trim text.toList).head? ≠ some '\x7b' →
        Text.asciiLower ((Text.trim text.toList).take 9) ≠ Uuid.namePrefix →
          ((∃ id, uuid.read? (.string text) = some (.uuid id)) ↔
            ∃ digits, digits.length = 32 ∧ (∀ c ∈ digits, Text.isHexDigit c = true) ∧
              (Text.trim text.toList = digits ∨ Text.trim text.toList = hyphenated digits))) ∧
      (∀ id, uuid.read? (.string text) = some (.uuid id) ↔
        ∃ digits, Spelling digits (Text.trim text.toList) ∧ Digits digits id.bytes) ∧
      ∀ id,
        (∀ digits, Digits digits id.bytes →
          (Meaning.uuid id).text = String.ofList (hyphenated (Text.asciiLower digits))) ∧
          uuid.read? (.string (Meaning.uuid id).text) = some (.uuid id) ∧
          Kind.read? .string (some "uuid") (.string (Meaning.uuid id).text) =
            some (.json (.string (Meaning.uuid id).text)) := by
  simp only [read?_uuid_iff]
  refine ⟨exists_toUuid?_iff, fun noBrace noName => ?_, fun id => toUuid?_eq_some_iff,
    fun id => ⟨?_, toUuid?_render id, Kind.read?_again rfl (read?_uuid_iff.mpr ?_)⟩⟩
  · simp only [exists_toUuid?_iff, Uuid.spelling_iff_bare noBrace noName]
  · intro digits spelled
    rw [Meaning.text, Uuid.render_eq spelled]
  · exact toUuid?_render id

/-- Digits in both cases, without hyphens and between blanks, and digits that lack the first of the
hyphens. -/
theorem SemanticFormat.uuid_spellings_plain :
    (∃ id, id.bytes = [0x55, 0x0E, 0x84, 0x00, 0xE2, 0x9B, 0x41, 0xD4, 0xA7, 0x16, 0x44, 0x66, 0x55,
        0x44, 0x00, 0x00] ∧
      uuid.read? (.string "\t550E8400E29B41d4a716446655440000 ") = some (.uuid id) ∧
      Digits "550E8400E29B41d4a716446655440000".toList id.bytes ∧
      (Meaning.uuid id).text = "550e8400-e29b-41d4-a716-446655440000" ∧
      uuid.read? (.string "550e8400-e29b-41d4-a716-446655440000") = some (.uuid id)) ∧
      ¬∃ id, uuid.read? (.string "550e8400e29b-41d4-a716-446655440000") = some (.uuid id) := by
  constructor
  · obtain ⟨_, _, exact, canonical⟩ := uuid_spellings "\t550E8400E29B41d4a716446655440000 "
    have trimmed : Text.trim "\t550E8400E29B41d4a716446655440000 ".toList =
        "550E8400E29B41d4a716446655440000".toList := by rfl
    obtain ⟨id, bytes⟩ : ∃ id : Uuid, id.bytes = [0x55, 0x0E, 0x84, 0x00, 0xE2, 0x9B, 0x41, 0xD4,
        0xA7, 0x16, 0x44, 0x66, 0x55, 0x44, 0x00, 0x00] := ⟨⟨_, rfl⟩, rfl⟩
    have spelled : Digits "550E8400E29B41d4a716446655440000".toList id.bytes := by
      rw [bytes]
      exact Uuid.bytesOfDigits?_eq_some_iff.mp rfl
    obtain ⟨lower, again, _⟩ := canonical id
    have written := lower _ spelled
    have grouped : String.ofList (hyphenated (Text.asciiLower
        "550E8400E29B41d4a716446655440000".toList)) = "550e8400-e29b-41d4-a716-446655440000" := by
      rfl
    rw [grouped] at written
    rw [written] at again
    refine ⟨id, bytes, (exact _).mpr ⟨_, ?_, spelled⟩, spelled, written, again⟩
    rw [trimmed]
    exact .plain
  · have bare := (uuid_spellings "550e8400e29b-41d4-a716-446655440000").2.1 (by decide) (by decide)
    have short : (Text.trim "550e8400e29b-41d4-a716-446655440000".toList).length = 35 := by rfl
    rw [bare]
    rintro ⟨digits, length, _, alone | grouped⟩
    · rw [alone, length] at short
      cases short
    · rw [grouped, Uuid.length_hyphenated length] at short
      cases short

/-- Braces around the groups are let pass, though such a text is neither the digits alone nor the
groups alone. -/
theorem SemanticFormat.uuid_braced :
    (∃ id, uuid.read? (.string "\x7b550e8400-e29b-41d4-a716-446655440000\x7d") =
        some (.uuid id)) ∧
      ¬∃ digits, digits.length = 32 ∧ (∀ c ∈ digits, Text.isHexDigit c = true) ∧
        (Text.trim "\x7b550e8400-e29b-41d4-a716-446655440000\x7d".toList = digits ∨
          Text.trim "\x7b550e8400-e29b-41d4-a716-446655440000\x7d".toList =
            hyphenated digits) := by
  have long : (Text.trim "\x7b550e8400-e29b-41d4-a716-446655440000\x7d".toList).length = 38 := by
    rfl
  refine ⟨⟨⟨[0x55, 0x0E, 0x84, 0x00, 0xE2, 0x9B, 0x41, 0xD4, 0xA7, 0x16, 0x44, 0x66, 0x55, 0x44,
    0x00, 0x00], rfl⟩, rfl⟩, ?_⟩
  rintro ⟨digits, length, _, alone | grouped⟩
  · rw [alone, length] at long
    cases long
  · rw [grouped, Uuid.length_hyphenated length] at long
    cases long

end SchemaCheck
