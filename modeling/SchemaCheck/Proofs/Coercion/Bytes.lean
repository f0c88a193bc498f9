import SchemaCheck.Proofs.Base64
import SchemaCheck.Proofs.Coercion.Semantic

/-!
Coercion to bytes. Nothing but a string is read as bytes, and a string just if, without the blanks
around it, it is what one of the variants of Base64 writes for them
(`Coercion.toBytes?_eq_some_iff`). The canonical text is that of the standard variant
(`SemanticFormat.base64_exact`).
-/

namespace SchemaCheck

open Base64
open Json (Value)

theorem Base64.encode_solid {variant : Variant} (member : variant ∈ variants)
    (bytes : List UInt8) : ∀ c ∈ variant.encode bytes, Text.isBlank c = false := by
  have symbols : ∀ variant ∈ variants, ∀ n < 64, Text.isBlank (variant.symbol n) = false := by
    simp only [variants, List.forall_mem_cons]
    decide
  intro c inside
  rcases Variant.mem_encode inside with rfl | ⟨n, small, rfl⟩
  · rfl
  · exact symbols variant member n small

namespace Coercion

variable {text : String} {bytes : List UInt8}

theorem toBytes?_eq_some_iff : toBytes? (.string text) = some bytes ↔
    ∃ variant ∈ variants, Text.trim text.toList = variant.encode bytes :=
  decodeAny?_eq_some_iff

theorem toBytes?_around {variant : Variant} (member : variant ∈ variants)
    {front back : List Char} (before : ∀ c ∈ front, Text.isBlank c = true)
    (behind : ∀ c ∈ back, Text.isBlank c = true) :
    toBytes? (.string (String.ofList (front ++ variant.encode bytes ++ back))) = some bytes := by
  rw [toBytes?_eq_some_iff, String.toList_ofList, Text.trim_around before behind,
    Text.trim_of_solid (encode_solid member bytes)]
  exact ⟨variant, member, rfl⟩

theorem toBytes?_string {value : Value} (read : toBytes? value = some bytes) :
    ∃ text, value = .string text := by
  cases value with
  | string text => exact ⟨text, rfl⟩
  | _ => cases read

end Coercion

open Coercion

variable {name : String}

/-- The format reads the three encodings of some bytes, with blanks around them, as these bytes. It
reads nothing else as them, and their canonical text is settled. -/
theorem SemanticFormat.base64_exact (named : SemanticFormat.ofName? name = some .base64)
    (bytes : List UInt8) :
    (∀ variant ∈ [standard, urlSafe, urlSafeUnpadded], ∀ front back : List Char,
        (∀ c ∈ front, Text.isBlank c = true) → (∀ c ∈ back, Text.isBlank c = true) →
        base64.read? (.string (String.ofList (front ++ variant.encode bytes ++ back))) =
          some (.bytes bytes)) ∧
      (∀ value, base64.read? value = some (.bytes bytes) →
        ∃ text, value = .string text ∧
          ∃ variant ∈ [standard, urlSafe, urlSafeUnpadded],
            Text.trim text.toList = variant.encode bytes) ∧
      base64.read? (.string (Meaning.bytes bytes).text) = some (.bytes bytes) ∧
      Kind.read? .string (some name) (.string (Meaning.bytes bytes).text) =
        some (.json (.string (Meaning.bytes bytes).text)) ∧
      Kind.read? .string none (.string (Meaning.bytes bytes).text) =
        some (.json (.string (Meaning.bytes bytes).text)) := by
  have encodings : ∀ variant ∈ variants, ∀ front back : List Char,
      (∀ c ∈ front, Text.isBlank c = true) → (∀ c ∈ back, Text.isBlank c = true) →
      base64.read? (.string (String.ofList (front ++ variant.encode bytes ++ back))) =
        some (.bytes bytes) := by
    intro variant member front back before behind
    rw [read?, toBytes?_around member before behind, Option.map_some]
  have canonical := encodings standard List.mem_cons_self [] [] (fun _ member => nomatch member)
    (fun _ member => nomatch member)
  rw [List.append_nil, List.nil_append] at canonical
  refine ⟨encodings, ?_, canonical, Kind.read?_again named canonical, rfl⟩
  intro value read
  obtain ⟨found, decoded, same⟩ := Option.map_eq_some_iff.mp read
  obtain rfl : found = bytes := by injection same
  obtain ⟨text, rfl⟩ := toBytes?_string decoded
  exact ⟨text, rfl, toBytes?_eq_some_iff.mp decoded⟩

/-- Two bytes, whose last group is short, in the URL-safe alphabet and between blanks. -/
theorem SemanticFormat.base64_exact_short :
    ofName? "byte" = some .base64 ∧
      base64.read? (.string " _-8\t") = some (.bytes [0xff, 0xef]) ∧
      (∃ variant ∈ [standard, urlSafe, urlSafeUnpadded],
        Text.trim " _-8\t".toList = variant.encode [0xff, 0xef]) ∧
      base64.read? (.string "/+8=") = some (.bytes [0xff, 0xef]) ∧
      Kind.read? .string (some "byte") (.string "/+8=") = some (.json (.string "/+8=")) := by
  have named : ofName? "byte" = some .base64 := by decide
  obtain ⟨encodings, exact, canonical, again, _⟩ := base64_exact named [0xff, 0xef]
  have read := encodings urlSafeUnpadded (by simp) [' '] ['\t']
    (List.forall_mem_singleton.mpr (by decide)) (List.forall_mem_singleton.mpr (by decide))
  have written : String.ofList ([' '] ++ urlSafeUnpadded.encode [0xff, 0xef] ++ ['\t']) =
      " _-8\t" := by decide
  rw [written] at read
  obtain ⟨text, same, encoded⟩ := exact _ read
  obtain rfl : text = " _-8\t" := by
    injection same with same
    exact same.symm
  exact ⟨named, read, encoded, canonical, again⟩

end SchemaCheck
