import SchemaCheck.Proofs.Coercion.Semantic
import SchemaCheck.Proofs.Net.Email

/-!
Coercion to email addresses. A display name in front of an address in angle brackets does not
matter, what is read has the parts of an address, and a text with these parts is read as itself
(`SemanticFormat.email_parts`).
-/

namespace SchemaCheck

open Net.Email (DisplayName Parts inBrackets)
open Json (Value)

namespace Coercion

variable {address : List Char}

theorem toEmail?_string (text : String) :
    toEmail? (.string text) = Net.Email.address? (Text.trim text.toList) :=
  bind_givenText? rfl text

theorem toEmail?_displayed {name inner : List Char} (shown : DisplayName name)
    (free : ∀ c ∈ inner, c ≠ '<' ∧ c ≠ '>') :
    toEmail? (.string (String.ofList (name ++ inBrackets inner))) =
      toEmail? (.string (String.ofList inner)) := by
  rw [toEmail?_string, toEmail?_string, String.toList_ofList, String.toList_ofList,
    Net.Email.trim_displayed, Net.Email.address?_displayed shown.dropBlanks free]

theorem isAddress_of_toEmail? {value : Value} (read : toEmail? value = some address) :
    Net.Email.isAddress address = true := by
  obtain ⟨text, _, found⟩ := Option.bind_eq_some_iff.mp read
  exact Net.Email.isAddress_of_address? found

theorem toEmail?_self (accepted : Net.Email.isAddress address = true) :
    toEmail? (.string (String.ofList address)) = some address := by
  rw [toEmail?_string, String.toList_ofList,
    Text.trim_of_solid (Net.Email.solid_of_isAddress accepted),
    Net.Email.address?_self accepted]

end Coercion

open Coercion

/-- An address in angle brackets is read as it is alone, whatever display name stands in front. What
is read has one at sign between a mailbox and labels, and it is settled. -/
theorem SemanticFormat.email_parts :
    (∀ name inner, DisplayName name → (∀ c ∈ inner, c ≠ '<' ∧ c ≠ '>') →
      toEmail? (.string (String.ofList (name ++ inBrackets inner))) =
        toEmail? (.string (String.ofList inner))) ∧
      (∀ value address, toEmail? value = some address →
        address.count '@' = 1 ∧ (∃ mailbox labels, Parts address mailbox labels) ∧
          email.read? (.string (Meaning.email address).text) = some (.email address) ∧
          Kind.read? .string (some "email") (.string (Meaning.email address).text) =
            some (.json (.string (Meaning.email address).text))) ∧
      ∀ address mailbox labels, Parts address mailbox labels →
        toEmail? (.string (String.ofList address)) = some address := by
  refine ⟨fun _ _ => toEmail?_displayed, ?_, ?_⟩
  · intro value address read
    have accepted := isAddress_of_toEmail? read
    obtain ⟨mailbox, labels, parts⟩ := Net.Email.isAddress_iff.mp accepted
    have again : email.read? (.string (Meaning.email address).text) = some (.email address) := by
      rw [read?, Meaning.text, toEmail?_self accepted, Option.map_some]
    exact ⟨parts.count_at, ⟨mailbox, labels, parts⟩, again, Kind.read?_again rfl again⟩
  · intro address mailbox labels parts
    exact toEmail?_self (Net.Email.isAddress_iff.mpr ⟨mailbox, labels, parts⟩)

/-- A display name with a comma and brackets in its quotes, and an address with blanks around it. -/
theorem SemanticFormat.email_parts_quoted :
    DisplayName "\"Lovelace, <Ada>\" ".toList ∧
      (∀ c ∈ " a.l@x-y.example\t".toList, c ≠ '<' ∧ c ≠ '>') ∧
      toEmail? (.string "\"Lovelace, <Ada>\" < a.l@x-y.example\t>") =
        toEmail? (.string " a.l@x-y.example\t") ∧
      toEmail? (.string " a.l@x-y.example\t") = some "a.l@x-y.example".toList ∧
      "a.l@x-y.example".toList.count '@' = 1 ∧
      ∃ mailbox labels, Parts "a.l@x-y.example".toList mailbox labels ∧
        toEmail? (.string "a.l@x-y.example") = some "a.l@x-y.example".toList := by
  have shown : DisplayName "\"Lovelace, <Ada>\" ".toList :=
    @DisplayName.quoted "Lovelace, <Ada>".toList [' '] (by decide)
      (List.forall_mem_singleton.mpr rfl)
  have free : ∀ c ∈ " a.l@x-y.example\t".toList, c ≠ '<' ∧ c ≠ '>' := by
    have all : (" a.l@x-y.example\t".toList.all fun c => c != '<' && c != '>') = true := by decide
    simpa only [List.all_eq_true, Bool.and_eq_true, bne_iff_ne] using all
  have read : toEmail? (.string " a.l@x-y.example\t") = some "a.l@x-y.example".toList := by rfl
  obtain ⟨displayed, accepted, parted⟩ := email_parts
  have alike := displayed _ _ shown free
  have whole : String.ofList ("\"Lovelace, <Ada>\" ".toList ++
      inBrackets " a.l@x-y.example\t".toList) = "\"Lovelace, <Ada>\" < a.l@x-y.example\t>" := by rfl
  rw [whole, String.ofList_toList] at alike
  obtain ⟨single, ⟨mailbox, labels, parts⟩, _⟩ := accepted _ _ read
  have again := parted _ _ _ parts
  rw [String.ofList_toList] at again
  exact ⟨shown, free, alike, read, single, mailbox, labels, parts, again⟩

end SchemaCheck
