import SchemaCheck.Proofs.Json.Shape
import SchemaCheck.Proofs.Net.Email
import SchemaCheck.Proofs.Net.Ip

/-!
JSON texts are no addresses. An email address holds an at sign, which stands in no number, and ends
with no quote or bracket (`Email.address?_spelled`). An IPv4 address holds three points and a number
one at most, and an IPv6 address has colons (`Ip.ofText?_spelled`). A host name may be a number or a
word, but no text in quotes (`Hostname.isHostname_quoted`).
-/

namespace SchemaCheck.Net

open Json Text

variable {value : Value} {text : List Char}

theorem Email.address?_spelled (spelled : Spelled value text) : address? text = none := by
  rcases spelled.cases with word | ⟨n, _, numeral⟩ | enclosed
  · have none : ∀ word ∈ words, address? word = none := by decide
    exact none text word
  · refine Option.eq_none_iff_forall_ne_some.mpr fun address read => ?_
    have other : ¬IsNumberMark '@' := by
      unfold IsNumberMark
      decide
    exact other (numeral.marks '@' (shape_of_address? read).1)
  · refine Option.eq_none_iff_forall_ne_some.mpr fun address read => ?_
    obtain ⟨opens, closes, inner⟩ := enclosed
    obtain ⟨_, front, last, same, ends⟩ := shape_of_address? read
    rw [← List.cons_append] at same
    obtain ⟨_, closing⟩ := List.append_inj' same rfl
    obtain rfl := (List.cons.inj closing).1
    have other : ∀ c ∈ ['"', ']', '\x7d'], ¬(c.isAlphanum = true ∨ c = '>') := by simp
    exact other _ closes ends

theorem count_point {n : Number} (numeral : IsNumeral n text) : text.count '.' ≤ 1 := by
  have digits {digits : List Char} (all : AllDigits digits) : digits.count '.' = 0 :=
    List.count_eq_zero.mpr fun member => absurd (all '.' member) (by decide)
  have exponent {text : List Char} (proper : IsExponent text) : text.count '.' = 0 := by
    obtain ⟨marked, signed, _, all⟩ := proper
    have mark : ∀ c ∈ ['e', 'E'], c ≠ '.' := by simp
    rw [List.count_cons_of_ne (mark _ marked), List.count_append, digits all]
    cases signed <;> rfl
  have tail {text : List Char} (proper : IsTail text) : text.count '.' ≤ 1 := by
    cases proper with
    | exponent proper => rw [exponent proper]; exact Nat.zero_le 1
    | fraction _ all proper =>
      have behind : List.count '.' _ = 0 := proper.elim (fun empty => empty ▸ rfl) exponent
      rw [List.count_cons_self, List.count_append, digits all, behind]
  obtain ⟨negative, body, rfl, magnitude⟩ := numeral
  have sign : (signed negative body).count '.' = body.count '.' := by cases negative <;> rfl
  rw [sign]
  cases magnitude with
  | whole _ all _ _ => rw [digits all]; exact Nat.zero_le 1
  | large _ all _ _ => rw [digits all]; exact Nat.zero_le 1
  | mixed _ all proper _ =>
    rw [List.count_append, digits all, Nat.zero_add]
    exact tail proper

theorem closed_enclosed (enclosed : Enclosed text) :
    Ipv6.Closed text ∧ text.head? ≠ some ':' := by
  obtain ⟨opens, _, inner⟩ := enclosed
  have plain : ∀ c ∈ ['"', '[', '\x7b'], isHexDigit c = false ∧ c ≠ '.' ∧ c ≠ ':' := by
    simp [isHexDigit]
  obtain ⟨noDigit, noPoint, noColon⟩ := plain _ opens
  exact ⟨⟨noneAhead_cons noDigit _, fun same => noPoint (Option.some.inj same)⟩,
    fun same => noColon (Option.some.inj same)⟩

theorem Ipv4.ofText?_spelled (spelled : Spelled value text) : ofText? text = none := by
  rcases spelled.cases with word | ⟨n, _, numeral⟩ | enclosed
  · have none : ∀ word ∈ words, ofText? word = none := by decide
    exact none text word
  · refine Option.eq_none_iff_forall_ne_some.mpr fun address read => ?_
    have points := count_of_read (ofText?_eq_some_iff.mp read)
    have few := count_point numeral
    omega
  · rw [ofText?, (closed_enclosed enclosed).1.read_none]

theorem Ipv6.ofText?_spelled (spelled : Spelled value text) : ofText? text = none := by
  rcases spelled.cases with word | ⟨n, _, numeral⟩ | enclosed
  · have noColon : ∀ word ∈ words, ':' ∉ word := by decide
    exact ofText?_none (noColon text word)
  · refine ofText?_none fun colon => ?_
    have other : ¬IsNumberMark ':' := by
      unfold IsNumberMark
      decide
    exact other (numeral.marks ':' colon)
  · obtain ⟨closed, noColon⟩ := closed_enclosed enclosed
    exact closed.ofText?_none noColon

theorem Ip.ofText?_spelled (spelled : Spelled value text) : ofText? text = none := by
  rw [ofText?, Ipv4.ofText?_spelled spelled, Ipv6.ofText?_spelled spelled]
  rfl

theorem Hostname.isHostname_quoted (rest : List Char) : isHostname ('"' :: rest) = false := by
  refine Bool.eq_false_iff.mpr fun host => ?_
  have other : ¬('"'.isAlphanum = true ∨ '"' = '-' ∨ '"' = '.') := by decide
  exact other (characters_of_isHostname host '"' List.mem_cons_self)

end SchemaCheck.Net
