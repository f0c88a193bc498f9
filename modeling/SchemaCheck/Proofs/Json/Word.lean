import SchemaCheck.Duration
import SchemaCheck.Proofs.Json.Number
import SchemaCheck.Proofs.Json.Shape

/-!
JSON numbers as words. The text of a number is read as a word in the same way with JSON and without
it: as the unsigned word that the number is (`IsNumeral.unsigned?_eq`) and, apart from `-0`, which
is no integer in JSON, as the signed word (`IsNumeral.signed?_eq`).
-/

namespace SchemaCheck.Json

open Text

section Texts

variable {negative : Bool} {digits tail : List Char}

def withSign (negative : Bool) (n : Nat) : Int := if negative then -(n : Int) else n

theorem integer?_signed (filled : digits ≠ []) (all : AllDigits digits) :
    integer? (signed negative digits) = some (withSign negative (numeral digits)) := by
  have whole := natural?_digits all filled
  cases negative with
  | true =>
    show integer? ('-' :: digits) = _
    rw [integer?, whole]
    rfl
  | false =>
    obtain ⟨c, rest, rfl⟩ := List.exists_cons_of_ne_nil filled
    show integer? (c :: rest) = _
    rw [integer?_of_starts (all c List.mem_cons_self), whole]
    rfl

theorem unsigned?_signed (filled : digits ≠ []) (all : AllDigits digits) :
    unsigned? (signed negative digits) = if negative then none else some (numeral digits) := by
  cases negative with
  | true => exact natural?_none List.mem_cons_self rfl
  | false =>
    obtain ⟨c, rest, rfl⟩ := List.exists_cons_of_ne_nil filled
    show unsigned? (c :: rest) = _
    rw [unsigned?_of_starts (all c List.mem_cons_self), natural?_digits all filled]
    rfl

theorem IsTail.starts {text : List Char} (proper : IsTail text) :
    ∃ mark rest, text = mark :: rest ∧ mark ∈ ['.', 'e', 'E'] := by
  cases proper with
  | exponent proper =>
    obtain ⟨marked, _, _, _⟩ := proper
    exact ⟨_, _, rfl, List.mem_cons_of_mem '.' marked⟩
  | fraction => exact ⟨_, _, rfl, List.mem_cons_self⟩

theorem Magnitude.split {n : Number} {text : List Char} (magnitude : Magnitude negative n text) :
    ∃ digits tail, digits ≠ [] ∧ AllDigits digits ∧ (tail = [] ∨ IsTail tail) ∧
      text = digits ++ tail := by
  cases magnitude with
  | whole filled all _ _ => exact ⟨text, [], filled, all, .inl rfl, (List.append_nil text).symm⟩
  | large filled all _ _ => exact ⟨text, [], filled, all, .inl rfl, (List.append_nil text).symm⟩
  | mixed filled all proper _ => exact ⟨_, _, filled, all, .inr proper, rfl⟩

theorem words_mixed (filled : digits ≠ []) (all : AllDigits digits) (proper : IsTail tail) :
    integer? (signed negative (digits ++ tail)) = none ∧
      unsigned? (signed negative (digits ++ tail)) = none := by
  obtain ⟨mark, rest, rfl, marked⟩ := proper.starts
  have noDigit : ∀ c ∈ ['.', 'e', 'E'], c.isDigit = false := by simp
  have whole : natural? (digits ++ mark :: rest) = none :=
    natural?_none (List.mem_append_right _ List.mem_cons_self) (noDigit mark marked)
  cases negative with
  | true =>
    have sign : unsigned? ('-' :: (digits ++ mark :: rest)) = none :=
      natural?_none List.mem_cons_self rfl
    refine ⟨?_, sign⟩
    show integer? ('-' :: (digits ++ mark :: rest)) = none
    rw [integer?, whole]
    rfl
  | false =>
    obtain ⟨c, more, rfl⟩ := List.exists_cons_of_ne_nil filled
    have digit := all c List.mem_cons_self
    rw [List.cons_append] at whole
    show integer? (c :: (more ++ mark :: rest)) = none ∧
      unsigned? (c :: (more ++ mark :: rest)) = none
    rw [integer?_of_starts digit, unsigned?_of_starts digit, whole]
    exact ⟨rfl, rfl⟩

end Texts

section Words

variable {negative : Bool} {value : Nat} {n : Number} {text : List Char}

theorem wholeNumber_real (wide : value = 0 ∨ signedBound < value) :
    ∃ x, wholeNumber true value = .real x := by
  rw [wholeNumber, if_pos rfl, if_pos wide]
  split
  · exact ⟨_, rfl⟩
  · exact ⟨_, rfl⟩

/-- An integer is kept if it fits into a word, unless it is zero with a minus sign. -/
theorem wholeNumber_cases (negative : Bool) (fits : value < wordBound) :
    ((negative = true → value ≠ 0) ∧ ∃ low high,
      wholeNumber negative value = .integer (withSign negative value) low high) ∨
      (negative = true ∧ (value = 0 ∨ signedBound < value) ∧
        ∃ x, wholeNumber negative value = .real x) := by
  cases negative with
  | false =>
    have same := wholeNumber_integer (value : Int) (by omega) (by omega)
    have sign : decide ((value : Int) < 0) = false := decide_eq_false (by omega)
    rw [sign, Int.natAbs_natCast] at same
    exact .inl ⟨nofun, _, _, same⟩
  | true =>
    by_cases wide : value = 0 ∨ signedBound < value
    · exact .inr ⟨rfl, wide, wholeNumber_real wide⟩
    · obtain ⟨filled, small⟩ := not_or.mp wide
      have same := wholeNumber_integer (-(value : Int)) (by omega) (by omega)
      have sign : decide (-(value : Int) < 0) = true := decide_eq_true (by omega)
      rw [sign, Int.natAbs_neg, Int.natAbs_natCast] at same
      exact .inl ⟨fun _ => filled, _, _, same⟩

theorem isSignedWord_of_large (large : signedBound < value) :
    isSignedWord (withSign negative value) = false := by
  refine Bool.eq_false_iff.mpr fun word => ?_
  obtain ⟨low, high⟩ := Bool.and_eq_true_iff.mp word
  have above := of_decide_eq_true low
  have below := of_decide_eq_true high
  cases negative with
  | false =>
    change (value : Int) < _ at below
    omega
  | true =>
    change _ ≤ -(value : Int) at above
    omega

/-- The digits of zero are those of a number only if there is one of them. -/
theorem eq_zero_of_numeral {digits : List Char} (filled : digits ≠ []) (all : AllDigits digits)
    (leading : digits.head? = some '0' → digits = ['0']) (zero : numeral digits = 0) :
    digits = ['0'] := by
  obtain ⟨c, rest, rfl⟩ := List.exists_cons_of_ne_nil filled
  refine leading (congrArg some ?_)
  rw [numeral_eq, numeralFrom_cons] at zero
  have least := le_numeralFrom (0 * 10 + (c.toNat - '0'.toNat)) rest
  have range := toNat_of_isDigit (all c List.mem_cons_self)
  have digit : '0'.toNat = 48 := rfl
  exact Char.toNat_inj.mp (by omega)

theorem IsNumeral.signed?_eq (numeral : IsNumeral n text) (other : text ≠ ['-', '0']) :
    (integer? text).filter isSignedWord = n.signed? := by
  obtain ⟨negative, body, rfl, magnitude⟩ := numeral
  cases magnitude with
  | whole filled all leading fits =>
    rw [integer?_signed filled all, Option.filter_some]
    rcases wholeNumber_cases negative fits with ⟨_, low, high, kept⟩ | ⟨rfl, zero | large, x, lost⟩
    · rw [kept, Number.signed?, isSignedWord, decide_eq_true low, Bool.true_and]
      simp only [decide_eq_true_eq]
    · rw [eq_zero_of_numeral filled all leading zero] at other
      exact absurd rfl other
    · rw [isSignedWord_of_large large, lost]
      rfl
  | large filled all exceeds x =>
    have large : signedBound < Text.numeral body := Nat.lt_of_lt_of_le (by decide) exceeds
    rw [integer?_signed filled all, Option.filter_some, isSignedWord_of_large large]
    rfl
  | mixed filled all proper x =>
    rw [(words_mixed filled all proper).1]
    rfl

theorem IsNumeral.signed?_minusZero (numeral : IsNumeral n ['-', '0']) : n.signed? = none := by
  obtain ⟨negative, body, spelled, magnitude⟩ := numeral
  cases negative with
  | false =>
    obtain ⟨digits, tail, filled, all, _, rfl⟩ := magnitude.split
    obtain ⟨c, digits, rfl⟩ := List.exists_cons_of_ne_nil filled
    obtain rfl : '-' = c := (List.cons.inj spelled).1
    exact absurd (all '-' List.mem_cons_self) (by decide)
  | true =>
    cases magnitude with
    | whole filled all leading fits =>
      have zero : Text.numeral ['0'] = 0 := rfl
      obtain ⟨x, real⟩ := wholeNumber_real (.inl zero)
      rw [← (List.cons.inj spelled).2, real]
      rfl
    | large filled all exceeds x => rfl
    | mixed filled all proper x => rfl

theorem IsNumeral.unsigned?_eq (numeral : IsNumeral n text) :
    (unsigned? text).bind Duration.word? = n.unsigned? := by
  obtain ⟨negative, body, rfl, magnitude⟩ := numeral
  cases magnitude with
  | whole filled all leading fits =>
    rw [unsigned?_signed filled all]
    rcases wholeNumber_cases negative fits with ⟨filled, low, high, kept⟩ | ⟨rfl, _, x, lost⟩
    · rw [kept]
      cases negative with
      | true =>
        have below : ¬0 ≤ -(Text.numeral body : Int) := by
          have other := filled rfl
          omega
        exact (if_neg below).symm
      | false =>
        have kept : Number.unsigned? (.integer (Text.numeral body : Int) low high) =
            some (Text.numeral body) := by
          simp only [Number.unsigned?, if_pos (Int.natCast_nonneg (Text.numeral body)),
            Int.toNat_natCast]
        exact (if_pos fits).trans kept.symm
    · rw [lost]
      rfl
  | large filled all exceeds x =>
    rw [unsigned?_signed filled all]
    cases negative with
    | true => rfl
    | false => exact if_neg (Nat.not_lt.mpr exceeds)
  | mixed filled all proper x =>
    rw [(words_mixed filled all proper).2]
    rfl

end Words

end SchemaCheck.Json
