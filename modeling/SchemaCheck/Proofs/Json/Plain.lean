import SchemaCheck.Coercion.Scalar
import SchemaCheck.Proofs.Json.Spacing
import SchemaCheck.Proofs.Json.Exact

/-!
The plain text of numbers, read as JSON text. An integer is read as it was. A real number without a
fraction is read as an integer while its digits make a word, and has the same text; with more
digits, or with a fraction, the reader rounds once for the digits and once for the power of ten
behind them, and the text is kept when this gives the number (`parse_numberText`).
-/

namespace SchemaCheck

open Binary64 Text

namespace Text

theorem digitsOf_mul_tenTo {n : Nat} (filled : n ≠ 0) (count : Nat) :
    digitsOf (n * tenTo count) = digitsOf n ++ List.replicate count '0' := by
  induction count with
  | zero => rw [show tenTo 0 = 1 from rfl, Nat.mul_one, List.replicate_zero, List.append_nil]
  | succ count ih =>
    have positive : 0 < n * tenTo count := Nat.mul_pos (Nat.pos_of_ne_zero filled) (tenTo_pos _)
    rw [tenTo_succ, Nat.mul_left_comm, digitsOf, Nat.toDigits_eq_if (by decide), if_neg (by omega),
      Nat.mul_div_cancel_left _ (by decide), Nat.mul_mod_right, List.replicate_succ',
      ← List.append_assoc, ← ih]
    rfl

end Text

namespace Json

def Leading.behind (lead : Leading) (c : Char) : Leading :=
  let next := lead.value * 10 + (c.toNat - '0'.toNat)
  if lead.dropped = 0 ∧ next < wordBound then { lead with value := next, used := lead.used + 1 }
  else { lead with dropped := lead.dropped + 1 }

theorem Leading.ofDigits_eq (start : Nat) (digits : List Char) :
    Leading.ofDigits start digits = digits.foldl Leading.behind ⟨start, 0, 0⟩ := rfl

theorem Leading.dropped_le_behind (lead : Leading) (digits : List Char) :
    lead.dropped ≤ (digits.foldl Leading.behind lead).dropped := by
  induction digits generalizing lead with
  | nil => exact Nat.le_refl _
  | cons c rest ih =>
    refine Nat.le_trans ?_ (ih (lead.behind c))
    unfold Leading.behind
    dsimp only
    split
    · exact Nat.le_refl _
    · exact Nat.le_succ _

theorem Leading.dropped_of_large (lead : Leading) {digits : List Char}
    (word : lead.value < wordBound) (exceeds : wordBound ≤ numeralFrom lead.value digits) :
    (digits.foldl Leading.behind lead).dropped ≠ 0 := by
  induction digits generalizing lead with
  | nil => exact absurd exceeds (Nat.not_le.mpr word)
  | cons c rest ih =>
    rw [numeralFrom_cons] at exceeds
    rw [List.foldl_cons]
    by_cases taken : lead.dropped = 0 ∧ lead.value * 10 + (c.toNat - '0'.toNat) < wordBound
    · refine ih _ ?_ ?_ <;> simp only [Leading.behind, if_pos taken]
      · exact taken.2
      · exact exceeds
    · have lost : 0 < (lead.behind c).dropped := by
        simp only [Leading.behind, if_neg taken]
        exact Nat.succ_pos _
      exact Nat.ne_of_gt (Nat.lt_of_lt_of_le lost (dropped_le_behind _ rest))

/-- Digits that make no word are read as a real number. -/
theorem readNumber_large (negative : Bool) {n : Nat} (large : wordBound ≤ n) :
    readNumber negative (digitsOf n) =
      readReal negative (Leading.ofDigits 0 (digitsOf n)).value
        (Leading.ofDigits 0 (digitsOf n)).dropped [] := by
  have filled : n ≠ 0 := Nat.ne_of_gt (Nat.lt_of_lt_of_le (by decide) large)
  obtain ⟨c, more, spelled, notZero⟩ := digitsOf_head n filled
  have dropped : (Leading.ofDigits 0 (digitsOf n)).dropped ≠ 0 := by
    rw [Leading.ofDigits_eq]
    exact Leading.dropped_of_large _ (by decide) ((numeral_digitsOf n).symm ▸ large)
  have taken := takeWhile_digits (digitsOf_all n) noDigitAhead_nil
  have left := dropWhile_digits (digitsOf_all n) noDigitAhead_nil
  rw [List.append_nil] at taken left
  have digit : c.isDigit = true := digitsOf_all n c (spelled ▸ List.mem_cons_self)
  rw [spelled] at taken left dropped ⊢
  rw [readNumber]
  · rw [if_pos digit, taken, left, readTail, if_neg dropped]
  · simpa using notZero

end Json

namespace Binary64.Finite

open Json

/-- The decimal that the plain text of the number shows. -/
def shown (x : Finite) : Decimal := x.shortest .up

theorem shown_toBinary64 (x : Finite) : x.shown.toBinary64 x.negative = .finite x :=
  x.shortest_toBinary64 .up

theorem shown_digits_ne_zero {x : Finite} (filled : x.units ≠ 0) : x.shown.digits ≠ 0 :=
  x.shortest_digits_ne_zero .up filled

def wholeDigits (x : Finite) : Nat := x.shown.digits * tenTo x.shown.exponent.toNat

/-- The reader of JSON text takes the plain text of the number for the number: its digits without a
fraction make a word, or the reader does not round them to another number. -/
def ReadPlainly (x : Finite) : Prop :=
  (0 ≤ x.shown.exponent → x.wholeDigits < wordBound ∨
      realOfParts? x.negative (Leading.ofDigits 0 (digitsOf x.wholeDigits)).value
        (Leading.ofDigits 0 (digitsOf x.wholeDigits)).dropped = some x) ∧
    (x.shown.exponent < 0 → x.shown.ReadExactly x.negative)

instance (x : Finite) : Decidable x.ReadPlainly := inferInstanceAs (Decidable (_ ∧ _))

/-- A number of few digits is read plainly when its fraction is short, or else it makes a word. -/
theorem readPlainly_of_short {x : Finite} (few : x.shown.digits ≤ twoTo 53)
    (near : -22 ≤ x.shown.exponent)
    (word : 0 ≤ x.shown.exponent → x.wholeDigits < wordBound) : x.ReadPlainly :=
  ⟨fun whole => .inl (word whole), fun fraction => readExactly_of_short few (by omega)⟩

/-- Digits that make no word can be rounded to the number next to the one meant. -/
example : ¬((ofInt 123456789012345680000).finite?.getD .zero).ReadPlainly := by decide +kernel

def plainMagnitude (x : Finite) : List Char :=
  Decimal.Layout.plain.positional (digitsOf x.shown.digits) x.shown.place

variable {x : Finite}

theorem render_plain (filled : x.units ≠ 0) : Decimal.Layout.plain.render x =
    if x.negative then '-' :: x.plainMagnitude else x.plainMagnitude := by
  have near : (Decimal.Layout.plain.lowest ≤ x.shown.place &&
      x.shown.place ≤ Decimal.Layout.plain.highest) = true := by
    obtain ⟨low, high⟩ := x.place_near .up filled
    rw [Bool.and_eq_true, decide_eq_true_eq, decide_eq_true_eq]
    exact ⟨low, high⟩
  have magnitude : (if Decimal.Layout.plain.lowest ≤ x.shown.place &&
      x.shown.place ≤ Decimal.Layout.plain.highest then
        Decimal.Layout.plain.positional (digitsOf x.shown.digits) x.shown.place
      else Decimal.Layout.plain.scientific (digitsOf x.shown.digits) x.shown.place) =
      x.plainMagnitude := if_pos near
  exact congrArg (fun text => if x.negative then '-' :: text else text) magnitude

theorem plainMagnitude_whole (filled : x.units ≠ 0) (whole : 0 ≤ x.shown.exponent) :
    x.plainMagnitude = digitsOf x.wholeDigits := by
  have long : 0 < (digitsOf x.shown.digits).length :=
    List.length_pos_iff.mpr (digitsOf_ne_nil _)
  have padding : x.shown.place.toNat + 1 - (digitsOf x.shown.digits).length =
      x.shown.exponent.toNat := by
    unfold Decimal.place
    omega
  have count : x.shown.place.toNat + 1 =
      (digitsOf x.shown.digits ++ List.replicate x.shown.exponent.toNat '0').length := by
    rw [List.length_append, List.length_replicate]
    unfold Decimal.place
    omega
  have notBelow : ¬x.shown.place < 0 := by
    unfold Decimal.place
    omega
  rw [plainMagnitude, Decimal.Layout.positional, if_neg notBelow]
  dsimp only
  rw [padding, count, List.take_length, List.drop_length, wholeDigits,
    digitsOf_mul_tenTo (shown_digits_ne_zero filled)]
  exact List.append_nil _

theorem plainMagnitude_fraction (fraction : x.shown.exponent < 0) :
    x.plainMagnitude = Decimal.Layout.json.positional (digitsOf x.shown.digits) x.shown.place := by
  unfold plainMagnitude Decimal.Layout.positional
  split
  next => rfl
  next above =>
    have behind : x.shown.place.toNat + 1 < (digitsOf x.shown.digits).length := by
      unfold Decimal.place at above ⊢
      omega
    dsimp only
    rw [Nat.sub_eq_zero_of_le (Nat.le_of_lt behind), List.replicate_zero, List.append_nil]
    have filled : (digitsOf x.shown.digits).drop (x.shown.place.toNat + 1) ≠ [] := by
      rw [ne_eq, List.drop_eq_nil_iff]
      omega
    rw [List.isEmpty_eq_false_iff.mpr filled]
    rfl

theorem readNumber_plain (filled : x.units ≠ 0) (fraction : x.shown.exponent < 0)
    (negative : Bool) : readNumber negative x.plainMagnitude =
      readReal negative x.shown.digits x.shown.exponent [] := by
  have fits : x.shown.digits < wordBound :=
    Nat.lt_of_le_of_lt (x.shortest_digits_le .up) (by decide)
  rw [plainMagnitude_fraction fraction, ← List.append_nil (Decimal.Layout.positional _ _ _)]
  by_cases below : x.shown.place < 0
  · exact readNumber_below delimited_nil fits rfl below
  · exact readNumber_mixed delimited_nil (shown_digits_ne_zero filled) fits rfl fraction
      (Int.not_lt.mp below)

theorem ofRatio_wholeDigits (whole : 0 ≤ x.shown.exponent) :
    ofRatio x.negative x.wholeDigits 1 = .finite x := by
  have read := x.shown_toBinary64
  rw [Decimal.toBinary64_eq, Decimal.numerator, Decimal.denominator,
    Int.toNat_of_nonpos (show -x.shown.exponent ≤ 0 by omega)] at read
  exact read

theorem wholeDigits_ne_zero (filled : x.units ≠ 0) : x.wholeDigits ≠ 0 :=
  Nat.mul_ne_zero (shown_digits_ne_zero filled) (Nat.ne_of_gt (tenTo_pos _))

theorem neg_neg (x : Finite) : x.neg.neg = x := by
  cases x
  simp only [neg, Bool.not_not]

theorem neg_eq_finite {b : Binary64} (same : b.neg = .finite x) : b = .finite x.neg := by
  cases b with
  | finite y =>
    injection same with same
    rw [← same, neg_neg]
  | infinite negative => cases same
  | nan => cases same

theorem ofInt_wholeDigits (negative : x.negative = true) (whole : 0 ≤ x.shown.exponent) :
    ofInt x.wholeDigits = .finite x.neg := by
  have nearest := ofRatio_wholeDigits whole
  rw [negative, ofRatio_neg] at nearest
  rw [ofInt_natCast]
  exact neg_eq_finite nearest

/-- Digits that make a word are read as the integer that they spell, or as the number itself where
the sign makes that integer too small. -/
theorem wholeNumber_plain (filled : x.units ≠ 0) (whole : 0 ≤ x.shown.exponent)
    (word : x.wholeDigits < wordBound) :
    wholeNumber x.negative x.wholeDigits = .real x ∨
      ∃ n low high, wholeNumber x.negative x.wholeDigits = .integer n low high ∧
        decimal n =
          if x.negative then '-' :: digitsOf x.wholeDigits else digitsOf x.wholeDigits := by
  have some := wholeDigits_ne_zero filled
  cases negative : x.negative with
  | false =>
    refine .inr ⟨x.wholeDigits, by omega, by omega, ?_, ?_⟩
    · have read := wholeNumber_integer (x.wholeDigits : Int) (by omega) (by omega)
      rwa [decide_eq_false (by omega), Int.natAbs_natCast] at read
    · rw [decimal, if_neg (by omega), Int.natAbs_natCast, if_neg Bool.false_ne_true]
  | true =>
    by_cases large : signedBound < x.wholeDigits
    · refine .inl ?_
      rw [wholeNumber, if_pos rfl, if_pos (.inr large), ofInt_wholeDigits negative whole]
      exact congrArg Number.real (neg_neg x)
    · refine .inr ⟨-(x.wholeDigits : Int), by omega, by omega, ?_, ?_⟩
      · have read := wholeNumber_integer (-(x.wholeDigits : Int)) (by omega) (by omega)
        rwa [decide_eq_true (by omega), Int.natAbs_neg, Int.natAbs_natCast] at read
      · rw [decimal, if_pos (by omega), Int.natAbs_neg, Int.natAbs_natCast, if_pos rfl]

theorem numberText_real (filled : x.units ≠ 0) : Coercion.numberText (.real x) =
    String.ofList (if x.negative then '-' :: x.plainMagnitude else x.plainMagnitude) := by
  rw [Coercion.numberText, display, isZero, beq_eq_false_iff_ne.mpr filled,
    if_neg Bool.false_ne_true, render_plain filled]

theorem readNumber_plainly (filled : x.units ≠ 0) (plainly : x.ReadPlainly) :
    ∃ n, readNumber x.negative x.plainMagnitude = .ok (n, []) ∧
      Coercion.numberText n = Coercion.numberText (.real x) := by
  have shown := numberText_real filled
  by_cases whole : 0 ≤ x.shown.exponent
  · have digits := plainMagnitude_whole filled whole
    by_cases word : x.wholeDigits < wordBound
    · have read := readNumber_integer x.negative word delimited_nil
      rw [List.append_nil, ← digits] at read
      refine ⟨_, read, ?_⟩
      -- The integer is another number than `x`, but is written with the same digits.
      rcases wholeNumber_plain filled whole word with same | ⟨n, low, high, made, spelled⟩
      · rw [same]
      · rw [made, shown, Coercion.numberText, spelled, digits]
    · have parts := (plainly.1 whole).resolve_left word
      refine ⟨.real x, ?_, rfl⟩
      rw [digits, readNumber_large _ (Nat.not_lt.mp word), readReal_of_parts _ parts]
  · have fraction := Int.not_le.mp whole
    have read := readReal_exactly x (plainly.2 fraction) x.shown_toBinary64 []
    exact ⟨.real x, (readNumber_plain filled fraction _).trans read, rfl⟩

end Binary64.Finite

namespace Json

theorem parse_scalar {text : List Char} {value : Value}
    (head : ∃ c rest, text = c :: rest ∧ (c.isDigit = true ∨ c = '-'))
    (read : readScalar text = .ok (value, [])) : parse (String.ofList text) = .ok value.sorted := by
  obtain ⟨c, rest, rfl, opens⟩ := head
  have opening : Opening c := opens.elim .inl fun minus => .inr (.inl minus)
  have notBracket : c ≠ '[' ∧ c ≠ '\x7b' := by
    rcases opens with digit | rfl
    · constructor <;> rintro rfl <;> cases digit
    · decide
  have whole : readValue (stepsFor (c :: rest)) maxNesting (c :: rest) = .ok (value, []) :=
    (readValue_scalar _ _ (isSpace_of_notBlank opening.notBlank) notBracket.1 notBracket.2).trans
      read
  rw [parse, readDocument, String.toList_ofList, whole]
  rfl

theorem numberText_zero {x : Finite} (zero : x.units = 0) :
    Coercion.numberText (.real x) = "0" := by
  rw [Coercion.numberText, display, Finite.isZero, beq_iff_eq.mpr zero, if_pos rfl]

theorem parse_integerText (n : Int) (low : -(signedBound : Int) ≤ n)
    (high : n < (wordBound : Int)) :
    parse (Coercion.numberText (.integer n low high)) = .ok (.number (.integer n low high)) := by
  have read : parse (Value.number (.integer n low high)).compact =
      .ok (.number (.integer n low high)) :=
    parse_compact (.number _) (fun _ inside => nomatch inside) (Nat.zero_le _)
  exact read

theorem parse_numberText (n : Number) (plainly : ∀ x, n = .real x → x.ReadPlainly) :
    ∃ m, parse (Coercion.numberText n) = .ok (.number m) ∧
      Coercion.numberText m = Coercion.numberText n := by
  cases n with
  | integer n low high => exact ⟨_, parse_integerText n low high, rfl⟩
  | real x =>
    by_cases zero : x.units = 0
    · rw [numberText_zero zero]
      exact ⟨_, parse_integerText 0 (by decide) (by decide), rfl⟩
    · obtain ⟨m, read, same⟩ := Finite.readNumber_plainly zero (plainly x rfl)
      have head : ∃ c rest, x.plainMagnitude = c :: rest ∧ c.isDigit = true :=
        positional_head _ _ _
      have scalar := readScalar_signed head read
      have opens : ∃ c rest, (if x.negative then '-' :: x.plainMagnitude else x.plainMagnitude) =
          c :: rest ∧ (c.isDigit = true ∨ c = '-') := by
        split
        · exact ⟨'-', _, rfl, .inr rfl⟩
        · obtain ⟨c, rest, spelled, digit⟩ := head
          exact ⟨c, rest, spelled, .inl digit⟩
      have whole := parse_scalar opens scalar
      rw [← Finite.numberText_real zero] at whole
      exact ⟨m, whole, same⟩

theorem trimmed_numberText (n : Number) :
    Text.trimmed (Coercion.numberText n) = Coercion.numberText n := by
  have solid : ∀ c ∈ (Coercion.numberText n).toList, isBlank c = false := by
    intro c member
    cases n with
    | integer n low high =>
      rw [Coercion.numberText, String.toList_ofList] at member
      exact numberChar_notBlank (decimal_chars member)
    | real x =>
      by_cases zero : x.units = 0
      · rw [numberText_zero zero] at member
        rw [List.mem_singleton.mp member]
        rfl
      rw [Finite.numberText_real zero, String.toList_ofList] at member
      have chars : ∀ d ∈ x.plainMagnitude, NumberChar d :=
        fun d inside => positional_chars (digitsOf_all _) inside
      split at member
      · rcases List.mem_cons.mp member with rfl | inside
        · rfl
        · exact numberChar_notBlank (chars c inside)
      · exact numberChar_notBlank (chars c member)
  rw [Text.trimmed, Text.trim_of_solid solid, String.ofList_toList]

end Json

end SchemaCheck
