import Mathlib.Algebra.Order.Field.Basic
import SchemaCheck.Proofs.Coercion.Numeral
import SchemaCheck.Proofs.Json.Plain

/-!
The integer of a number, by way of its text. The text of a number is read as the number, unless it
is the numeral of an integer: a float above `2 ^ 53` is written with its shortest digits and zeros
behind them, and this integer is read exactly, although it is only rounded to the float
(`integer_through_text`).
-/

namespace SchemaCheck

open Text
open Json (Value Number)

namespace Binary64

theorem magnitude?_point (negative : Bool) {whole behind : List Char} (all : AllDigits whole)
    (filled : whole ≠ []) (also : AllDigits behind) :
    magnitude? negative (whole ++ '.' :: behind) =
      some (ofDecimal negative (numeral (whole ++ behind)) (-(behind.length : Int))) := by
  have ahead : NoDigitAhead ('.' :: behind) := noDigitAhead_cons '.' rfl behind
  have taken := takeWhile_digits also noDigitAhead_nil
  have dropped := dropWhile_digits also noDigitAhead_nil
  rw [List.append_nil] at taken dropped
  have some_ : whole.isEmpty = false := List.isEmpty_eq_false_iff.mpr filled
  simp [magnitude?, takeWhile_digits all ahead, dropWhile_digits all ahead, taken, dropped, some_,
    exponent?]

theorem read?_signed {body : List Char} (head : ∃ c rest, body = c :: rest ∧ c.isDigit = true)
    (negative : Bool) :
    read? (if negative then '-' :: body else body) = magnitude? negative body := by
  obtain ⟨c, rest, rfl, digit⟩ := head
  obtain ⟨plain, _, minus⟩ := read?_starts digit rest
  cases negative with
  | false => exact plain
  | true => exact minus

namespace Finite

variable {x : Finite}

theorem plainMagnitude_point (fraction : x.shown.exponent < 0) :
    ∃ whole behind, x.plainMagnitude = whole ++ '.' :: behind ∧ AllDigits whole ∧ whole ≠ [] ∧
      AllDigits behind ∧ numeral (whole ++ behind) = x.shown.digits ∧
      -(behind.length : Int) = x.shown.exponent := by
  have all := digitsOf_all x.shown.digits
  have place_eq : x.shown.place = x.shown.exponent + (digitsOf x.shown.digits).length - 1 := rfl
  unfold plainMagnitude Decimal.Layout.positional
  by_cases below : x.shown.place < 0
  -- All digits stand behind the point, with zeros in front of them.
  · rw [if_pos below]
    generalize count : (-x.shown.place - 1).toNat = zeros
    refine ⟨['0'], _, rfl, allDigits_zero, List.cons_ne_nil _ _,
      (allDigits_zeros zeros).append all, ?_, ?_⟩
    · have led : ['0'] ++ (List.replicate zeros '0' ++ digitsOf x.shown.digits) =
          List.replicate (zeros + 1) '0' ++ digitsOf x.shown.digits := rfl
      rw [led, numeral_zeros_append, numeral_digits]
    · rw [List.length_append, List.length_replicate]
      omega
  -- The point stands among the digits, as the last of them belongs to the fraction.
  · rw [if_neg below]
    have behind : x.shown.place.toNat + 1 < (digitsOf x.shown.digits).length := by omega
    have some_ : (digitsOf x.shown.digits).drop (x.shown.place.toNat + 1) ≠ [] := by
      rw [ne_eq, List.drop_eq_nil_iff]
      omega
    dsimp only
    rw [Nat.sub_eq_zero_of_le (Nat.le_of_lt behind), List.replicate_zero, List.append_nil,
      List.isEmpty_eq_false_iff.mpr some_]
    refine ⟨_, _, rfl, all.take _, ?_, all.drop _, ?_, ?_⟩
    · rw [ne_eq, List.take_eq_nil_iff]
      have digits := digitsOf_ne_nil x.shown.digits
      simp [digits]
    · rw [List.take_append_drop, numeral_digits]
    · rw [List.length_drop]
      omega

theorem read?_fraction (filled : x.units ≠ 0) (fraction : x.shown.exponent < 0) :
    read? (Coercion.numberText (.real x)).toList = some (.finite x) ∧
      integer? (Coercion.numberText (.real x)).toList = none := by
  have head : ∃ c rest, x.plainMagnitude = c :: rest ∧ c.isDigit = true :=
    Json.positional_head _ _ _
  obtain ⟨whole, behind, spelled, all, some_, also, digits, exponent⟩ :=
    plainMagnitude_point fraction
  rw [numberText_real filled, String.toList_ofList]
  constructor
  · have back : ofDecimal x.negative x.shown.digits x.shown.exponent = .finite x :=
      x.shown_toBinary64
    rw [read?_signed head, spelled, magnitude?_point _ all some_ also, digits, exponent, back]
  · have point : '.' ∈ x.plainMagnitude := by
      rw [spelled]
      exact List.mem_append_right _ List.mem_cons_self
    have fails := natural?_none point rfl
    cases x.negative with
    | true =>
      rw [if_pos rfl, integer?, fails]
      rfl
    | false =>
      obtain ⟨c, rest, opens, digit⟩ := head
      rw [opens] at fails ⊢
      rw [if_neg Bool.false_ne_true, integer?_of_starts digit, fails, Option.map_none]

def digitsInteger (x : Finite) : Int := if x.negative then -(x.wholeDigits : Int) else x.wholeDigits

theorem numberText_whole (filled : x.units ≠ 0) (whole : 0 ≤ x.shown.exponent) :
    (Coercion.numberText (.real x)).toList = decimal x.digitsInteger := by
  have some_ := wholeDigits_ne_zero filled
  rw [numberText_real filled, String.toList_ofList, plainMagnitude_whole filled whole,
    digitsInteger, decimal]
  cases x.negative with
  | true =>
    rw [if_pos rfl, if_pos rfl, if_pos (by omega), Int.natAbs_neg, Int.natAbs_natCast]
  | false =>
    rw [if_neg Bool.false_ne_true, if_neg Bool.false_ne_true, if_neg (by omega),
      Int.natAbs_natCast]

theorem ofInt_digitsInteger (filled : x.units ≠ 0) (whole : 0 ≤ x.shown.exponent) :
    ofInt x.digitsInteger = .finite x := by
  have some_ := wholeDigits_ne_zero filled
  rw [← ofRatio_wholeDigits whole, digitsInteger, ofInt]
  cases x.negative with
  | true =>
    rw [if_pos rfl, decide_eq_true (by omega), Int.natAbs_neg, Int.natAbs_natCast]
  | false =>
    rw [if_neg Bool.false_ne_true, decide_eq_false (by omega), Int.natAbs_natCast]

/-- The text of the number is the numeral of a signed word, but of another number. -/
structure Respelled (x : Finite) (m : Int) : Prop where
  word : isSignedWord m = true
  spelled : (Coercion.numberText (.real x)).toList = decimal m
  other : x.toRat ≠ m

theorem Respelled.ofInt {m : Int} (respelled : x.Respelled m) : ofInt m = .finite x := by
  have read := integer?_decimal m
  rw [← respelled.spelled] at read
  by_cases zero : x.units = 0
  · rw [Json.numberText_zero zero] at read
    have same : m = 0 := (Option.some.inj read).symm
    refine absurd ?_ respelled.other
    rw [same, toRat, Int.natAbs_eq_zero.mp (x.natAbs_toUnits.trans zero), Int.cast_zero, zero_div]
  by_cases whole : 0 ≤ x.shown.exponent
  · rw [numberText_whole zero whole, integer?_decimal] at read
    rw [← Option.some.inj read]
    exact ofInt_digitsInteger zero whole
  · rw [(read?_fraction zero (Int.not_le.mp whole)).2] at read
    cases read

namespace Respelled

variable {m : Int}

theorem long (respelled : x.Respelled m) : twoTo 53 < m.natAbs :=
  Nat.not_le.mp fun short => respelled.other (toRat_ofInt respelled.ofInt short)

theorem units_le (respelled : x.Respelled m) : twoTo 53 * twoTo unitExponent ≤ x.units := by
  rw [units_ofInt respelled.ofInt, ← twoTo_add]
  apply twoTo_le_roundToGrid Nat.one_pos
  rw [Nat.mul_one, twoTo_add]
  exact Nat.mul_le_mul_right _ respelled.long.le

theorem isIntegral (respelled : x.Respelled m) : x.isIntegral = true := by
  apply isIntegral_of_large
  exact (Nat.mul_le_mul_right _ (twoTo_le (by decide))).trans respelled.units_le

/-- The power of two at the end of the integers of 53 binary digits is written with all of its
digits. -/
theorem units_ne (respelled : x.Respelled m) : x.units ≠ twoTo 53 * twoTo unitExponent := by
  have text : ∀ negative, integer? (Coercion.numberText (.real
      { negative
        units := twoTo 53 * twoTo unitExponent
        onGrid := onGrid_mul_twoTo _ _ (Nat.le_refl _)
        bounded := by decide +kernel })).toList =
        some (if negative then -9007199254740992 else 9007199254740992) := by
    decide +kernel
  intro same
  have read := integer?_decimal m
  have long := respelled.long
  rw [← respelled.spelled] at read
  clear respelled
  obtain ⟨negative, units, onGrid, bounded⟩ := x
  have reached : twoTo 53 * twoTo unitExponent = units := same.symm
  subst reached
  rw [text negative, Option.some.injEq] at read
  have limit : twoTo 53 = 9007199254740992 := by decide
  clear text bounded same
  split at read <;> omega

theorem above (respelled : x.Respelled m) : (twoTo 53 : ℚ) < |x.toRat| := by
  have size : |x.toRat| = (x.units : ℚ) / twoTo unitExponent := by
    rw [toRat, abs_div, abs_of_pos units_pos, ← Int.cast_abs, ← Int.natCast_natAbs,
      x.natAbs_toUnits, Int.cast_natCast]
  rw [size, lt_div_iff₀ units_pos, ← Nat.cast_mul, Nat.cast_lt]
  exact lt_of_le_of_ne respelled.units_le respelled.units_ne.symm

end Respelled

end Finite

end Binary64

namespace Coercion

open Binary64

variable {text : String} {m n : Int} {x : Finite}

theorem trim_numberText (n : Number) : trim (numberText n).toList = (numberText n).toList := by
  have same := congrArg String.toList (Json.trimmed_numberText n)
  rwa [Text.trimmed, String.toList_ofList] at same

theorem toInteger?_spelled {number : Number} (spelled : (numberText number).toList = decimal n) :
    toInteger? (.string (numberText number)) =
      if isSignedWord n then some n else (ofInt n).finite?.bind truncate? := by
  apply toInteger?_numeral
  rw [trim_numberText, spelled]
  exact signedNumeral_decimal n

theorem toInteger?_integerText (low : -(signedBound : Int) ≤ n) (high : n < (wordBound : Int)) :
    toInteger? (.string (numberText (.integer n low high))) =
      toInteger? (.number (.integer n low high)) := by
  have spelled : (numberText (.integer n low high)).toList = decimal n := String.toList_ofList ..
  rw [toInteger?_spelled spelled, toInteger?]
  by_cases small : n < (signedBound : Int)
  · rw [if_pos small, if_pos (isSignedWord_iff.mpr ⟨low, small⟩)]
  · rw [if_neg small, if_neg fun word => small (isSignedWord_iff.mp word).2]

theorem toInteger?_realText (faithful : ∀ m, ¬x.Respelled m) :
    toInteger? (.string (numberText (.real x))) = toInteger? (.number (.real x)) := by
  by_cases zero : x.units = 0
  · have none : x.toUnits = 0 := Int.natAbs_eq_zero.mp (x.natAbs_toUnits.trans zero)
    have cut : x.truncate = 0 := by rw [Finite.truncate_eq, none, Int.zero_tdiv]
    have direct : toInteger? (.number (.real x)) = some 0 := by
      rw [toInteger?, truncate?, cut]
      rfl
    rw [direct, Json.numberText_zero zero]
    decide +kernel
  by_cases whole : 0 ≤ x.shown.exponent
  · have spelled := Finite.numberText_whole zero whole
    rw [toInteger?_spelled spelled, Finite.ofInt_digitsInteger zero whole]
    by_cases word : isSignedWord x.digitsInteger = true
    · have same : x.toRat = x.digitsInteger := by
        by_contra other
        exact faithful _ ⟨word, spelled, other⟩
      rw [if_pos word, toInteger?, truncate?, Finite.truncate_of_toRat same, if_pos word]
    -- The digits are rounded, which gives the float from which they were made.
    · rw [if_neg word]
      rfl
  · obtain ⟨read, other⟩ := Finite.read?_fraction zero (Int.not_le.mp whole)
    have unread : word? (trim (numberText (.real x)).toList) = none := by
      rw [trim_numberText, word?, other, Option.filter_none]
    rw [toInteger?_unread unread, trim_numberText, finite?, read]
    rfl

/-- The text of a JSON number gives the integer of the number, unless the number is a float that is
written as another integer in the range of signed words. That integer is then given, although it is
only rounded to the float, which takes a float of more than 53 binary digits. -/
theorem integer_through_text (number : Number) :
    ∃ text, toText? (.number number) = some text ∧
      ((∀ x m, number = .real x → ¬x.Respelled m) →
        toInteger? (.string text) = toInteger? (.number number)) ∧
      ∀ x m, number = .real x → x.Respelled m →
        toInteger? (.string text) = some m ∧ toInteger? (.number number) ≠ some m ∧
          ofInt m = .finite x ∧ (twoTo 53 : ℚ) < |x.toRat| := by
  refine ⟨numberText number, rfl, fun faithful => ?_, ?_⟩
  · cases number with
    | integer n low high => exact toInteger?_integerText low high
    | real x => exact toInteger?_realText fun m => faithful x m rfl
  · rintro x m rfl respelled
    refine ⟨?_, fun direct => ?_, respelled.ofInt, respelled.above⟩
    · rw [toInteger?_spelled respelled.spelled, if_pos respelled.word]
    -- So large a float has no fraction, so that cutting it off gives the float itself.
    · have cut : x.truncate = m := by
        rw [toInteger?, truncate?] at direct
        split at direct
        · exact Option.some.inj direct
        · cases direct
      exact respelled.other (cut ▸ (x.truncate_integral respelled.isIntegral).symm)

/-- A power of two is written as the integer with the fewest digits that is rounded to it. -/
theorem integer_through_text_respelled :
    let x := (ofInt 144115188075855872).finite?.getD .zero
    toText? (.number (.real x)) = some "144115188075855870" ∧
      toInteger? (.string "144115188075855870") = some 144115188075855870 ∧
      toInteger? (.number (.real x)) = some 144115188075855872 := by
  decide +kernel

end Coercion

end SchemaCheck
