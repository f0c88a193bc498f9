import SchemaCheck.Proofs.Coercion.Scalar
import SchemaCheck.Proofs.Number.Nearest
import SchemaCheck.Proofs.Text.Scan

/-!
Integers from text. A numeral of any length in the range of signed words is read as its integer
(`integer_of_numeral`). The others are read as the nearest binary64 number; only the 1024 that lie
next below the range are rounded into it, to its least integer.
-/

namespace SchemaCheck

/-- An optional sign and digits in any number, and the integer that they stand for. -/
inductive Text.SignedNumeral : List Char → Int → Prop where
  | plain {digits} (all : AllDigits digits) (filled : digits ≠ []) :
    SignedNumeral digits (numeralFrom 0 digits)
  | plus {digits} (all : AllDigits digits) (filled : digits ≠ []) :
    SignedNumeral ('+' :: digits) (numeralFrom 0 digits)
  | minus {digits} (all : AllDigits digits) (filled : digits ≠ []) :
    SignedNumeral ('-' :: digits) (-numeralFrom 0 digits)

namespace Text

variable {text digits : List Char} {n : Int}

theorem SignedNumeral.integer? (written : SignedNumeral text n) : integer? text = some n := by
  cases written with
  | plain all filled =>
    obtain ⟨c, rest, spelled⟩ := List.exists_cons_of_ne_nil filled
    have digit := all c (spelled ▸ List.mem_cons_self)
    have whole := natural?_digits all filled
    rw [spelled] at whole ⊢
    rw [integer?_of_starts digit, whole, numeral_eq]
    rfl
  | plus all filled =>
    rw [Text.integer?, unsigned?, natural?_digits all filled, numeral_eq]
    · rfl
    · exact fun _ same => absurd (List.cons.inj same).1 (by decide)
  | minus all filled =>
    rw [Text.integer?, natural?_digits all filled, numeral_eq]
    rfl

theorem signedNumeral_decimal (n : Int) : SignedNumeral (decimal n) n := by
  have all := digitsOf_all n.natAbs
  have filled := digitsOf_ne_nil n.natAbs
  by_cases negative : n < 0
  · have written := SignedNumeral.minus all filled
    rw [numeral_digitsOf, show -(n.natAbs : Int) = n by omega] at written
    rwa [decimal, if_pos negative]
  · have written := SignedNumeral.plain all filled
    rw [numeral_digitsOf, show (n.natAbs : Int) = n by omega] at written
    rwa [decimal, if_neg negative]

end Text

namespace Binary64

variable {text digits : List Char} {n : Int}

theorem magnitude?_digits (negative : Bool) (all : Text.AllDigits digits) (filled : digits ≠ []) :
    magnitude? negative digits = some (ofRatio negative (Text.numeralFrom 0 digits) 1) := by
  have taken := Text.takeWhile_digits all Text.noDigitAhead_nil
  have dropped := Text.dropWhile_digits all Text.noDigitAhead_nil
  rw [List.append_nil] at taken dropped
  have some_ : digits.isEmpty = false := List.isEmpty_eq_false_iff.mpr filled
  have nearest : ofDecimal negative (Text.numeral digits) 0 =
      ofRatio negative (Text.numeralFrom 0 digits) 1 := by
    rw [Text.numeral_eq]
    exact (Decimal.toBinary64_eq negative ⟨Text.numeralFrom 0 digits, 0⟩).trans
      (congrArg (ofRatio negative · 1) (Nat.mul_one _))
  simp [magnitude?, taken, dropped, some_, exponent?, nearest]

/-- Behind an optional sign, what starts with a digit is none of the names of numbers. -/
theorem read?_starts {c : Char} (digit : c.isDigit = true) (rest : List Char) :
    read? (c :: rest) = magnitude? false (c :: rest) ∧
      read? ('+' :: c :: rest) = magnitude? false (c :: rest) ∧
      read? ('-' :: c :: rest) = magnitude? true (c :: rest) := by
  have nameless {name : List Char} {d : Char} (letter : d.isDigit = false) :
      ((c :: rest).map Char.toLower == d :: name) = false := by
    rw [List.map_cons, Text.toLower_of_isDigit digit, beq_eq_false_iff_ne]
    intro same
    rw [(List.cons.inj same).1, letter] at digit
    cases digit
  have inf : ((c :: rest).map Char.toLower == "inf".toList) = false := nameless rfl
  have infinity : ((c :: rest).map Char.toLower == "infinity".toList) = false := nameless rfl
  have nan : ((c :: rest).map Char.toLower == "nan".toList) = false := nameless rfl
  refine ⟨?_, ?_, ?_⟩
  · unfold read?
    split
    next negative body read =>
    have plain : (false, c :: rest) = (negative, body) := by
      split at read
      next same => cases same; cases digit
      next same => cases same; cases digit
      next => exact read
    cases plain
    simp only [inf, infinity, nan, Bool.or_false, Bool.false_eq_true, if_false]
  · simp only [read?, inf, infinity, nan, Bool.or_false, Bool.false_eq_true, if_false]
  · simp only [read?, inf, infinity, nan, Bool.or_false, Bool.false_eq_true, if_false]

theorem read?_numeral (written : Text.SignedNumeral text n) (nonzero : n ≠ 0) :
    read? text = some (ofInt n) := by
  have starts {digits} (all : Text.AllDigits digits) (filled : digits ≠ []) :
      read? digits = magnitude? false digits ∧ read? ('+' :: digits) = magnitude? false digits ∧
        read? ('-' :: digits) = magnitude? true digits := by
    obtain ⟨c, rest, rfl⟩ := List.exists_cons_of_ne_nil filled
    exact read?_starts (all c List.mem_cons_self) rest
  cases written with
  | plain all filled =>
    rw [(starts all filled).1, magnitude?_digits false all filled, ofInt,
      decide_eq_false (by omega), Int.natAbs_natCast]
  | plus all filled =>
    rw [(starts all filled).2.1, magnitude?_digits false all filled, ofInt,
      decide_eq_false (by omega), Int.natAbs_natCast]
  | minus all filled =>
    rw [(starts all filled).2.2, magnitude?_digits true all filled, ofInt,
      decide_eq_true (by omega), Int.natAbs_neg, Int.natAbs_natCast]

end Binary64

namespace Coercion

open Binary64

variable {text : String} {m n : Int} {x y : Finite}

/-- Cutting off the fraction behind the rounding keeps the order of integers. -/
theorem truncate_mono (nearest : ofInt m = .finite x) (also : ofInt n = .finite y)
    (ordered : m ≤ n) : x.truncate ≤ y.truncate := by
  rw [truncate_ofInt nearest, truncate_ofInt also]
  exact Int.tdiv_le_tdiv (Int.natCast_pos.mpr (twoTo_pos _))
    (nearestUnits_mono (Int.mul_le_mul_of_nonneg_right ordered (Int.natCast_nonneg _)))

theorem truncate_known {m n : Int} (known : (ofInt m).finite?.map (·.truncate) = some n) :
    ∃ x, ofInt m = .finite x ∧ x.truncate = n := by
  cases nearest : ofInt m with
  | finite x =>
    rw [nearest] at known
    exact ⟨x, rfl, Option.some.inj known⟩
  | infinite negative =>
    rw [nearest] at known
    cases known
  | nan =>
    rw [nearest] at known
    cases known

/-- Rounding brings only the 1024 integers next below the range of signed words into it. -/
theorem truncate?_outside (outside : isSignedWord n = false) :
    (ofInt n).finite?.bind truncate? =
      if -(signedBound : Int) - 1024 ≤ n ∧ n < 0 then some (-(signedBound : Int)) else none := by
  have bound : (signedBound : Int) = 9223372036854775808 := by decide
  simp only [isSignedWord, bound, Bool.and_eq_false_iff, decide_eq_false_iff_not] at outside
  by_cases near : -(signedBound : Int) - 1024 ≤ n ∧ n < 0
  · have small : n.natAbs ≤ twoTo 64 := by
      have word : twoTo 64 = 18446744073709551616 := by decide
      omega
    obtain ⟨x, nearest⟩ := ofInt_finite small
    -- The last integer that is rounded to the least signed word, and that word.
    obtain ⟨y, last, lastCut⟩ := truncate_known (m := -9223372036854776832)
      (n := -9223372036854775808) (by decide +kernel)
    obtain ⟨z, least, leastCut⟩ := truncate_known (m := -9223372036854775808)
      (n := -9223372036854775808) (by decide +kernel)
    have lower := truncate_mono last nearest (by omega)
    have upper := truncate_mono nearest least (by omega)
    have cut : x.truncate = -(signedBound : Int) := by omega
    rw [if_pos near, nearest, Binary64.finite?, Option.bind_some, truncate?, cut,
      if_pos (by decide)]
  rw [if_neg near]
  cases nearest : ofInt n with
  | finite x =>
    have away : isSignedWord x.truncate = false := by
      simp only [isSignedWord, bound, Bool.and_eq_false_iff, decide_eq_false_iff_not]
      rcases outside with low | high
      -- The first integer that is rounded away from the least signed word.
      · obtain ⟨y, first, firstCut⟩ := truncate_known (m := -9223372036854776833)
          (n := -9223372036854777856) (by decide +kernel)
        have upper := truncate_mono nearest first (by omega)
        omega
      · obtain ⟨y, beyond, beyondCut⟩ := truncate_known (m := 9223372036854775808)
          (n := 9223372036854775808) (by decide +kernel)
        have lower := truncate_mono beyond nearest (by omega)
        omega
    rw [Binary64.finite?, Option.bind_some, truncate?, away, if_neg Bool.false_ne_true]
  | infinite negative => rfl
  | nan => rfl

theorem toInteger?_unread (unread : word? (Text.trim text.toList) = none) :
    toInteger? (.string text) = (finite? (Text.trim text.toList)).bind truncate? := by
  rw [toInteger?, unread]

theorem toInteger?_numeral (written : Text.SignedNumeral (Text.trim text.toList) n) :
    toInteger? (.string text) =
      if isSignedWord n then some n else (ofInt n).finite?.bind truncate? := by
  cases word : isSignedWord n with
  | true =>
    have read : word? (Text.trim text.toList) = some n := by
      rw [word?, written.integer?, Option.filter_some_pos word]
    rw [toInteger?, read, if_pos rfl]
  | false =>
    have unread : word? (Text.trim text.toList) = none := by
      rw [word?, written.integer?]
      exact Option.filter_some_neg (by simp [word])
    have nonzero : n ≠ 0 := by
      rintro rfl
      exact absurd word (by decide)
    rw [toInteger?_unread unread, finite?, read?_numeral written nonzero, Option.bind_some,
      if_neg Bool.false_ne_true]

/-- A numeral in the range of signed words is read as its integer. Of the others only the 1024 next
below the range are read at all, as its least integer, to which they are rounded. -/
theorem integer_of_numeral (written : Text.SignedNumeral (Text.trim text.toList) n) :
    toInteger? (.string text) =
      if isSignedWord n then some n
      else if -(signedBound : Int) - 1024 ≤ n ∧ n < 0 then some (-(signedBound : Int))
      else none := by
  rw [toInteger?_numeral written]
  split
  next => rfl
  next outside => exact truncate?_outside (Bool.eq_false_iff.mpr outside)

/-- A sign, zeros in front and white space around the numeral do not matter. -/
theorem integer_of_numeral_padded :
    Text.SignedNumeral (Text.trim " -0042 ".toList) (-42) ∧
      toInteger? (.string " -0042 ") = some (-42) := by
  have digits : Text.AllDigits "0042".toList := List.all_eq_true.mp (by decide)
  have written : Text.SignedNumeral (Text.trim " -0042 ".toList) (-42) :=
    Text.SignedNumeral.minus digits (by decide)
  exact ⟨written, (integer_of_numeral written).trans (if_pos (by decide))⟩

/-- The integer next below the range of signed words is read as one in the range. -/
theorem integer_of_numeral_below :
    Text.SignedNumeral "-9223372036854775809".toList (-9223372036854775809) ∧
      isSignedWord (-9223372036854775809) = false ∧
      toInteger? (.string "-9223372036854775809") = some (-9223372036854775808) := by
  have digits : Text.AllDigits "9223372036854775809".toList := List.all_eq_true.mp (by decide)
  exact ⟨Text.SignedNumeral.minus digits (by decide), by decide, by decide +kernel⟩

end Coercion

end SchemaCheck
