import SchemaCheck.Proofs.Json.Number
import SchemaCheck.Proofs.Number.Nearest

/-!
Where JSON text is read exactly. The reader rounds the digits, then the power of ten, then their
product or quotient; while the first two are numbers of the format only the last rounding counts
(`readExactly_of_short`).
-/

namespace SchemaCheck

open Binary64

namespace Binary64

theorem ofRatio_whole {n : Nat} (onGrid : OnGrid (n * twoTo unitExponent))
    (bounded : (n * twoTo unitExponent).log2 < digitBound) :
    ofRatio false n 1 = .finite ⟨false, n * twoTo unitExponent, onGrid, bounded⟩ :=
  ofUnitRatio_eq false (roundToGrid_whole onGrid) onGrid bounded

theorem whole_bounded {n : Nat} (small : n ≤ twoTo 80) :
    (n * twoTo unitExponent).log2 < digitBound := by
  rcases Nat.eq_zero_or_pos n with rfl | positive
  · rw [Nat.zero_mul]
    decide
  rw [log2_lt_iff (Nat.ne_of_gt (Nat.mul_pos positive (twoTo_pos _)))]
  calc
    n * twoTo unitExponent ≤ twoTo (80 + unitExponent) := by
      rw [twoTo_add]
      exact Nat.mul_le_mul_right _ small
    _ < twoTo digitBound := by decide +kernel

/-- The powers of ten up to `10 ^ 22` are numbers of the format. -/
theorem tenTo_onGrid : ∀ k ≤ 22, OnGrid (tenTo k * twoTo unitExponent) ∧ tenTo k ≤ twoTo 80 := by
  decide +kernel

theorem ofRatio_neg (num den : Nat) : ofRatio true num den = (ofRatio false num den).neg := by
  unfold ofRatio ofUnitRatio
  split <;> rfl

theorem finite?_ofRatio (negative : Bool) (num den : Nat) :
    (ofRatio negative num den).finite? =
      (ofRatio false num den).finite?.map fun x => if negative then x.neg else x := by
  cases negative with
  | false => exact Option.map_id'.symm
  | true =>
    rw [ofRatio_neg]
    cases ofRatio false num den <;> rfl

end Binary64

namespace Binary64.Finite

variable {digits power : Nat}

/-- A product with a power of ten that is a number of the format is rounded once. -/
theorem mul_whole {x y : Finite} (xWhole : x.units = digits * twoTo unitExponent)
    (yWhole : y.units = power * twoTo unitExponent) (xSign : x.negative = false)
    (ySign : y.negative = false) : x.mul y = ofRatio false (digits * power) 1 := by
  have ratio : digits * twoTo unitExponent * (power * twoTo unitExponent) =
      digits * power * twoTo unitExponent * twoTo unitExponent := by
    rw [Nat.mul_mul_mul_comm, ← Nat.mul_assoc]
  have scaled := ofUnitRatio_scale false (digits * power * twoTo unitExponent) 1
    (twoTo_pos unitExponent)
  rw [Nat.one_mul] at scaled
  rw [Finite.mul, xWhole, yWhole, xSign, ySign, ratio]
  exact scaled

theorem div_whole {x y : Finite} (xWhole : x.units = digits * twoTo unitExponent)
    (yWhole : y.units = power * twoTo unitExponent) (xSign : x.negative = false)
    (ySign : y.negative = false) (positive : 0 < power) :
    x.div y = ofRatio false digits power := by
  have nonzero : y.isZero = false := by
    rw [Finite.isZero, yWhole, beq_eq_false_iff_ne]
    exact Nat.ne_of_gt (Nat.mul_pos positive (twoTo_pos _))
  rw [Finite.div, nonzero, if_neg Bool.false_ne_true, xWhole, yWhole, xSign, ySign]
  exact ofUnitRatio_scale false _ _ (twoTo_pos unitExponent)

end Binary64.Finite

namespace Json

theorem scale_near {fuel : Nat} {x power : Finite} {exponent : Int}
    (near : exponent.natAbs ≤ 308) (known : ofDecimal false 1 exponent.natAbs = .finite power) :
    scale (fuel + 1) x exponent =
      if 0 ≤ exponent then (x.mul power).finite? else (x.div power).finite? := by
  rw [scale, if_pos near, known]
  rfl

theorem ofDecimal_tenTo {k : Nat} (onGrid : OnGrid (tenTo k * twoTo unitExponent))
    (small : tenTo k ≤ twoTo 80) : ∃ x : Finite, ofDecimal false 1 k = .finite x ∧
      x.units = tenTo k * twoTo unitExponent ∧ x.negative = false := by
  have read := Decimal.toBinary64_eq false ⟨1, k⟩
  rw [Decimal.numerator, Decimal.denominator] at read
  dsimp only at read
  rw [Nat.one_mul, Int.toNat_natCast, Int.toNat_of_nonpos (show -(k : Int) ≤ 0 by omega)] at read
  exact ⟨_, read.trans (ofRatio_whole onGrid (whole_bounded small)), rfl, rfl⟩

theorem ofInt_whole {n : Nat} (onGrid : OnGrid (n * twoTo unitExponent))
    (small : n ≤ twoTo 80) : ∃ x : Finite, ofInt n = .finite x ∧
      x.units = n * twoTo unitExponent ∧ x.negative = false :=
  ⟨_, (ofInt_natCast n).trans (ofRatio_whole onGrid (whole_bounded small)), rfl, rfl⟩

/-- Digits and an exponent that are both small are rounded once. -/
theorem scale_short {x : Finite} {digits : Nat} {exponent : Int}
    (whole : x.units = digits * twoTo unitExponent) (positive : x.negative = false)
    (near : exponent.natAbs ≤ 22) :
    scale 4 x exponent = ((Decimal.mk digits exponent).toBinary64 false).finite? := by
  obtain ⟨onGrid, small⟩ := tenTo_onGrid exponent.natAbs near
  obtain ⟨power, known, powerWhole, powerSign⟩ := ofDecimal_tenTo onGrid small
  rw [scale_near (by omega) known, Decimal.toBinary64_eq, Decimal.numerator, Decimal.denominator]
  by_cases up : 0 ≤ exponent
  · rw [if_pos up, Finite.mul_whole whole powerWhole positive powerSign,
      Int.toNat_of_nonpos (show -exponent ≤ 0 by omega),
      show exponent.toNat = exponent.natAbs by omega]
    rfl
  · rw [if_neg up, Finite.div_whole whole powerWhole positive powerSign (tenTo_pos _),
      Int.toNat_of_nonpos (show exponent ≤ 0 by omega),
      show (-exponent).toNat = exponent.natAbs by omega]
    exact congrArg (fun n => (ofRatio false n _).finite?) (Nat.mul_one digits).symm

/-- A decimal of few digits and with a small exponent is read exactly. -/
theorem readExactly_of_short {d : Decimal} {negative : Bool} (few : d.digits ≤ twoTo 53)
    (near : d.exponent.natAbs ≤ 22) : d.ReadExactly negative := by
  obtain ⟨whole, known, units, sign⟩ := ofInt_whole (onGrid_mul_twoTo _ unitExponent few)
    (few.trans (twoTo_le (by decide)))
  have scaled := scale_short units sign near
  rw [Decimal.ReadExactly, realOfParts?, known, Binary64.finite?, Option.bind_some, scaled,
    Decimal.toBinary64_eq, Decimal.toBinary64_eq, finite?_ofRatio negative]

/-- Elsewhere rounding more than once can show: `1e-24` is read as the number behind it. -/
example : ¬((ofDecimal false 1 (-24)).finite?.getD .zero).ReadExactly := by decide +kernel

end Json

end SchemaCheck
