import Mathlib.Algebra.Order.Field.Rat
import Mathlib.Data.Rat.Cast.Order
import SchemaCheck.Proofs.Number.Rounding

/-!
Rounding keeps the order (`roundToGrid_mono`) and the numbers of the format. So comparing the
number nearest to an integer with a number of the format is comparing the integer with it, except
that nothing is found where the integer is rounded to that number (`ofInt_lt`, `lt_ofInt`).
-/

namespace SchemaCheck

namespace Binary64

section Order

variable {num num' den units : Nat}

theorem twoTo_log2_le {n : Nat} (positive : 0 < n) : twoTo n.log2 ≤ n :=
  Nat.not_lt.mp fun less => Nat.lt_irrefl _ ((log2_lt_iff (Nat.ne_of_gt positive)).mpr less)

theorem lt_twoTo_log2 (n : Nat) : n < twoTo (n.log2 + 1) := by
  rcases Nat.eq_zero_or_pos n with rfl | positive
  · exact twoTo_pos _
  · exact (log2_lt_iff (Nat.ne_of_gt positive)).mp (Nat.lt_succ_self _)

theorem log2_le_log2 {m n : Nat} (ordered : m ≤ n) : m.log2 ≤ n.log2 := by
  rcases Nat.eq_zero_or_pos m with rfl | positive
  · exact Nat.zero_le _
  have below := Nat.lt_of_le_of_lt (ordered.trans' (twoTo_log2_le positive)) (lt_twoTo_log2 n)
  have less := (log2_lt_iff (Nat.ne_of_gt (twoTo_pos m.log2))).mpr below
  rw [log2_twoTo] at less
  exact Nat.le_of_lt_succ less

theorem roundHalfEven_mono (ordered : num ≤ num') :
    roundHalfEven num den ≤ roundHalfEven num' den := by
  rcases Nat.eq_or_lt_of_le (Nat.div_le_div_right (c := den) ordered) with same | less
  · have parts := Nat.div_add_mod num den
    have parts' := Nat.div_add_mod num' den
    unfold roundHalfEven
    rw [same] at parts ⊢
    have parity : num' / den % 2 < 2 := Nat.mod_lt _ (by decide)
    grind
  · exact ((roundHalfEven_le num den).trans less).trans (div_le_roundHalfEven num' den)

theorem roundToGrid_le_twoTo {k : Nat} (below : num / den < twoTo k) :
    roundToGrid num den ≤ twoTo k := by
  unfold roundToGrid
  dsimp only
  have finer : (num / den).log2 - 52 ≤ k := by
    have logs := log2_le_log2 (Nat.le_of_lt below)
    rw [log2_twoTo] at logs
    omega
  generalize (num / den).log2 - 52 = e at *
  have whole : twoTo k = twoTo (k - e) * twoTo e := by rw [← twoTo_add, Nat.sub_add_cancel finer]
  rw [whole] at below ⊢
  gcongr
  calc
    roundHalfEven num (den * twoTo e) ≤ num / (den * twoTo e) + 1 := roundHalfEven_le _ _
    _ = num / den / twoTo e + 1 := by rw [Nat.div_div_eq_div_mul]
    _ ≤ twoTo (k - e) := (Nat.div_lt_iff_lt_mul (twoTo_pos e)).mpr below

theorem roundToGrid_mono (ordered : num ≤ num') : roundToGrid num den ≤ roundToGrid num' den := by
  have quotients : num / den ≤ num' / den := Nat.div_le_div_right ordered
  rcases Nat.eq_or_lt_of_le (log2_le_log2 quotients) with same | shorter
  · unfold roundToGrid
    dsimp only
    rw [same]
    gcongr
    exact roundHalfEven_mono ordered
  -- A power of two lies between quotients of different sizes.
  · have filled : 0 < num' / den := by
      refine Nat.pos_of_ne_zero fun zero => ?_
      rw [zero] at shorter
      exact Nat.not_lt_zero _ shorter
    have positive : 0 < den := by
      refine Nat.pos_of_ne_zero fun zero => ?_
      rw [zero, Nat.div_zero] at filled
      exact Nat.lt_irrefl _ filled
    calc
      roundToGrid num den ≤ twoTo (num' / den).log2 := roundToGrid_le_twoTo
        (Nat.lt_of_lt_of_le (lt_twoTo_log2 _) (twoTo_le shorter))
      _ ≤ roundToGrid num' den := twoTo_le_roundToGrid positive
        ((Nat.le_div_iff_mul_le positive).mp (twoTo_log2_le filled))

theorem roundToGrid_whole (onGrid : OnGrid units) : roundToGrid units 1 = units := by
  rcases Nat.eq_zero_or_pos units with rfl | positive
  · exact roundToGrid_tiny (by decide)
  · refine roundToGrid_near onGrid ?_ ?_
    · rw [Nat.mul_one]
      exact Nat.mul_lt_mul_of_pos_right (Nat.lt_succ_self _) positive
    · rw [Nat.mul_one]
      omega

end Order

namespace Finite

def toRat (x : Finite) : ℚ := x.toUnits / twoTo unitExponent

theorem units_pos : (0 : ℚ) < twoTo unitExponent := by exact_mod_cast twoTo_pos unitExponent

theorem intCast_lt_toRat {n : Int} {x : Finite} :
    (n : ℚ) < x.toRat ↔ n * twoTo unitExponent < x.toUnits := by
  rw [toRat, lt_div_iff₀ units_pos]
  exact_mod_cast Iff.rfl

theorem toRat_lt_intCast {n : Int} {x : Finite} :
    x.toRat < n ↔ x.toUnits < n * twoTo unitExponent := by
  rw [toRat, div_lt_iff₀ units_pos]
  exact_mod_cast Iff.rfl

theorem natAbs_toUnits (x : Finite) : x.toUnits.natAbs = x.units := by
  unfold toUnits
  split <;> omega

/-- Other than the zeros, numbers of one value are the same. -/
theorem eq_of_toUnits {x y : Finite} (same : x.toUnits = y.toUnits) (nonzero : y.toUnits ≠ 0) :
    x = y := by
  obtain ⟨xSign, xUnits, _, _⟩ := x
  obtain ⟨ySign, yUnits, _, _⟩ := y
  unfold toUnits at same nonzero
  have both : xSign = ySign ∧ xUnits = yUnits := by
    cases xSign <;> cases ySign <;> simp at same nonzero ⊢ <;> omega
  obtain ⟨rfl, rfl⟩ := both
  rfl

theorem truncate_eq (x : Finite) : x.truncate = x.toUnits.tdiv (twoTo unitExponent) := by
  unfold truncate toUnits
  cases x.negative with
  | false => rfl
  | true =>
    simp only [if_true, Int.neg_tdiv]
    rfl

theorem truncate_integral (x : Finite) (whole : x.isIntegral = true) :
    (x.truncate : ℚ) = x.toRat := by
  have divides : (twoTo unitExponent : Int) ∣ x.toUnits := by
    have units := Nat.dvd_of_mod_eq_zero (beq_iff_eq.mp whole)
    rwa [← Int.natAbs_dvd_natAbs, x.natAbs_toUnits, Int.natAbs_natCast]
  obtain ⟨k, counted⟩ := divides
  have positive : (twoTo unitExponent : Int) ≠ 0 := by exact_mod_cast (twoTo_pos _).ne'
  rw [truncate_eq, toRat, counted, Int.mul_tdiv_cancel_left _ positive, Int.cast_mul,
    Int.cast_natCast, mul_div_cancel_left₀ _ units_pos.ne']

theorem truncate_of_toRat {x : Finite} {n : Int} (same : x.toRat = n) : x.truncate = n := by
  have positive : (twoTo unitExponent : Int) ≠ 0 := by exact_mod_cast (twoTo_pos _).ne'
  rw [toRat, div_eq_iff units_pos.ne'] at same
  have counted : x.toUnits = n * twoTo unitExponent := by exact_mod_cast same
  rw [truncate_eq, counted, Int.mul_tdiv_cancel _ positive]

theorem isIntegral_of_large {x : Finite} (large : twoTo 52 * twoTo unitExponent ≤ x.units) :
    x.isIntegral = true := by
  rw [← twoTo_add] at large
  have logs := log2_le_log2 large
  rw [log2_twoTo] at logs
  have divides := (twoTo_dvd (show unitExponent ≤ x.units.log2 - 52 by omega)).trans
    (Nat.dvd_of_mod_eq_zero x.onGrid)
  rw [isIntegral, beq_iff_eq]
  exact Nat.mod_eq_zero_of_dvd divides

end Finite

section Integers

theorem ofInt_natCast (n : Nat) : ofInt n = ofRatio false n 1 := by
  rw [ofInt, Int.natAbs_natCast, decide_eq_false (by omega)]

def nearestUnits (count : Int) : Int :=
  if count < 0 then -(roundToGrid count.natAbs 1 : Int) else roundToGrid count.natAbs 1

variable {count count' n : Int} {x y : Finite}

theorem nearestUnits_mono (ordered : count ≤ count') :
    nearestUnits count ≤ nearestUnits count' := by
  unfold nearestUnits
  by_cases negative : count < 0
  · rw [if_pos negative]
    by_cases also : count' < 0
    · rw [if_pos also]
      have kept : roundToGrid count'.natAbs 1 ≤ roundToGrid count.natAbs 1 :=
        roundToGrid_mono (by omega)
      omega
    · rw [if_neg also]
      omega
  · rw [if_neg negative, if_neg (by omega)]
    exact_mod_cast roundToGrid_mono (by omega)

theorem nearestUnits_exact (onGrid : OnGrid count.natAbs) : nearestUnits count = count := by
  unfold nearestUnits
  rw [roundToGrid_whole onGrid]
  split <;> omega

theorem nearestUnits_toUnits (x : Finite) : nearestUnits x.toUnits = x.toUnits :=
  nearestUnits_exact (x.natAbs_toUnits ▸ x.onGrid)

theorem natAbs_nearestUnits (count : Int) :
    (nearestUnits count).natAbs = roundToGrid count.natAbs 1 := by
  unfold nearestUnits
  split <;> omega

/-- One unit belongs to the format, so no count other than zero is rounded to zero. -/
theorem nearestUnits_ne_zero (nonzero : count ≠ 0) : nearestUnits count ≠ 0 := by
  rcases Int.lt_or_gt_of_ne nonzero with negative | positive
  · have unit : nearestUnits (-1) = -1 := nearestUnits_exact (by decide)
    have kept : nearestUnits count ≤ nearestUnits (-1) := nearestUnits_mono (by omega)
    omega
  · have unit : nearestUnits 1 = 1 := nearestUnits_exact (by decide)
    have kept : nearestUnits 1 ≤ nearestUnits count := nearestUnits_mono (by omega)
    omega

theorem toUnits_ofInt (nearest : ofInt n = .finite x) :
    x.toUnits = nearestUnits (n * twoTo unitExponent) := by
  have positive := Int.natCast_pos.mpr (twoTo_pos unitExponent)
  have sign : n * twoTo unitExponent < 0 ↔ n < 0 :=
    ⟨fun below => neg_of_mul_neg_left below positive.le,
      fun below => Int.mul_neg_of_neg_of_pos below positive⟩
  unfold ofInt ofRatio ofUnitRatio at nearest
  split at nearest
  · cases nearest
    simp only [Finite.toUnits, decide_eq_true_eq, nearestUnits, sign, Int.natAbs_mul,
      Int.natAbs_natCast]
  · cases nearest

theorem units_ofInt (nearest : ofInt n = .finite x) :
    x.units = roundToGrid (n.natAbs * twoTo unitExponent) 1 := by
  rw [← x.natAbs_toUnits, toUnits_ofInt nearest, natAbs_nearestUnits, Int.natAbs_mul,
    Int.natAbs_natCast]

theorem toRat_ofInt (nearest : ofInt n = .finite x) (short : n.natAbs ≤ twoTo 53) :
    x.toRat = n := by
  have onGrid : OnGrid (n * twoTo unitExponent).natAbs := by
    rw [Int.natAbs_mul, Int.natAbs_natCast]
    exact onGrid_mul_twoTo _ _ short
  rw [Finite.toRat, toUnits_ofInt nearest, nearestUnits_exact onGrid,
    div_eq_iff Finite.units_pos.ne']
  exact_mod_cast rfl

/-- Rounding does not carry an integer past a number of the format. -/
theorem nearestUnits_le (below : count ≤ y.toUnits) : nearestUnits count ≤ y.toUnits :=
  (nearestUnits_mono below).trans_eq (nearestUnits_toUnits y)

theorem le_nearestUnits (above : y.toUnits ≤ count) : y.toUnits ≤ nearestUnits count :=
  (nearestUnits_toUnits y).symm.trans_le (nearestUnits_mono above)

/-- An integer other than a number of the format is rounded to it if it has the units of it. The
zeros have the same units, but nothing else is rounded to them. -/
theorem eq_of_nearestUnits (rounded : x.toUnits = nearestUnits count) (apart : count ≠ y.toUnits)
    (same : x.toUnits = y.toUnits) : x = y := by
  refine Finite.eq_of_toUnits same fun zero => ?_
  have kept : nearestUnits count ≠ 0 := nearestUnits_ne_zero (by omega)
  omega

/-- An integer in the range of machine words is found below a number of the format when it is, and
is not rounded to it. -/
theorem ofInt_lt (small : n.natAbs ≤ twoTo 64) :
    (ofInt n).lt (.finite y) = true ↔ (n : ℚ) < y.toRat ∧ ofInt n ≠ .finite y := by
  obtain ⟨x, nearest⟩ := ofInt_finite small
  have rounded := toUnits_ofInt nearest
  rw [nearest, lt, Finite.lt, decide_eq_true_eq, Finite.intCast_lt_toRat, Ne, Binary64.finite.injEq]
  generalize n * twoTo unitExponent = count at *
  refine ⟨fun less => ⟨?_, fun same => ?_⟩, fun ⟨below, other⟩ => ?_⟩
  · refine Int.not_le.mp fun above => ?_
    have kept := le_nearestUnits above
    omega
  · rw [same] at less
    omega
  · have kept := nearestUnits_le below.le
    rw [← rounded] at kept
    exact lt_of_le_of_ne kept fun same => other (eq_of_nearestUnits rounded below.ne same)

theorem lt_ofInt (small : n.natAbs ≤ twoTo 64) :
    (Binary64.finite y).lt (ofInt n) = true ↔ y.toRat < n ∧ ofInt n ≠ .finite y := by
  obtain ⟨x, nearest⟩ := ofInt_finite small
  have rounded := toUnits_ofInt nearest
  rw [nearest, lt, Finite.lt, decide_eq_true_eq, Finite.toRat_lt_intCast, Ne, Binary64.finite.injEq]
  generalize n * twoTo unitExponent = count at *
  refine ⟨fun less => ⟨?_, fun same => ?_⟩, fun ⟨above, other⟩ => ?_⟩
  · refine Int.not_le.mp fun below => ?_
    have kept := nearestUnits_le below
    omega
  · rw [same] at less
    omega
  · have kept := le_nearestUnits above.le
    rw [← rounded] at kept
    exact lt_of_le_of_ne kept fun same => other (eq_of_nearestUnits rounded above.ne' same.symm)

theorem truncate_ofInt (nearest : ofInt n = .finite x) :
    x.truncate = (nearestUnits (n * twoTo unitExponent)).tdiv (twoTo unitExponent) := by
  rw [Finite.truncate_eq, toUnits_ofInt nearest]

end Integers

end Binary64

end SchemaCheck
