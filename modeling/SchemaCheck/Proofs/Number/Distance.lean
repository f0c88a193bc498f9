import Mathlib.Algebra.Order.Field.Basic
import SchemaCheck.Proofs.Number.Nearest

/-!
The number nearest to an integer. No number of the format is nearer to the integer than the one to
which it is rounded, and where another one is as near, the even significand is chosen
(`ofInt_nearest`).
-/

namespace SchemaCheck

namespace Binary64

def gap (a b : Int) : Nat := (a - b).natAbs

section Magnitudes

variable {num den units : Nat}

/-- Rounding goes at most half a unit far, and that far only to an even number. -/
theorem roundHalfEven_half (num : Nat) (positive : 0 < den) :
    2 * gap (roundHalfEven num den * den : Nat) num ≤ den ∧
      (2 * gap (roundHalfEven num den * den : Nat) num = den → roundHalfEven num den % 2 = 0) := by
  have parts : num / den * den + num % den = num := Nat.div_add_mod' num den
  have left : num % den < den := Nat.mod_lt num positive
  have next : (num / den + 1) * den = num / den * den + den := Nat.succ_mul _ _
  unfold gap roundHalfEven
  dsimp only
  split
  · omega
  · split
    · omega
    · rcases Nat.mod_two_eq_zero_or_one (num / den) with even | odd
      · rw [even, Nat.add_zero]
        omega
      · rw [odd]
        omega

/-- No other multiple is nearer, and another one is as near only where the chosen one is even. -/
theorem roundHalfEven_nearest (num : Nat) (positive : 0 < den) (m : Nat) :
    gap (roundHalfEven num den * den : Nat) num ≤ gap (m * den : Nat) num ∧
      (gap (roundHalfEven num den * den : Nat) num = gap (m * den : Nat) num →
        m = roundHalfEven num den ∨ roundHalfEven num den % 2 = 0) := by
  obtain ⟨half, tie⟩ := roundHalfEven_half num positive
  generalize roundHalfEven num den = k at *
  unfold gap at *
  rcases Nat.lt_trichotomy m k with less | rfl | more
  · have apart : (m + 1) * den ≤ k * den := Nat.mul_le_mul_right den less
    rw [Nat.succ_mul] at apart
    omega
  · exact ⟨Nat.le_refl _, fun _ => .inl rfl⟩
  · have apart : (k + 1) * den ≤ m * den := Nat.mul_le_mul_right den more
    rw [Nat.succ_mul] at apart
    omega

/-- The last of the 53 significant binary digits is zero. -/
def EvenSignificand (units : Nat) : Prop := 2 * twoTo (units.log2 - 52) ∣ units

theorem evenSignificand_mul {k e : Nat} (even : k % 2 = 0) (bound : k ≤ twoTo 53) :
    EvenSignificand (k * twoTo e) := by
  obtain ⟨half, rfl⟩ := Nat.dvd_of_mod_eq_zero even
  have whole : 2 * half * twoTo e = half * twoTo (e + 1) := by rw [twoTo_succ]; ring
  rw [EvenSignificand, ← twoTo_succ, whole]
  rcases Nat.eq_zero_or_pos (half * twoTo (e + 1)) with zero | positive
  · rw [zero]
    exact Nat.dvd_zero _
  rcases Nat.eq_or_lt_of_le bound with top | less
  · have power : half * twoTo (e + 1) = twoTo (53 + e) := by rw [← whole, top, twoTo_add]
    rw [power, log2_twoTo]
    exact twoTo_dvd (by omega)
  · have small : half * twoTo (e + 1) < twoTo (53 + e) := by
      rw [← whole, twoTo_add]
      exact Nat.mul_lt_mul_of_pos_right less (twoTo_pos e)
    have log := (log2_lt_iff (Nat.ne_of_gt positive)).mpr small
    exact (twoTo_dvd (by omega)).trans (Nat.dvd_mul_left _ _)

/-- No magnitude of the format is nearer to a number of units than the one to which it is rounded,
and another one is as near only where the significand is even. -/
theorem roundToGrid_nearest (q : Nat) (onGrid : OnGrid units) :
    gap (roundToGrid q 1) q ≤ gap units q ∧
      (gap (roundToGrid q 1) q = gap units q →
        units = roundToGrid q 1 ∨ EvenSignificand (roundToGrid q 1)) := by
  rcases Nat.eq_zero_or_pos q with rfl | filled
  · rw [roundToGrid_whole onGrid_zero]
    unfold gap
    omega
  have rounded : roundToGrid q 1 =
      roundHalfEven q (twoTo (q.log2 - 52)) * twoTo (q.log2 - 52) := by
    rw [roundToGrid, Nat.div_one, Nat.one_mul]
  have count : roundHalfEven q (twoTo (q.log2 - 52)) ≤ twoTo 53 :=
    (roundHalfEven_le _ _).trans
      ((Nat.div_lt_iff_lt_mul (twoTo_pos _)).mpr (spacing_bounds q).1)
  have nearest := fun m => roundHalfEven_nearest q (twoTo_pos (q.log2 - 52)) m
  rw [rounded]
  by_cases large : twoTo q.log2 ≤ units
  -- A magnitude that is as large as the number is a multiple of its spacing.
  · have logs := log2_le_log2 large
    rw [log2_twoTo] at logs
    have finer : twoTo (q.log2 - 52) ∣ units :=
      (twoTo_dvd (by omega)).trans (Nat.dvd_of_mod_eq_zero onGrid)
    obtain ⟨m, rfl⟩ := exists_eq_mul_left_of_dvd finer
    refine ⟨(nearest m).1, fun tie => ?_⟩
    rcases (nearest m).2 tie with rfl | even
    · exact .inl rfl
    · exact .inr (evenSignificand_mul even count)
  -- A smaller one is farther away than the power of two below the number.
  · obtain ⟨m, power⟩ := exists_eq_mul_left_of_dvd (twoTo_dvd (show q.log2 - 52 ≤ q.log2 by omega))
    have reached := twoTo_log2_le filled
    have closer := (nearest m).1
    rw [← power] at closer
    unfold gap at *
    omega

end Magnitudes

/-- Nor is a signed magnitude, those of the other sign being farther away than zero. -/
theorem nearestUnits_nearest (count : Int) (y : Finite) :
    gap (nearestUnits count) count ≤ gap y.toUnits count ∧
      (gap (nearestUnits count) count = gap y.toUnits count →
        y.toUnits = nearestUnits count ∨ EvenSignificand (nearestUnits count).natAbs) := by
  rcases eq_or_ne count 0 with rfl | nonzero
  · have exact : nearestUnits 0 = 0 := nearestUnits_exact onGrid_zero
    rw [exact]
    unfold gap
    omega
  obtain ⟨least, even⟩ := roundToGrid_nearest count.natAbs y.onGrid
  have magnitude := y.natAbs_toUnits
  have sides : count < 0 ∧ nearestUnits count = -roundToGrid count.natAbs 1 ∨
      0 < count ∧ nearestUnits count = roundToGrid count.natAbs 1 := by
    unfold nearestUnits
    split <;> omega
  rw [natAbs_nearestUnits]
  generalize size : count.natAbs = c at *
  generalize roundToGrid c 1 = r at *
  generalize nearestUnits count = signed at *
  unfold gap at *
  constructor
  · omega
  · intro tie
    rcases even (by omega) with equal | even
    · left
      omega
    · exact .inr even

/-- No number of the format is nearer to `q`, and where another one is as near, the significand is
even. -/
structure Finite.Nearest (x : Finite) (q : ℚ) : Prop where
  least : ∀ y : Finite, |x.toRat - q| ≤ |y.toRat - q|
  even : ∀ y : Finite, |x.toRat - q| = |y.toRat - q| → y.toRat = x.toRat ∨ EvenSignificand x.units

theorem Finite.nearest_self (x : Finite) : x.Nearest x.toRat where
  least y := by
    rw [sub_self, abs_zero]
    exact abs_nonneg _
  even y same := by
    rw [sub_self, abs_zero] at same
    exact .inl (sub_eq_zero.mp (abs_eq_zero.mp same.symm))

theorem Finite.distance_eq (x : Finite) (n : Int) :
    |x.toRat - n| = gap x.toUnits (n * twoTo unitExponent) / twoTo unitExponent := by
  have positive := units_pos
  have apart : x.toRat - n =
      ((x.toUnits - n * twoTo unitExponent : Int) : ℚ) / twoTo unitExponent := by
    rw [toRat, Int.cast_sub, Int.cast_mul, Int.cast_natCast, sub_div,
      mul_div_cancel_right₀ _ positive.ne']
  rw [apart, abs_div, abs_of_pos positive, gap, Nat.cast_natAbs, Int.cast_abs]

theorem ofInt_nearest {n : Int} {x : Finite} (rounded : ofInt n = .finite x) : x.Nearest n := by
  have units := toUnits_ofInt rounded
  have nearest (y : Finite) := nearestUnits_nearest (n * twoTo unitExponent) y
  rw [← units] at nearest
  constructor
  · intro y
    rw [Finite.distance_eq, Finite.distance_eq]
    exact div_le_div_of_nonneg_right (by exact_mod_cast (nearest y).1) Finite.units_pos.le
  · intro y same
    rw [Finite.distance_eq, Finite.distance_eq, div_left_inj' Finite.units_pos.ne'] at same
    rcases (nearest y).2 (by exact_mod_cast same) with equal | even
    · exact .inl (by rw [Finite.toRat, Finite.toRat, equal])
    · exact .inr (x.natAbs_toUnits ▸ even)

end Binary64

end SchemaCheck
