import Mathlib.Tactic.GCongr
import Mathlib.Tactic.Linarith
import Mathlib.Tactic.Ring
import SchemaCheck.Number.Decimal

/-!
Rounding to the format. It depends on the ratio only, it gives back a magnitude of the format from
every ratio close enough to it (`roundToGrid_near`), and the early answers for a decimal are those
that rounding would give (`toBinary64_eq`).
-/

namespace SchemaCheck

theorem twoTo_succ (k : Nat) : twoTo (k + 1) = 2 * twoTo k :=
  (twoTo_add k 1).trans (Nat.mul_comm _ _)

theorem twoTo_le {j k : Nat} (ordered : j ≤ k) : twoTo j ≤ twoTo k :=
  Nat.pow_le_pow_right (by decide) ordered

theorem tenTo_pos (k : Nat) : 0 < tenTo k := Nat.pow_pos (by decide)

theorem tenTo_add (j k : Nat) : tenTo (j + k) = tenTo j * tenTo k := Nat.pow_add 10 j k

theorem tenTo_succ (k : Nat) : tenTo (k + 1) = 10 * tenTo k :=
  (tenTo_add k 1).trans (Nat.mul_comm _ _)

theorem tenTo_le {j k : Nat} (ordered : j ≤ k) : tenTo j ≤ tenTo k :=
  Nat.pow_le_pow_right (by decide) ordered

namespace Binary64

section Nearest

/-- A ratio that is less than a half away from an integer rounds to it. -/
theorem roundHalfEven_near {num den m : Nat} (below : 2 * num < (2 * m + 1) * den)
    (above : 2 * m * den < 2 * num + den) : roundHalfEven num den = m := by
  have positive : 0 < den := by
    rcases Nat.eq_zero_or_pos den with rfl | positive
    · omega
    · exact positive
  have parts : den * (num / den) + num % den = num := Nat.div_add_mod num den
  have left : num % den < den := Nat.mod_lt num positive
  unfold roundHalfEven
  generalize num / den = q, num % den = r at *
  rcases Nat.lt_trichotomy q m with less | same | more
  · have bound : den * (q + 1) ≤ den * m := Nat.mul_le_mul_left den less
    have up : den < 2 * r := by nlinarith
    have next : m ≤ q + 1 := by
      by_contra far
      have : den * (q + 2) ≤ den * m := Nat.mul_le_mul_left den (Nat.lt_of_not_le far)
      nlinarith
    simp only [if_neg (Nat.lt_asymm up), if_pos up]
    omega
  · subst same
    have down : 2 * r < den := by nlinarith
    simp only [if_pos down]
  · have bound : den * (m + 1) ≤ den * q := Nat.mul_le_mul_left den more
    nlinarith

theorem roundHalfEven_scale (num den : Nat) {c : Nat} (positive : 0 < c) :
    roundHalfEven (num * c) (den * c) = roundHalfEven num den := by
  unfold roundHalfEven
  rw [Nat.mul_div_mul_right _ _ positive, Nat.mul_mod_mul_right, ← Nat.mul_assoc]
  simp only [Nat.mul_lt_mul_right positive]

theorem roundToGrid_scale (num den : Nat) {c : Nat} (positive : 0 < c) :
    roundToGrid (num * c) (den * c) = roundToGrid num den := by
  unfold roundToGrid
  simp only [Nat.mul_div_mul_right _ _ positive, Nat.mul_right_comm den c,
    roundHalfEven_scale _ _ positive]

/-- A magnitude of the format is a multiple of a power of two by a number of 53 binary digits. -/
theorem OnGrid.factors {units : Nat} (onGrid : OnGrid units) :
    ∃ m k, units = m * twoTo k ∧ m < twoTo 53 := by
  refine ⟨units / twoTo (units.log2 - 52), units.log2 - 52,
    (Nat.div_mul_cancel (Nat.dvd_of_mod_eq_zero onGrid)).symm, ?_⟩
  rw [Nat.div_lt_iff_lt_mul (twoTo_pos _), ← twoTo_add]
  by_cases zero : units = 0
  · rw [zero]
    exact twoTo_pos _
  · exact (log2_lt_iff zero).mp (by omega)

/-- Where the grid has a spacing of more than one, 53 binary digits count spacings. -/
theorem spacing_bounds (q : Nat) :
    q < twoTo 53 * twoTo (q.log2 - 52) ∧
      (q.log2 - 52 = 0 ∨ twoTo 52 * twoTo (q.log2 - 52) ≤ q) := by
  by_cases zero : q = 0
  · subst zero
    decide
  rw [← twoTo_add, ← twoTo_add]
  refine ⟨(log2_lt_iff zero).mp (by omega), ?_⟩
  rcases Nat.le_total q.log2 52 with small | large
  · exact .inl (by omega)
  · refine .inr (Nat.not_lt.mp fun less => ?_)
    have := (log2_lt_iff zero).mpr less
    omega

theorem twoTo_values :
    twoTo 52 = 4503599627370496 ∧ twoTo 53 = 9007199254740992 ∧
      twoTo 54 = 18014398509481984 := by decide

/-- Where a ratio is close to a magnitude, its grid is not coarser than that of the magnitude. -/
theorem spacing_le_of_near {num den q m k e : Nat} (small : m < twoTo 53)
    (below : twoTo 54 * num < (twoTo 54 + 1) * (m * twoTo k * den)) (lower : q * den ≤ num)
    (coarse : e = 0 ∨ twoTo 52 * twoTo e ≤ q) : e ≤ k := by
  by_contra coarser
  have step : 2 * twoTo k ≤ twoTo e := twoTo_succ k ▸ twoTo_le (Nat.lt_of_not_le coarser)
  have large : twoTo 52 * twoTo e ≤ q := coarse.resolve_left (by omega)
  have reach : twoTo 52 * (2 * (twoTo k * den)) ≤ num :=
    calc
      twoTo 52 * (2 * (twoTo k * den)) = twoTo 52 * (2 * twoTo k) * den := by ring
      _ ≤ twoTo 52 * twoTo e * den := by gcongr
      _ ≤ q * den := by gcongr
      _ ≤ num := lower
  have most : m * (twoTo k * den) ≤ (twoTo 53 - 1) * (twoTo k * den) :=
    Nat.mul_le_mul_right _ (by omega)
  obtain ⟨two52, two53, two54⟩ := twoTo_values
  rw [two54, Nat.mul_assoc m] at below
  rw [two52] at reach
  rw [two53] at most
  generalize twoTo k * den = d at *
  omega

theorem count_le_of_near {num d m j : Nat} (small : m < twoTo 53)
    (above : twoTo 54 * (m * twoTo j * d) < twoTo 54 * num + m * twoTo j * d)
    (reach : num < twoTo 53 * d) : m * twoTo j ≤ twoTo 53 := by
  by_contra many
  obtain ⟨_, two53, two54⟩ := twoTo_values
  -- What is not a single spacing wide is even, so that it lies two above the power of two.
  have far : twoTo 53 + 2 ≤ m * twoTo j := by
    cases j with
    | zero =>
      rw [show twoTo 0 = 1 from rfl, Nat.mul_one] at many
      omega
    | succ g =>
      have even : m * twoTo (g + 1) = 2 * (m * twoTo g) := by
        rw [twoTo_succ, Nat.mul_left_comm]
      omega
  have least : (twoTo 53 + 2) * d ≤ m * twoTo j * d := Nat.mul_le_mul_right _ far
  rw [two54] at above
  rw [two53] at reach least
  generalize m * twoTo j * d = u at *
  omega

/-- A ratio that differs from a magnitude of the format by less than one part in `2 ^ 54` rounds to
it. -/
theorem roundToGrid_near {num den units : Nat} (onGrid : OnGrid units)
    (below : twoTo 54 * num < (twoTo 54 + 1) * (units * den))
    (above : twoTo 54 * (units * den) < twoTo 54 * num + units * den) :
    roundToGrid num den = units := by
  obtain ⟨m, k, rfl, small⟩ := onGrid.factors
  obtain ⟨fits, coarse⟩ := spacing_bounds (num / den)
  have positive : 0 < den := by
    rcases Nat.eq_zero_or_pos den with rfl | positive
    · omega
    · exact positive
  have upper : num < (num / den + 1) * den := by
    rw [← Nat.div_lt_iff_lt_mul positive]
    exact Nat.lt_succ_self _
  have finer := spacing_le_of_near small below (Nat.div_mul_le_self num den) coarse
  unfold roundToGrid
  dsimp only
  generalize (num / den).log2 - 52 = e at *
  generalize num / den = q at *
  have split : m * twoTo k = m * twoTo (k - e) * twoTo e := by
    rw [Nat.mul_assoc, ← twoTo_add, Nat.sub_add_cancel finer]
  rw [split] at below above ⊢
  rw [Nat.mul_assoc _ _ den, Nat.mul_comm (twoTo e)] at below above
  have reach : num < twoTo 53 * (den * twoTo e) :=
    calc
      num < (q + 1) * den := upper
      _ ≤ twoTo 53 * twoTo e * den := by gcongr; exact fits
      _ = twoTo 53 * (den * twoTo e) := by rw [Nat.mul_assoc, Nat.mul_comm den]
  have count := count_le_of_near small above reach
  congr 1
  generalize m * twoTo (k - e) = c at *
  have least : c * (den * twoTo e) ≤ twoTo 53 * (den * twoTo e) := Nat.mul_le_mul_right _ count
  have spacing : 0 < den * twoTo e := Nat.mul_pos positive (twoTo_pos e)
  obtain ⟨_, two53, two54⟩ := twoTo_values
  rw [two54] at below above
  rw [two53] at least
  generalize den * twoTo e = d at *
  refine roundHalfEven_near ?_ ?_
  · rw [Nat.add_mul, Nat.mul_assoc]
    omega
  · rw [Nat.mul_assoc]
    omega

end Nearest

section Extremes

theorem div_le_roundHalfEven (num den : Nat) : num / den ≤ roundHalfEven num den := by
  unfold roundHalfEven
  grind

theorem twoTo_le_roundToGrid {num den k : Nat} (positive : 0 < den)
    (large : twoTo k * den ≤ num) : twoTo k ≤ roundToGrid num den := by
  have reached : twoTo k ≤ num / den := (Nat.le_div_iff_mul_le positive).mpr large
  have filled : num / den ≠ 0 := Nat.ne_of_gt (Nat.lt_of_lt_of_le (twoTo_pos k) reached)
  have log : k ≤ (num / den).log2 := Nat.not_lt.mp fun less =>
    Nat.not_lt.mpr reached ((log2_lt_iff filled).mp less)
  have top : twoTo (num / den).log2 ≤ num / den := Nat.not_lt.mp fun less =>
    Nat.lt_irrefl _ ((log2_lt_iff filled).mpr less)
  unfold roundToGrid
  dsimp only
  generalize exponent : (num / den).log2 - 52 = e
  obtain ⟨rest, whole⟩ := twoTo_dvd (show e ≤ (num / den).log2 by omega)
  have counted : rest ≤ num / (den * twoTo e) := by
    rw [← Nat.div_div_eq_div_mul, Nat.le_div_iff_mul_le (twoTo_pos e), Nat.mul_comm, ← whole]
    exact top
  calc
    twoTo k ≤ twoTo (num / den).log2 := twoTo_le log
    _ = rest * twoTo e := by rw [whole, Nat.mul_comm]
    _ ≤ roundHalfEven num (den * twoTo e) * twoTo e := by
      gcongr
      exact counted.trans (div_le_roundHalfEven _ _)

theorem roundToGrid_tiny {num den : Nat} (tiny : 2 * num < den) : roundToGrid num den = 0 := by
  unfold roundToGrid
  rw [Nat.div_eq_of_lt (by omega)]
  have down : roundHalfEven num (den * 1) = 0 := roundHalfEven_near (by omega) (by omega)
  exact congrArg (· * 1) down

theorem roundToGrid_le (units : Nat) : roundToGrid units 1 ≤ 2 * units := by
  rcases Nat.eq_zero_or_pos units with rfl | positive
  · decide
  have top : twoTo units.log2 ≤ units := Nat.not_lt.mp fun less =>
    Nat.lt_irrefl _ ((log2_lt_iff (Nat.ne_of_gt positive)).mpr less)
  have spacing : twoTo (units.log2 - 52) ≤ units := (twoTo_le (Nat.sub_le _ _)).trans top
  simp only [roundToGrid, Nat.div_one, Nat.one_mul]
  calc
    roundHalfEven units (twoTo (units.log2 - 52)) * twoTo (units.log2 - 52)
      ≤ (units / twoTo (units.log2 - 52) + 1) * twoTo (units.log2 - 52) :=
        Nat.mul_le_mul_right _ (roundHalfEven_le _ _)
    _ = units / twoTo (units.log2 - 52) * twoTo (units.log2 - 52) + twoTo (units.log2 - 52) :=
        Nat.succ_mul _ _
    _ ≤ units + units := Nat.add_le_add (Nat.div_mul_le_self _ _) spacing
    _ = 2 * units := (Nat.two_mul units).symm

variable (negative : Bool)

theorem ofUnitRatio_huge {num den : Nat} (positive : 0 < den)
    (huge : twoTo digitBound * den ≤ num) : ofUnitRatio negative num den = .infinite negative := by
  have reached := twoTo_le_roundToGrid positive huge
  rw [ofUnitRatio, dif_neg]
  rw [log2_lt_iff (Nat.ne_of_gt (Nat.lt_of_lt_of_le (twoTo_pos _) reached))]
  exact Nat.not_lt.mpr reached

theorem ofUnitRatio_eq {num den units : Nat} (rounded : roundToGrid num den = units)
    (onGrid : OnGrid units) (bounded : units.log2 < digitBound) :
    ofUnitRatio negative num den = .finite { negative, units, onGrid, bounded } := by
  subst rounded
  rw [ofUnitRatio, dif_pos bounded]

theorem ofUnitRatio_scale (num den : Nat) {c : Nat} (positive : 0 < c) :
    ofUnitRatio negative (num * c) (den * c) = ofUnitRatio negative num den := by
  unfold ofUnitRatio
  simp only [roundToGrid_scale num den positive]

theorem ofRatio_scale (num den : Nat) {c : Nat} (positive : 0 < c) :
    ofRatio negative (num * c) (den * c) = ofRatio negative num den := by
  rw [ofRatio, Nat.mul_right_comm, ofUnitRatio_scale negative _ _ positive, ofRatio]

theorem ofInt_finite {n : Int} (small : n.natAbs ≤ twoTo 64) : ∃ x, ofInt n = .finite x := by
  have bounded : (roundToGrid (n.natAbs * twoTo unitExponent) 1).log2 < digitBound := by
    rcases Nat.eq_zero_or_pos (roundToGrid (n.natAbs * twoTo unitExponent) 1) with zero | positive
    · rw [zero]
      decide
    rw [log2_lt_iff (Nat.ne_of_gt positive)]
    calc
      roundToGrid (n.natAbs * twoTo unitExponent) 1 ≤ 2 * (n.natAbs * twoTo unitExponent) :=
        roundToGrid_le _
      _ ≤ 2 * (twoTo 64 * twoTo unitExponent) := by gcongr
      _ < twoTo digitBound := by decide +kernel
  exact ⟨_, ofUnitRatio_eq _ rfl (onGrid_roundToGrid _ _) bounded⟩

end Extremes

end Binary64

section Sizes

theorem tenTo_le_twoTo {j k : Nat} (ordered : 10 * j ≤ 3 * k) : tenTo j ≤ twoTo k := by
  have powers : (tenTo j) ^ 10 ≤ (twoTo k) ^ 10 :=
    calc
      (tenTo j) ^ 10 = tenTo (j * 10) := (Nat.pow_mul 10 j 10).symm
      _ ≤ tenTo (3 * k) := tenTo_le (by omega)
      _ = 1000 ^ k := Nat.pow_mul 10 3 k
      _ ≤ 1024 ^ k := Nat.pow_le_pow_left (by decide) k
      _ = twoTo (10 * k) := (Nat.pow_mul 2 10 k).symm
      _ = (twoTo k) ^ 10 := by rw [Nat.mul_comm]; exact Nat.pow_mul 2 k 10
  exact (Nat.pow_le_pow_iff_left (by decide)).mp powers

theorem twoTo_le_tenTo (k : Nat) : twoTo (3 * k) ≤ tenTo k :=
  (Nat.pow_mul 2 3 k).trans_le (Nat.pow_le_pow_left (by decide) k)

end Sizes

namespace Decimal

open Binary64

/-- The number is `numerator / denominator`. -/
def numerator (d : Decimal) : Nat := d.digits * tenTo d.exponent.toNat

def denominator (d : Decimal) : Nat := tenTo (-d.exponent).toNat

theorem denominator_pos (d : Decimal) : 0 < d.denominator := tenTo_pos _

theorem tenTo_values :
    twoTo (digitBound - unitExponent) ≤ tenTo 400 ∧ 2 * twoTo unitExponent ≤ tenTo 400 := by
  decide +kernel

/-- Digits that start far in front of the point make a number too large for the format. -/
theorem numerator_huge {d : Decimal} (filled : d.digits ≠ 0)
    (huge : 400 < (d.digits.log2 : Int) * 3 / 10 + d.exponent) :
    tenTo 401 * d.denominator ≤ d.numerator := by
  have leading : tenTo (d.digits.log2 * 3 / 10) ≤ d.digits :=
    calc
      tenTo (d.digits.log2 * 3 / 10) ≤ twoTo d.digits.log2 := tenTo_le_twoTo (by omega)
      _ ≤ d.digits := Nat.not_lt.mp fun less =>
        Nat.lt_irrefl _ ((log2_lt_iff filled).mpr less)
  calc
    tenTo 401 * d.denominator = tenTo (401 + (-d.exponent).toNat) := (tenTo_add _ _).symm
    _ ≤ tenTo (d.digits.log2 * 3 / 10 + d.exponent.toNat) := tenTo_le (by omega)
    _ = tenTo (d.digits.log2 * 3 / 10) * tenTo d.exponent.toNat := tenTo_add _ _
    _ ≤ d.numerator := Nat.mul_le_mul_right _ leading

theorem numerator_tiny {d : Decimal} (filled : d.digits ≠ 0)
    (tiny : (d.digits.log2 : Int) / 3 + 1 + d.exponent < -400) :
    d.numerator * tenTo 401 < d.denominator := by
  have leading : d.digits < tenTo (d.digits.log2 / 3 + 1) :=
    calc
      d.digits < twoTo (3 * (d.digits.log2 / 3 + 1)) := (log2_lt_iff filled).mp (by omega)
      _ ≤ tenTo (d.digits.log2 / 3 + 1) := twoTo_le_tenTo _
  calc
    d.numerator * tenTo 401 = d.digits * tenTo (d.exponent.toNat + 401) := by
      rw [numerator, Nat.mul_assoc, ← tenTo_add]
    _ < tenTo (d.digits.log2 / 3 + 1) * tenTo (d.exponent.toNat + 401) :=
      Nat.mul_lt_mul_of_pos_right leading (tenTo_pos _)
    _ = tenTo (d.digits.log2 / 3 + 1 + (d.exponent.toNat + 401)) := (tenTo_add _ _).symm
    _ ≤ d.denominator := tenTo_le (by omega)

variable (negative : Bool)

theorem ofRatio_zero (den : Nat) (positive : 0 < den) :
    ofRatio negative 0 den = .finite (.signedZero negative) :=
  ofUnitRatio_eq negative (roundToGrid_tiny (by omega)) onGrid_zero (by decide)

theorem ofRatio_huge {num den : Nat} (positive : 0 < den) (huge : tenTo 400 * den ≤ num) :
    ofRatio negative num den = .infinite negative := by
  refine ofUnitRatio_huge negative positive ?_
  calc
    twoTo digitBound * den = twoTo (digitBound - unitExponent) * den * twoTo unitExponent := by
      rw [Nat.mul_right_comm, ← twoTo_add]
      rfl
    _ ≤ tenTo 400 * den * twoTo unitExponent := by gcongr; exact tenTo_values.1
    _ ≤ num * twoTo unitExponent := by gcongr

theorem ofRatio_tiny {num den : Nat} (tiny : num * tenTo 400 < den) :
    ofRatio negative num den = .finite (.signedZero negative) := by
  have rounded : roundToGrid (num * twoTo unitExponent) den = 0 := by
    refine roundToGrid_tiny (Nat.lt_of_le_of_lt ?_ tiny)
    rw [Nat.mul_left_comm]
    exact Nat.mul_le_mul_left _ tenTo_values.2
  exact ofUnitRatio_eq negative rounded onGrid_zero (by decide)

/-- A decimal is read as the nearest number, also where the size of its digits gives the answer. -/
theorem toBinary64_eq (d : Decimal) :
    d.toBinary64 negative = ofRatio negative d.numerator d.denominator := by
  have positive := d.denominator_pos
  unfold toBinary64 ofDecimal
  by_cases zero : d.digits = 0
  · rw [if_pos zero, numerator, zero, Nat.zero_mul, ofRatio_zero negative _ positive]
  rw [if_neg zero]
  dsimp only
  have powers : tenTo 400 ≤ tenTo 401 := tenTo_le (by decide)
  by_cases huge : 400 < (d.digits.log2 : Int) * 3 / 10 + d.exponent
  · rw [if_pos huge, ofRatio_huge negative positive]
    exact (Nat.mul_le_mul_right _ powers).trans (numerator_huge zero huge)
  rw [if_neg huge]
  by_cases tiny : (d.digits.log2 : Int) / 3 + 1 + d.exponent < -400
  · rw [if_pos tiny, ofRatio_tiny negative]
    exact Nat.lt_of_le_of_lt (Nat.mul_le_mul_left _ powers) (numerator_tiny zero tiny)
  rw [if_neg tiny]
  unfold numerator denominator
  by_cases whole : 0 ≤ d.exponent
  · rw [if_pos whole, Int.toNat_of_nonpos (show -d.exponent ≤ 0 by omega)]
    rfl
  · rw [if_neg whole, Int.toNat_of_nonpos (show d.exponent ≤ 0 by omega)]
    exact congrArg (ofRatio negative · _) (Nat.mul_one _).symm

theorem toBinary64_congr {d other : Decimal}
    (same : d.numerator * other.denominator = other.numerator * d.denominator) :
    d.toBinary64 negative = other.toBinary64 negative := by
  rw [toBinary64_eq, toBinary64_eq, ← ofRatio_scale negative _ _ other.denominator_pos, same,
    Nat.mul_comm d.denominator, ofRatio_scale negative _ _ d.denominator_pos]

theorem toBinary64_shift (digits zeros : Nat) (exponent : Int) :
    (Decimal.mk (digits * tenTo zeros) (exponent - zeros)).toBinary64 negative =
      (Decimal.mk digits exponent).toBinary64 negative := by
  refine toBinary64_congr negative ?_
  simp only [numerator, denominator, Nat.mul_assoc, ← tenTo_add]
  congr 2
  omega

end Decimal

end SchemaCheck
