import SchemaCheck.Number.Power

/-!
Binary64 numbers, exactly. A finite number is a sign and a magnitude that counts units of
`2 ^ -1074`, the least positive number of the format, so that comparing numbers is comparing
integers. A magnitude belongs to the format when at most 53 of its binary digits are significant.

Rounding a ratio gives a magnitude of the format (`onGrid_roundToGrid`); the arithmetic below is
exact arithmetic followed by one rounding, to nearest with ties to even.
-/

namespace SchemaCheck

namespace Binary64

/-- The binary exponent of the unit in which magnitudes are counted, without its sign. -/
def unitExponent : Nat := 1074

/-- Magnitudes of the format have at most this many binary digits: they lie below `2 ^ 1024`. -/
def digitBound : Nat := 2098

/-- At most the leading 53 binary digits of the magnitude differ from zero. -/
def OnGrid (units : Nat) : Prop := units % twoTo (units.log2 - 52) = 0

instance (units : Nat) : Decidable (OnGrid units) := inferInstanceAs (Decidable (_ = _))

theorem onGrid_zero : OnGrid 0 := by decide

theorem onGrid_mul_twoTo (n j : Nat) (h : n ≤ twoTo 53) : OnGrid (n * twoTo j) := by
  unfold OnGrid
  by_cases zero : n = 0
  · simp [zero]
  have units_ne : n * twoTo j ≠ 0 := Nat.mul_ne_zero zero (Nat.ne_of_gt (twoTo_pos j))
  by_cases top : n = twoTo 53
  · subst top
    rw [← twoTo_add, log2_twoTo]
    exact Nat.mod_eq_zero_of_dvd (twoTo_dvd (by omega))
  · have small : n < twoTo 53 := by omega
    have below : n * twoTo j < twoTo (53 + j) := by
      rw [twoTo_add]
      exact (Nat.mul_lt_mul_right (twoTo_pos j)).mpr small
    have log : (n * twoTo j).log2 < 53 + j := (log2_lt_iff units_ne).mpr below
    have divides : twoTo ((n * twoTo j).log2 - 52) ∣ n * twoTo j :=
      Nat.dvd_trans (twoTo_dvd (by omega)) (Nat.dvd_mul_left _ _)
    exact Nat.mod_eq_zero_of_dvd divides

/-- The integer nearest to `num / den`; of two that are equally near, the even one. -/
def roundHalfEven (num den : Nat) : Nat :=
  let quotient := num / den
  let twice := 2 * (num % den)
  if twice < den then quotient
  else if den < twice then quotient + 1
  else quotient + quotient % 2

theorem roundHalfEven_le (num den : Nat) : roundHalfEven num den ≤ num / den + 1 := by
  unfold roundHalfEven
  have parity : num / den % 2 < 2 := Nat.mod_lt _ (by decide)
  grind

/-- The magnitude of the format nearest to `num / den` units, whatever its size. -/
def roundToGrid (num den : Nat) : Nat :=
  let spacing := twoTo ((num / den).log2 - 52)
  roundHalfEven num (den * spacing) * spacing

theorem onGrid_roundToGrid (num den : Nat) : OnGrid (roundToGrid num den) := by
  unfold roundToGrid
  refine onGrid_mul_twoTo _ _ (Nat.le_trans (roundHalfEven_le _ _) ?_)
  rw [← Nat.div_div_eq_div_mul]
  generalize num / den = q
  suffices q / twoTo (q.log2 - 52) < twoTo 53 by omega
  rw [Nat.div_lt_iff_lt_mul (twoTo_pos _), ← twoTo_add]
  by_cases zero : q = 0
  · subst zero; decide
  · exact (log2_lt_iff zero).mp (by omega)

structure Finite where
  negative : Bool
  units : Nat
  onGrid : OnGrid units := by decide
  bounded : units.log2 < digitBound := by decide
deriving DecidableEq

end Binary64

inductive Binary64 where
  | finite (x : Binary64.Finite)
  | infinite (negative : Bool)
  | nan
deriving DecidableEq

namespace Binary64

namespace Finite

def toUnits (x : Finite) : Int := if x.negative then -(x.units : Int) else x.units

def signedZero (negative : Bool) : Finite := { negative, units := 0 }

def zero : Finite := signedZero false

def neg (x : Finite) : Finite := { x with negative := !x.negative }

def isZero (x : Finite) : Bool := x.units == 0

def lt (x y : Finite) : Bool := decide (x.toUnits < y.toUnits)

/-- Equality of values: the two zeros are equal. -/
def sameValue (x y : Finite) : Bool := x.toUnits == y.toUnits

def isIntegral (x : Finite) : Bool := x.units % twoTo unitExponent == 0

def truncate (x : Finite) : Int :=
  let whole := x.units / twoTo unitExponent
  if x.negative then -(whole : Int) else whole

end Finite

def ofUnitRatio (negative : Bool) (num den : Nat) : Binary64 :=
  if h : (roundToGrid num den).log2 < digitBound then
    .finite
      { negative
        units := roundToGrid num den
        onGrid := onGrid_roundToGrid num den
        bounded := h }
  else .infinite negative

def ofRatio (negative : Bool) (num den : Nat) : Binary64 :=
  ofUnitRatio negative (num * twoTo unitExponent) den

def ofInt (n : Int) : Binary64 := ofRatio (decide (n < 0)) n.natAbs 1

def neg : Binary64 → Binary64
  | .finite x => .finite x.neg
  | .infinite negative => .infinite (!negative)
  | .nan => .nan

def lt : Binary64 → Binary64 → Bool
  | .finite x, .finite y => x.lt y
  | .finite _, .infinite negative => !negative
  | .infinite negative, .finite _ => negative
  | .infinite negative, .infinite negative' => negative && !negative'
  | .nan, _ => false
  | _, .nan => false

/-- Equality of values: the zeros are equal, and what is not a number equals nothing. -/
def sameValue : Binary64 → Binary64 → Bool
  | .finite x, .finite y => x.sameValue y
  | .infinite negative, .infinite negative' => negative == negative'
  | _, _ => false

def finite? : Binary64 → Option Finite
  | .finite x => some x
  | _ => none

/-- The nearest number to `10 ^ exponent` times an integer, for any exponent. The digit count
settles the sizes that are certainly too large or certainly zero, so no huge power is formed. -/
def ofDecimal (negative : Bool) (digits : Nat) (exponent : Int) : Binary64 :=
  if digits = 0 then .finite (.signedZero negative)
  else
    let lead : Int := (digits.log2 : Int) * 3 / 10 + exponent
    if 400 < lead then .infinite negative
    else
      let tail : Int := (digits.log2 : Int) / 3 + 1 + exponent
      if tail < -400 then .finite (.signedZero negative)
      else if 0 ≤ exponent then ofRatio negative (digits * tenTo exponent.toNat) 1
      else ofRatio negative digits (tenTo (-exponent).toNat)

end Binary64

end SchemaCheck
