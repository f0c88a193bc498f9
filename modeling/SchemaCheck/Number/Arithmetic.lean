import SchemaCheck.Number.Binary64

/-!
Products and quotients of binary64 numbers: the exact result, rounded once.
-/

namespace SchemaCheck.Binary64

/-- The product; magnitudes multiply as counts of units of units. -/
def Finite.mul (x y : Finite) : Binary64 :=
  ofUnitRatio (x.negative != y.negative) (x.units * y.units) (twoTo unitExponent)

/-- The quotient; one by zero is infinite, or no number when both are zero. -/
def Finite.div (x y : Finite) : Binary64 :=
  if y.isZero then if x.isZero then .nan else .infinite (x.negative != y.negative)
  else ofUnitRatio (x.negative != y.negative) (x.units * twoTo unitExponent) y.units

end SchemaCheck.Binary64
