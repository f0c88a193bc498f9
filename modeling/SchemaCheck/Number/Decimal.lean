import SchemaCheck.Number.Binary64
import SchemaCheck.Text.Digits

/-!
Decimal text of binary64 numbers. Writing takes the fewest digits that read back as the same
number (`Finite.shortest`) and lays them out as a `Layout` says; reading rounds the written
decimal to the nearest number of the format.
-/

namespace SchemaCheck

structure Decimal where
  digits : Nat
  exponent : Int
deriving DecidableEq

/-- Which of the two decimals around a number is taken when they are equally near to it: the one
with an even last digit, or the greater one. -/
inductive Decimal.Tie where
  | even
  | up

namespace Decimal

def Tie.takesLower (lower : Nat) : Tie → Bool
  | even => lower % 2 == 0
  | up => false

def toBinary64 (negative : Bool) (d : Decimal) : Binary64 :=
  Binary64.ofDecimal negative d.digits d.exponent

def stripZeros : Nat → Decimal → Decimal
  | 0, d => d
  | fuel + 1, d =>
    if d.digits != 0 && d.digits % 10 == 0 then
      stripZeros fuel ⟨d.digits / 10, d.exponent + 1⟩
    else d

end Decimal

namespace Binary64.Finite

def atLeastPow (x : Finite) (k : Int) : Bool :=
  if 0 ≤ k then tenTo k.toNat * twoTo unitExponent ≤ x.units
  else twoTo unitExponent ≤ x.units * tenTo (-k).toNat

/-- The position of the leading decimal digit: `10 ^ k ≤ |x| < 10 ^ (k + 1)` for `x` other than
zero. The binary exponent gives it up to one. -/
def leadingPosition (x : Finite) : Int :=
  let guess := (((x.units.log2 : Int) - unitExponent) * 30103).fdiv 100000
  if x.atLeastPow (guess + 1) then guess + 1
  else if x.atLeastPow guess then guess
  else guess - 1

def readsBack (x : Finite) (d : Decimal) : Bool :=
  d.toBinary64 x.negative == .finite x

/-- The decimal of `count` digits nearest to `x` that reads back as `x`, if there is one. -/
def withDigits? (x : Finite) (tie : Decimal.Tie) (count : Nat) : Option Decimal :=
  let scale : Int := (count : Int) - 1 - x.leadingPosition
  let num := if 0 ≤ scale then x.units * tenTo scale.toNat else x.units
  let den := twoTo unitExponent * (if 0 ≤ scale then 1 else tenTo (-scale).toNat)
  let below : Decimal := ⟨num / den, -scale⟩
  let above : Decimal := ⟨num / den + 1, -scale⟩
  let twice := 2 * (num % den)
  let belowFirst := twice < den || (twice == den && tie.takesLower (num / den))
  let candidates := if belowFirst then [below, above] else [above, below]
  candidates.find? x.readsBack

/-- Every digit of the magnitude: `units * 2 ^ -1074 = units * 5 ^ 1074 * 10 ^ -1074`. -/
def allDigits (x : Finite) : Decimal :=
  ⟨x.units * Nat.pow 5 unitExponent, -(unitExponent : Int)⟩

/-- The decimal with the fewest digits that reads back as `x`; of several, the nearest to `x`. -/
def shortest (x : Finite) (tie : Decimal.Tie) : Decimal :=
  if x.units == 0 then ⟨0, 0⟩
  else
    let found := (List.range 17).findSome? fun n => x.withDigits? tie (n + 1)
    (found.getD x.allDigits).stripZeros 1100

end Binary64.Finite

structure Decimal.Layout where
  /-- How the shortest digits are chosen between two decimals equally near. -/
  tie : Decimal.Tie
  /-- The least position of a leading digit for which no exponent is written. -/
  lowest : Int
  /-- The greatest position of a leading digit for which no exponent is written. -/
  highest : Int
  /-- Whether a number without fraction ends in `.0`. -/
  pointZero : Bool
  /-- Whether an exponent that is not negative has a plus sign. -/
  plusSign : Bool

namespace Decimal.Layout

/-- Numbers in JSON text: an exponent from `10 ^ 16` on and below `10 ^ -5`. -/
def json : Layout := ⟨.even, -5, 15, true, true⟩

/-- Numbers in YAML text: as in JSON, without the plus sign. -/
def yaml : Layout := ⟨.even, -5, 15, true, false⟩

/-- Numbers in messages: never an exponent, and no fraction unless it is needed. -/
def plain : Layout := ⟨.up, -400, 400, false, false⟩

/-- The digits `digits`, whose first one stands for `10 ^ lead`, without an exponent. -/
def positional (layout : Layout) (digits : List Char) (lead : Int) : List Char :=
  if lead < 0 then
    '0' :: '.' :: (List.replicate (-lead - 1).toNat '0' ++ digits)
  else
    let whole := lead.toNat + 1
    let padded := digits ++ List.replicate (whole - digits.length) '0'
    let fraction := padded.drop whole
    padded.take whole ++
      (if !fraction.isEmpty then '.' :: fraction else if layout.pointZero then ['.', '0'] else [])

def scientific (layout : Layout) (digits : List Char) (lead : Int) : List Char :=
  digits.take 1 ++ (if digits.length ≤ 1 then [] else '.' :: digits.drop 1) ++ ['e'] ++
    (if layout.plusSign && 0 ≤ lead then ['+'] else []) ++ Text.decimal lead

def render (layout : Layout) (x : Binary64.Finite) : List Char :=
  let d := x.shortest layout.tie
  let digits := Text.digitsOf d.digits
  let lead := d.exponent + digits.length - 1
  let magnitude :=
    if layout.lowest ≤ lead && lead ≤ layout.highest then layout.positional digits lead
    else layout.scientific digits lead
  if x.negative then '-' :: magnitude else magnitude

end Decimal.Layout

namespace Binary64

def display : Binary64 → String
  | .finite x => if x.isZero then "0" else String.ofList (Decimal.Layout.plain.render x)
  | .infinite negative => if negative then "-inf" else "inf"
  | .nan => "NaN"

/-- Halfway between two decimals of sixteen digits, messages show the greater one. -/
example : (ofDecimal false 56294995342131225 (-2)).display = "562949953421312.3" ∧
    (ofDecimal false 56294995342131225 (-2)).finite?.map Decimal.Layout.json.render =
      some "562949953421312.2".toList := by
  decide +kernel

def exponent? : List Char → Option Int
  | [] => some 0
  | c :: rest => if c == 'e' || c == 'E' then Text.integer? rest else none

/-- A decimal without sign: digits with at most one point among or around them, at least one
digit, and an optional exponent. -/
def magnitude? (negative : Bool) (text : List Char) : Option Binary64 :=
  let whole := text.takeWhile Char.isDigit
  let rest := text.dropWhile Char.isDigit
  let (fraction, rest) :=
    match rest with
    | '.' :: rest => (rest.takeWhile Char.isDigit, rest.dropWhile Char.isDigit)
    | rest => ([], rest)
  if whole.isEmpty && fraction.isEmpty then none
  else do
    let exponent ← exponent? rest
    return ofDecimal negative (Text.numeral (whole ++ fraction)) (exponent - fraction.length)

/-- A number as people write it: an optional sign, then a decimal or, in any case of letters,
`inf`, `infinity` or `nan`. -/
def read? (text : List Char) : Option Binary64 :=
  let (negative, body) :=
    match text with
    | '-' :: rest => (true, rest)
    | '+' :: rest => (false, rest)
    | rest => (false, rest)
  let name := body.map Char.toLower
  if name == "inf".toList || name == "infinity".toList then some (.infinite negative)
  else if name == "nan".toList then some .nan
  else magnitude? negative body

end Binary64

end SchemaCheck
