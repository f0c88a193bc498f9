import SchemaCheck.Json.Value
import SchemaCheck.Number.Decimal
import SchemaCheck.Text.Ascii
import SchemaCheck.Text.Blank

/-!
Strings, integers, numbers and booleans made from one another. Null, arrays and objects become
none of them. White space around a text does not matter where the text is read.
-/

namespace SchemaCheck.Coercion

open Json (Value Number)

/-- The text of a number: an integer's digits, or the fewest digits of another number. -/
def numberText : Number → String
  | .integer n _ _ => String.ofList (Text.decimal n)
  | .real x => (Binary64.finite x).display

def truncate? (x : Binary64.Finite) : Option Int :=
  if isSignedWord x.truncate then some x.truncate else none

def finite? (text : List Char) : Option Binary64.Finite := (Binary64.read? text).bind (·.finite?)

def word? (text : List Char) : Option Int :=
  (Text.integer? text).filter isSignedWord

def toText? : Value → Option String
  | .string s => some s
  | .number n => some (numberText n)
  | .bool b => some (if b then "true" else "false")
  | _ => none

/-- The integer of a signed word; a fraction is dropped. -/
def toInteger? : Value → Option Int
  | .number (.integer n _ _) =>
    if n < (signedBound : Int) then some n else (Binary64.ofInt n).finite?.bind truncate?
  | .number (.real x) => truncate? x
  | .string s =>
    let text := Text.trim s.toList
    match word? text with
    | some n => some n
    | none => (finite? text).bind truncate?
  | .bool b => some (if b then 1 else 0)
  | _ => none

/-- A finite number: the nearest one to an integer or to a written decimal. -/
def toNumber? : Value → Option Binary64.Finite
  | .number n => n.toBinary64.finite?
  | .string s => finite? (Text.trim s.toList)
  | .bool b => (Binary64.ofInt (if b then 1 else 0)).finite?
  | _ => none

def trueWords : List String := ["true", "yes", "1"]

def falseWords : List String := ["false", "no", "0"]

/-- A word in any case, or whether a number differs from zero. -/
def toBoolean? : Value → Option Bool
  | .bool b => some b
  | .string s =>
    let word := String.ofList (Text.asciiLower (Text.trim s.toList))
    if trueWords.contains word then some true
    else if falseWords.contains word then some false
    else none
  | .number n => n.toBinary64.finite?.map fun x => !x.isZero
  | _ => none

end SchemaCheck.Coercion
