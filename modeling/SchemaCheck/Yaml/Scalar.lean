import SchemaCheck.Document
import SchemaCheck.Number.Decimal
import SchemaCheck.Text.Ascii
import SchemaCheck.Yaml.Token

/-!
What scalars mean. A plain scalar is null, a truth value, an integer, a number or else a text,
tried in this order; a tag can ask for one of them.
-/

namespace SchemaCheck.Yaml.Scalar

def isNull (text : String) : Bool := ["null", "Null", "NULL", "~"].contains text

def bool? (text : String) : Option Bool :=
  if ["true", "True", "TRUE"].contains text then some true
  else if ["false", "False", "FALSE"].contains text then some false
  else none

def digit? (base : Nat) (c : Char) : Option Nat := (Text.hexDigit? c).filter (· < base)

def digits? (base : Nat) (text : List Char) : Option Nat :=
  if text.isEmpty then none
  else text.foldlM (fun value c => (digit? base c).map (value * base + ·)) 0

def based? (text : List Char) : Option Nat :=
  match text with
  | '0' :: 'x' :: rest => digits? 16 rest
  | '0' :: 'o' :: rest => digits? 8 rest
  | '0' :: 'b' :: rest => digits? 2 rest
  | _ => none

def withoutPlus (text : List Char) : List Char :=
  match text with
  | '+' :: rest => rest
  | _ => text

/-- Digits that start with a zero and go on: they are no number. -/
def isPadded (text : List Char) : Bool :=
  let digits :=
    match text with
    | '-' :: rest | '+' :: rest => rest
    | _ => text
  match digits with
  | '0' :: rest => !rest.isEmpty && rest.all Char.isDigit
  | _ => false

def natural? (text : List Char) : Option Nat :=
  let body := withoutPlus text
  (based? body).or (if isPadded body then none else digits? 10 body)

def negated? (text : List Char) : Option Nat :=
  match text with
  | '-' :: rest => (based? rest).or (if isPadded text then none else digits? 10 rest)
  | _ => none

/-- An integer of at most 128 bits, read the longer way only if it does not fit into 64. -/
def integer? (text : List Char) : Option Int :=
  match (natural? text).filter (· < twoTo 128) with
  | some n => some n
  | none => ((negated? text).filter (· ≤ twoTo 127)).map fun n => -(n : Int)

def isWord (n : Int) : Bool := -(signedBound : Int) ≤ n && n < (wordBound : Int)

def named? (text : String) : Option Binary64 :=
  let body := String.ofList (withoutPlus text.toList)
  if [".inf", ".Inf", ".INF"].contains body then some (.infinite false)
  else if ["-.inf", "-.Inf", "-.INF"].contains text then some (.infinite true)
  else if [".nan", ".NaN", ".NAN"].contains text then some .nan
  else none

def real? (text : String) : Option Binary64 :=
  let signs := text.toList.takeWhile fun c => c == '+' || c == '-'
  if 1 < signs.length && text.startsWith "+" then none
  else
    (named? text).or
      (((Binary64.read? (withoutPlus text.toList)).bind Binary64.finite?).map .finite)

/-- What a plain scalar means. -/
def plain (text : String) : Document :=
  if text.isEmpty || isNull text then .null
  else
    match bool? text, integer? text.toList with
    | some b, _ => .bool b
    | none, some n => .integer n
    | none, none =>
      if isPadded text.toList then .text text
      else
        match real? text with
        | some x => .real x
        | none => .text text

/-- A tag asks for a meaning that the text does not have. -/
structure Mismatch where
  expected : String

/-- The full name of a tag of the standard. -/
def standardTag (name : String) : String := "tag:yaml.org,2002:" ++ name

def tagged (tag : String) (style : ScalarStyle) (text : String) : Except Mismatch Document :=
  if tag = standardTag "bool" then
    match bool? text with
    | some b => .ok (.bool b)
    | none => .error ⟨"a boolean"⟩
  else if tag = standardTag "int" then
    match integer? text.toList with
    | some n => .ok (.integer n)
    | none => .error ⟨"an integer"⟩
  else if tag = standardTag "float" then
    match real? text with
    | some x => .ok (.real x)
    | none => .error ⟨"a float"⟩
  else if tag = standardTag "null" then
    if isNull text then .ok .null else .error ⟨"null"⟩
  else if tag.startsWith "!" && style = .plain then .ok (plain text)
  else .ok (.text text)

def meaning (tag : Option String) (style : ScalarStyle) (text : String) :
    Except Mismatch Document :=
  match tag with
  | some tag => tagged tag style text
  | none => .ok (if style = .plain then plain text else .text text)

end SchemaCheck.Yaml.Scalar
