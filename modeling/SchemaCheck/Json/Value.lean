import SchemaCheck.Fields
import SchemaCheck.Number.Binary64

/-!
JSON values. A number is an integer in the range of signed or unsigned 64-bit words, or a finite
binary64 number; the two kinds stay apart, so `1` and `1.0` differ.
-/

namespace SchemaCheck.Json

inductive Number where
  | integer (n : Int) (low : -(signedBound : Int) ≤ n) (high : n < (wordBound : Int))
  | real (x : Binary64.Finite)
deriving DecidableEq

namespace Number

def ofInt? (n : Int) : Option Number :=
  if h : -(signedBound : Int) ≤ n ∧ n < (wordBound : Int) then some (.integer n h.1 h.2) else none

def toBinary64 : Number → Binary64
  | integer n _ _ => Binary64.ofInt n
  | real x => .finite x

def signed? : Number → Option Int
  | integer n _ _ => if n < (signedBound : Int) then some n else none
  | real _ => none

def unsigned? : Number → Option Nat
  | integer n _ _ => if 0 ≤ n then some n.toNat else none
  | real _ => none

def isIntegral : Number → Bool
  | integer _ _ _ => true
  | real x => x.isIntegral

end Number

/-- A JSON value. The fields of an object stand in the order in which they are written. -/
inductive Value where
  | null
  | bool (b : Bool)
  | number (n : Number)
  | string (text : String)
  | array (items : List Value)
  | object (fields : List (String × Value))
deriving Inhabited

namespace Value

/-- An integer as a value; out of range it is the nearest binary64 number, as in JSON text. -/
def ofInt (n : Int) : Value :=
  match Number.ofInt? n with
  | some exact => .number exact
  | none =>
    match Binary64.ofInt n with
    | .finite x => .number (.real x)
    | _ => .null

def ofNat (n : Nat) : Value := ofInt n

/-- A binary64 number as a value; JSON has no infinities, so they become null. -/
def ofBinary64 : Binary64 → Value
  | .finite x => .number (.real x)
  | _ => .null

def strings (texts : List String) : Value := .array (texts.map .string)

def text? : Value → Option String
  | .string s => some s
  | _ => none

def binary64? : Value → Option Binary64
  | .number n => some n.toBinary64
  | _ => none

mutual

/-- The value with the fields of every object in order; of several with one name the last stands. -/
def sorted : Value → Value
  | .array items => .array (sortedItems items)
  | .object fields => .object (Fields.ofList (sortedFields fields))
  | value => value

def sortedItems : List Value → List Value
  | [] => []
  | value :: rest => value.sorted :: sortedItems rest

def sortedFields : List (String × Value) → List (String × Value)
  | [] => []
  | (name, value) :: rest => (name, value.sorted) :: sortedFields rest

end

end Value

end SchemaCheck.Json
