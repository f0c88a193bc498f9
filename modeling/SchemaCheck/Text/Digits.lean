/-!
Runs of decimal digits: reading them as numerals and writing numerals as digits. Only the ten
ASCII digits count here.
-/

namespace SchemaCheck.Text

def numeral (digits : List Char) : Nat :=
  digits.foldl (fun value c => value * 10 + (c.toNat - '0'.toNat)) 0

def digitsOf (n : Nat) : List Char := Nat.toDigits 10 n

def natural? (text : List Char) : Option Nat :=
  if !text.isEmpty && text.all Char.isDigit then some (numeral text) else none

def unsigned? : List Char → Option Nat
  | '+' :: rest => natural? rest
  | text => natural? text

def integer? : List Char → Option Int
  | '-' :: rest => (natural? rest).map fun n => -(n : Int)
  | text => (unsigned? text).map Int.ofNat

def padded (width n : Nat) : List Char :=
  let digits := digitsOf n
  List.replicate (width - digits.length) '0' ++ digits

def decimal (n : Int) : List Char :=
  if n < 0 then '-' :: digitsOf n.natAbs else digitsOf n.natAbs

end SchemaCheck.Text
