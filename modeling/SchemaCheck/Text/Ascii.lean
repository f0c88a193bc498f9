/-!
The ASCII classes and case maps: every other character is left alone and belongs to no class.
-/

namespace SchemaCheck.Text

def asciiLower (text : List Char) : List Char := text.map Char.toLower

def isHexDigit (c : Char) : Bool :=
  c.isDigit || ('a' ≤ c && c ≤ 'f') || ('A' ≤ c && c ≤ 'F')

def hexDigit? (c : Char) : Option Nat :=
  if c.isDigit then some (c.toNat - '0'.toNat)
  else if 'a' ≤ c && c ≤ 'f' then some (c.toNat - 'a'.toNat + 10)
  else if 'A' ≤ c && c ≤ 'F' then some (c.toNat - 'A'.toNat + 10)
  else none

def hexDigit (n : Nat) : Char :=
  if n < 10 then Char.ofNat ('0'.toNat + n) else Char.ofNat ('a'.toNat + (n - 10))

def upperHexDigit (n : Nat) : Char := (hexDigit n).toUpper

def hexNumeral? (text : List Char) : Option Nat :=
  if text.isEmpty then none
  else text.foldlM (fun value c => (hexDigit? c).map (value * 16 + ·)) 0

/-- The hexadecimal digits of a number without leading zeros, in lower case. -/
def hexDigitsOf (n : Nat) : List Char := Nat.toDigits 16 n

end SchemaCheck.Text
