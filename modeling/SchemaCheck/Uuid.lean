import SchemaCheck.Text.Ascii

/-!
Universally unique identifiers: sixteen bytes, written as 32 hexadecimal digits in groups of 8, 4,
4, 4 and 12 with hyphens in between.
-/

namespace SchemaCheck

structure Uuid where
  bytes : List UInt8
  length_eq : bytes.length = 16
deriving DecidableEq

namespace Uuid

def bytesOfDigits? : List Char → Option (List UInt8)
  | [] => some []
  | a :: b :: rest => do
    let high ← Text.hexDigit? a
    let low ← Text.hexDigit? b
    let bytes ← bytesOfDigits? rest
    return .ofNat (high * 16 + low) :: bytes
  | _ => none

def ofDigits? (digits : List Char) : Option Uuid := do
  let bytes ← bytesOfDigits? digits
  if h : bytes.length = 16 then return ⟨bytes, h⟩ else none

def ofGroups? (text : List Char) : Option Uuid :=
  let hyphens := [text[8]?, text[13]?, text[18]?, text[23]?]
  if text.length = 36 ∧ hyphens.all (· == some '-') then
    ofDigits? (text.take 8 ++ (text.drop 9).take 4 ++ (text.drop 14).take 4 ++
      (text.drop 19).take 4 ++ text.drop 24)
  else none

def namePrefix : List Char := "urn:uuid:".toList

/-- The identifier that a text stands for: the groups, alone, in braces or as a resource name, or
the digits without hyphens. -/
def ofText? (text : List Char) : Option Uuid :=
  if text.length = 32 then ofDigits? text
  else if text.length = 36 then ofGroups? text
  else if text.length = 38 ∧ text.head? = some '\x7b' ∧ text.getLast? = some '\x7d' then
    ofGroups? ((text.drop 1).take 36)
  else if text.length = 45 ∧ Text.asciiLower (text.take 9) = namePrefix then ofGroups? (text.drop 9)
  else none

def byteDigits (byte : UInt8) : List Char :=
  [Text.hexDigit (byte.toNat / 16), Text.hexDigit (byte.toNat % 16)]

def render (id : Uuid) : List Char :=
  let digits := id.bytes.flatMap byteDigits
  digits.take 8 ++ '-' :: ((digits.drop 8).take 4 ++ '-' :: ((digits.drop 12).take 4 ++
    '-' :: ((digits.drop 16).take 4 ++ '-' :: digits.drop 20)))

end Uuid

end SchemaCheck
