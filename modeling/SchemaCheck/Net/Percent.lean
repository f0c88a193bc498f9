import SchemaCheck.Text.Ascii

/-!
Percent-encoding: a byte is written as a percent sign and two hexadecimal digits. What is to be
encoded is a set of ASCII characters; other characters are always encoded.
-/

namespace SchemaCheck.Net.Percent

def utf8 (text : List Char) : List UInt8 := text.flatMap String.utf8EncodeChar

def isControl (c : Char) : Bool := c.toNat < 0x20 || c.toNat == 0x7F

def encodeByte (b : UInt8) : List Char :=
  ['%', Text.upperHexDigit (b.toNat / 16), Text.upperHexDigit (b.toNat % 16)]

def encodeChar (inSet : Char → Bool) (c : Char) : List Char :=
  if 0x80 ≤ c.toNat || inSet c then (String.utf8EncodeChar c).flatMap encodeByte else [c]

def encode (inSet : Char → Bool) (text : List Char) : List Char := text.flatMap (encodeChar inSet)

def decode : List Char → List UInt8
  | '%' :: a :: b :: rest =>
    match Text.hexDigit? a, Text.hexDigit? b with
    | some high, some low => .ofNat (high * 16 + low) :: decode rest
    | _, _ => String.utf8EncodeChar '%' ++ decode (a :: b :: rest)
  | c :: rest => String.utf8EncodeChar c ++ decode rest
  | [] => []

def textOf? (bytes : List UInt8) : Option (List Char) :=
  (String.fromUTF8? ⟨bytes.toArray⟩).map String.toList

end SchemaCheck.Net.Percent
