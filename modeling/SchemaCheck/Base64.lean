/-!
Base64 text of bytes, in the standard and the URL-safe alphabet. A text is read only in its
canonical form: bits that do not count are zero, and a last group is padded exactly when the
variant pads.
-/

namespace SchemaCheck.Base64

/-- The two characters in which the alphabets differ, and whether last groups are padded. -/
structure Variant where
  sixtyTwo : Char
  sixtyThree : Char
  padded : Bool

def standard : Variant := ⟨'+', '/', true⟩

def urlSafe : Variant := ⟨'-', '_', true⟩

def urlSafeUnpadded : Variant := ⟨'-', '_', false⟩

def Variant.value? (variant : Variant) (c : Char) : Option Nat :=
  if 'A' ≤ c ∧ c ≤ 'Z' then some (c.toNat - 65)
  else if 'a' ≤ c ∧ c ≤ 'z' then some (c.toNat - 97 + 26)
  else if '0' ≤ c ∧ c ≤ '9' then some (c.toNat - 48 + 52)
  else if c = variant.sixtyTwo then some 62
  else if c = variant.sixtyThree then some 63
  else none

def Variant.symbol (variant : Variant) (n : Nat) : Char :=
  if n < 26 then Char.ofNat (n + 65)
  else if n < 52 then Char.ofNat (n - 26 + 97)
  else if n < 62 then Char.ofNat (n - 52 + 48)
  else if n = 62 then variant.sixtyTwo
  else variant.sixtyThree

def Variant.lastByte? (variant : Variant) (a b : Char) : Option (List UInt8) := do
  let x ← variant.value? a
  let y ← variant.value? b
  if y % 16 = 0 then return [.ofNat (x * 4 + y / 16)] else none

def Variant.lastBytes? (variant : Variant) (a b c : Char) : Option (List UInt8) := do
  let x ← variant.value? a
  let y ← variant.value? b
  let z ← variant.value? c
  if z % 4 = 0 then return [.ofNat (x * 4 + y / 16), .ofNat (y % 16 * 16 + z / 4)] else none

def Variant.bytes? (variant : Variant) (a b c d : Char) : Option (List UInt8) := do
  let x ← variant.value? a
  let y ← variant.value? b
  let z ← variant.value? c
  let w ← variant.value? d
  return [.ofNat (x * 4 + y / 16), .ofNat (y % 16 * 16 + z / 4), .ofNat (z % 4 * 64 + w)]

def Variant.decode? (variant : Variant) : List Char → Option (List UInt8)
  | [] => some []
  | [a, b] => if variant.padded then none else variant.lastByte? a b
  | [a, b, c] => if variant.padded then none else variant.lastBytes? a b c
  | a :: b :: c :: d :: rest =>
    if variant.padded ∧ rest.isEmpty ∧ d = '=' then
      if c = '=' then variant.lastByte? a b else variant.lastBytes? a b c
    else do
      let first ← variant.bytes? a b c d
      let others ← variant.decode? rest
      return first ++ others
  | _ => none

def Variant.encode (variant : Variant) : List UInt8 → List Char
  | [] => []
  | [a] =>
    let n := a.toNat
    [variant.symbol (n / 4), variant.symbol (n % 4 * 16)] ++
      if variant.padded then ['=', '='] else []
  | [a, b] =>
    let n := a.toNat * 256 + b.toNat
    [variant.symbol (n / 1024), variant.symbol (n / 16 % 64), variant.symbol (n % 16 * 4)] ++
      if variant.padded then ['='] else []
  | a :: b :: c :: rest =>
    let n := (a.toNat * 256 + b.toNat) * 256 + c.toNat
    variant.symbol (n / 262144) :: variant.symbol (n / 4096 % 64) :: variant.symbol (n / 64 % 64) ::
      variant.symbol (n % 64) :: variant.encode rest

/-- The bytes of a text in the first variant that reads it: standard, URL-safe, or URL-safe without
padding. -/
def decodeAny? (text : List Char) : Option (List UInt8) :=
  standard.decode? text <|> urlSafe.decode? text <|> urlSafeUnpadded.decode? text

end SchemaCheck.Base64
