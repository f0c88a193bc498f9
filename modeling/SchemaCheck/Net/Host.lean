import SchemaCheck.Net.Domain
import SchemaCheck.Net.Ip
import SchemaCheck.Number.Power

/-!
Hosts of web addresses: a domain name, an opaque name, or an Internet address. A name whose last
label is a number stands for an IPv4 address, of one to four numbers in base 8, 10 or 16.
-/

namespace SchemaCheck.Net

inductive Host where
  | name (text : List Char)
  | v4 (address : Ipv4)
  | v6 (address : Ipv6)
deriving DecidableEq

namespace Host

def render : Host → List Char
  | name text => text
  | v4 address => address.render
  | v6 address => '[' :: (address.renderCompressed ++ [']'])

def parts : List Char → List (List Char)
  | [] => [[]]
  | c :: rest =>
    if c = '.' then [] :: parts rest
    else
      match parts rest with
      | [] => [[c]]
      | part :: more => (c :: part) :: more

def inBase? (base : Nat) (digits : List Char) : Option Nat :=
  digits.foldlM (fun n c => do
    let d ← Text.hexDigit? c
    if d < base then return n * base + d else none) 0

/-- A number: in base 16 behind `0x`, in base 8 behind another zero, else in base 10. -/
def number? : List Char → Option Nat
  | [] => none
  | '0' :: 'x' :: rest => inBase? 16 rest
  | '0' :: 'X' :: rest => inBase? 16 rest
  | ['0'] => some 0
  | '0' :: rest => inBase? 8 rest
  | digits => inBase? 10 digits

def usedParts (text : List Char) : List (List Char) :=
  let all := parts text
  if all.getLast? = some [] then all.dropLast else all

def endsInNumber (text : List Char) : Bool :=
  (usedParts text).getLast?.any fun part =>
    (!part.isEmpty && part.all Char.isDigit) || (number? part).isSome

/-- The value of numbers below 256 with a last one that fills the remaining bytes. -/
def addressValue? (numbers : List Nat) : Option Nat :=
  match numbers.getLast? with
  | none => none
  | some last =>
    let front := numbers.dropLast
    if front.length ≤ 3 ∧ front.all (· < 256) ∧ last < twoTo (8 * (4 - front.length)) then
      some (front.foldl (fun n k => n * 256 + k) 0 * twoTo (8 * (4 - front.length)) + last)
    else none

def ipv4OfValue (n : Nat) : Ipv4 :=
  ⟨.ofNat (n / twoTo 24), .ofNat (n / twoTo 16), .ofNat (n / twoTo 8), .ofNat n⟩

def ipv4? (text : List Char) : Option Ipv4 := do
  let numbers ← (usedParts text).mapM number?
  return ipv4OfValue (← addressValue? numbers)

def bracketed? (text : List Char) : Option Host :=
  if text.getLast? = some ']' then (Ipv6.ofText? text.tail.dropLast).map v6 else none

def ofText? (text : List Char) : Option Host :=
  if text.head? = some '[' then bracketed? text
  else do
    let decoded ← Percent.textOf? (Percent.decode text)
    let name ← Domain.ofText? decoded
    if name.isEmpty then none
    else if endsInNumber name then (ipv4? name).map v4
    else return .name name

def isForbiddenInOpaque (c : Char) : Bool :=
  c == Char.ofNat 0 || "\t\n\r #/:<>?@[\\]^|".toList.contains c

def ofOpaque? (text : List Char) : Option Host :=
  if text.head? = some '[' then bracketed? text
  else if text.isEmpty || text.any isForbiddenInOpaque then none
  else some (.name (Percent.encode Percent.isControl text))

end Host

end SchemaCheck.Net
