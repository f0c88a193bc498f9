import SchemaCheck.Text.Ascii
import SchemaCheck.Text.Digits

/-!
Internet addresses of both families and their text. An IPv6 text can leave out one run of zero
groups and can end in an IPv4 address; it is written with the longest run left out, the first of
several.
-/

namespace SchemaCheck.Net

structure Ipv4 where
  a : UInt8
  b : UInt8
  c : UInt8
  d : UInt8
deriving DecidableEq

structure Ipv6 where
  groups : List UInt16
  length_eq : groups.length = 8 := by decide
deriving DecidableEq

inductive Ip where
  | v4 (address : Ipv4)
  | v6 (address : Ipv6)
deriving DecidableEq

namespace Ipv4

/-- Reads a number below 256 in at most three digits, without a zero in front. -/
def readOctet (text : List Char) : Option (UInt8 × List Char) :=
  let digits := text.takeWhile Char.isDigit
  let n := Text.numeral digits
  if digits.isEmpty ∨ 3 < digits.length ∨ 255 < n then none
  else if digits.head? = some '0' ∧ 1 < digits.length then none
  else some (.ofNat n, text.dropWhile Char.isDigit)

def readNext : List Char → Option (UInt8 × List Char)
  | '.' :: rest => readOctet rest
  | _ => none

def read (text : List Char) : Option (Ipv4 × List Char) := do
  let (a, text) ← readOctet text
  let (b, text) ← readNext text
  let (c, text) ← readNext text
  let (d, text) ← readNext text
  return (⟨a, b, c, d⟩, text)

def ofText? (text : List Char) : Option Ipv4 :=
  match read text with
  | some (address, []) => some address
  | _ => none

def render (address : Ipv4) : List Char :=
  let octet := fun n : UInt8 => Text.digitsOf n.toNat
  octet address.a ++ '.' :: (octet address.b ++ '.' :: (octet address.c ++ '.' :: octet address.d))

def groups (address : Ipv4) : List UInt16 :=
  [.ofNat (address.a.toNat * 256 + address.b.toNat),
    .ofNat (address.c.toNat * 256 + address.d.toNat)]

end Ipv4

namespace Ipv6

def readGroup (text : List Char) : Option (UInt16 × List Char) :=
  let digits := text.takeWhile Text.isHexDigit
  if 4 < digits.length then none
  else (Text.hexNumeral? digits).map fun n => (.ofNat n, text.dropWhile Text.isHexDigit)

def dropSeparator (first : Bool) (text : List Char) : Option (List Char) :=
  if first then some text
  else
    match text with
    | ':' :: rest => some rest
    | _ => none

/-- Groups that have been read, whether they end in an IPv4 address, and the text behind them. -/
structure Groups where
  groups : List UInt16
  mixed : Bool
  rest : List Char

def readGroups (first : Bool) : Nat → List Char → Groups
  | 0, text => ⟨[], false, text⟩
  | room + 1, text =>
    let start := dropSeparator first text
    let embedded := if 1 ≤ room then start.bind Ipv4.read else none
    match embedded with
    | some (address, rest) => ⟨address.groups, true, rest⟩
    | none =>
      match start.bind readGroup with
      | none => ⟨[], false, text⟩
      | some (group, rest) =>
        let more := readGroups false room rest
        ⟨group :: more.groups, more.mixed, more.rest⟩

def ofHalves? (front back : List UInt16) : Option Ipv6 :=
  let groups := front ++ List.replicate (8 - front.length - back.length) 0 ++ back
  if h : groups.length = 8 then some ⟨groups, h⟩ else none

def ofText? (text : List Char) : Option Ipv6 :=
  let front := readGroups true 8 text
  if front.groups.length = 8 then
    if front.rest.isEmpty then ofHalves? front.groups [] else none
  else if front.mixed then none
  else
    match front.rest with
    | ':' :: ':' :: rest =>
      let back := readGroups true (7 - front.groups.length) rest
      if back.rest.isEmpty then ofHalves? front.groups back.groups else none
    | _ => none

def mapped? (address : Ipv6) : Option Ipv4 :=
  match address.groups with
  | [0, 0, 0, 0, 0, 0xFFFF, high, low] =>
    some ⟨.ofNat (high.toNat / 256), .ofNat (high.toNat % 256), .ofNat (low.toNat / 256),
      .ofNat (low.toNat % 256)⟩
  | _ => none

def zerosAtStart (groups : List UInt16) : Nat := (groups.takeWhile (· == 0)).length

/-- The start and the length of the longest run of zeros, the first of several. -/
def longestZeros : Nat → List UInt16 → Nat × Nat
  | _, [] => (0, 0)
  | start, group :: rest =>
    let here := zerosAtStart (group :: rest)
    let later := longestZeros (start + 1) rest
    if later.2 ≤ here ∧ 0 < here then (start, here) else later

def renderGroups : List UInt16 → List Char
  | [] => []
  | [group] => Text.hexDigitsOf group.toNat
  | group :: rest => Text.hexDigitsOf group.toNat ++ ':' :: renderGroups rest

/-- The groups in lower case, with the longest run of at least two zeros left out. -/
def renderCompressed (address : Ipv6) : List Char :=
  let (start, length) := longestZeros 0 address.groups
  if length < 2 then renderGroups address.groups
  else
    renderGroups (address.groups.take start) ++ ':' :: ':' ::
      renderGroups (address.groups.drop (start + length))

/-- The text of an address; an IPv4-mapped address ends in the text of its IPv4 address. -/
def render (address : Ipv6) : List Char :=
  match address.mapped? with
  | some inner => "::ffff:".toList ++ inner.render
  | none => address.renderCompressed

end Ipv6

namespace Ip

def ofText? (text : List Char) : Option Ip :=
  match Ipv4.ofText? text with
  | some address => some (.v4 address)
  | none => (Ipv6.ofText? text).map .v6

def render : Ip → List Char
  | v4 address => address.render
  | v6 address => address.render

end Ip

end SchemaCheck.Net
