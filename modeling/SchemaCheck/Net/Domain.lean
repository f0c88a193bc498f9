import SchemaCheck.Net.Percent
import SchemaCheck.Net.Punycode
import SchemaCheck.Unicode.Composition
import SchemaCheck.Unicode.Direction
import SchemaCheck.Unicode.DomainMapping
import SchemaCheck.Unicode.Joining
import SchemaCheck.Unicode.Property

/-!
Domain names in ASCII: characters are replaced by what they stand for and composed, and a label
with others than ASCII characters is written in Punycode behind `xn--`.
-/

namespace SchemaCheck.Net.Domain

open Unicode

def isForbidden (n : Nat) : Bool :=
  n ≤ 0x20 || n == 0x7F || ("%#/:<>?@[\\]^|".toList.map Char.toNat).contains n

def isAscii (label : List Nat) : Bool := label.all (· < 0x80)

def labels : List Nat → List (List Nat)
  | [] => [[]]
  | n :: rest =>
    if n = '.'.toNat then [] :: labels rest
    else
      match labels rest with
      | [] => [[n]]
      | label :: more => (n :: label) :: more

/-- What stands in front of Punycode. -/
def mark : List Nat := "xn--".toList.map Char.toNat

/-- A label with its written form and the characters that it stands for. -/
structure Label where
  written : List Nat
  meaning : List Nat

/-- A label with other than ASCII characters starts with no mark and joins as it should. -/
def isMeaning (label : List Nat) : Bool :=
  isAscii label ||
    (!(label.head?.any Property.mark.contains) && Joining.isJoined [] label)

def isCanonical (label : List Nat) : Bool :=
  !isAscii label && label.all DomainMapping.isKept && Composition.normalize label == label

def Label.of? (label : List Nat) : Option Label :=
  if mark.isPrefixOf label then
    if isAscii label then
      match Punycode.decode? ((label.drop mark.length).map Char.ofNat) with
      | some meaning =>
        if isCanonical meaning && isMeaning meaning then some ⟨label, meaning⟩ else none
      | none => none
    else none
  else if isMeaning label then
    if isAscii label then some ⟨label, label⟩
    else some ⟨mark ++ (Punycode.encode label).map Char.toNat, label⟩
  else none

def Label.directions (label : Label) : List Direction :=
  label.meaning.map Direction.ofCodePoint

def isOrdered (labels : List Label) : Bool :=
  !(labels.any fun label => label.directions.any Direction.isBackward) ||
    labels.all fun label => Direction.isOrdered label.directions

def ofText? (text : List Char) : Option (List Char) := do
  let mapped ← text.mapM fun c => DomainMapping.expand? c.toNat
  let composed := Composition.normalize mapped.flatten
  let labels ← (labels composed).mapM Label.of?
  let written := List.intercalate ['.'.toNat] (labels.map Label.written)
  if isOrdered labels && !written.any isForbidden then some (written.map Char.ofNat) else none

end SchemaCheck.Net.Domain
