/-!
Punycode: a label of any characters in ASCII letters, digits and hyphens. The ASCII characters
come first; behind a hyphen, the others are inserted in ascending order, each by the number of
steps from the place and character of the one in front.
-/

namespace SchemaCheck.Net.Punycode

def digit (n : Nat) : Char :=
  if n < 26 then Char.ofNat ('a'.toNat + n) else Char.ofNat ('0'.toNat + (n - 26))

def digit? (c : Char) : Option Nat :=
  if 'a' ≤ c ∧ c ≤ 'z' then some (c.toNat - 'a'.toNat)
  else if 'A' ≤ c ∧ c ≤ 'Z' then some (c.toNat - 'A'.toNat)
  else if c.isDigit then some (c.toNat - '0'.toNat + 26)
  else none

/-- The value from which on a digit at a position has others behind it. -/
def threshold (bias position : Nat) : Nat := min 26 (max 1 (position - bias))

/-- How often a number has to be divided by 35 to come below 456, and what it is then. -/
def reduce : Nat → Nat → Nat × Nat
  | 0, n => (0, n)
  | fuel + 1, n =>
    if n < 456 then (0, n)
    else
      let (times, left) := reduce fuel (n / 35)
      (times + 1, left)

def adapt (steps count : Nat) (first : Bool) : Nat :=
  let damped := if first then steps / 700 else steps / 2
  let (times, left) := reduce (damped + damped / count) (damped + damped / count)
  times * 36 + 36 * left / (left + 38)

def encodeNumber (bias : Nat) : Nat → Nat → Nat → List Char
  | 0, _, _ => []
  | fuel + 1, position, n =>
    let t := threshold bias position
    if n < t then [digit n]
    else
      digit (t + (n - t) % (36 - t)) ::
        encodeNumber bias fuel (position + 36) ((n - t) / (36 - t))

/-- Where an encoder stands: the steps since the last insertion, the bias, and how many characters
have been written. -/
structure Encoder where
  steps : Nat
  bias : Nat
  count : Nat
  basic : Nat

def Encoder.pass (m : Nat) (e : Encoder) : List Nat → List Char × Encoder
  | [] => ([], e)
  | n :: rest =>
    if n < m then Encoder.pass m { e with steps := e.steps + 1 } rest
    else if n = m then
      let bias := adapt e.steps (e.count + 1) (e.count == e.basic)
      let (digits, last) := Encoder.pass m { e with steps := 0, bias, count := e.count + 1 } rest
      (encodeNumber e.bias (e.steps + 1) 36 e.steps ++ digits, last)
    else Encoder.pass m e rest

/-- Inserts the characters of an ascending list; `next` is the first one that may still come. -/
def Encoder.insertAll (label : List Nat) (next : Nat) (e : Encoder) : List Nat → List Char
  | [] => []
  | m :: rest =>
    let e := { e with steps := e.steps + (m - next) * (e.count + 1) }
    let (digits, e) := e.pass m label
    digits ++ Encoder.insertAll label (m + 1) { e with steps := e.steps + 1 } rest

def ascending (list : List Nat) : List Nat := (list.mergeSort).eraseDups

def encode (label : List Nat) : List Char :=
  let basic := label.filter (· < 0x80)
  let e : Encoder := ⟨0, 72, basic.length, basic.length⟩
  basic.map Char.ofNat ++ (if basic.isEmpty then [] else ['-']) ++
    e.insertAll label 0x80 (ascending (label.filter (0x80 ≤ ·)))

def readNumber (bias position weight n : Nat) : List Char → Option (Nat × List Char)
  | [] => none
  | c :: rest => do
    let value ← digit? c
    let t := threshold bias position
    if value < t then return (n + value * weight, rest)
    else readNumber bias (position + 36) (weight * (36 - t)) (n + value * weight) rest

/-- Inserts characters into a label. The steps lead from the place `i` of the last one and the
character `m`; `fuel` bounds their number. -/
def insertNumbers (bias i m : Nat) (label : List Nat) : Nat → List Char → Option (List Nat)
  | _, [] => some label
  | 0, _ => none
  | fuel + 1, text => do
    let (steps, rest) ← readNumber bias 36 1 0 text
    let count := label.length + 1
    let first := i == 0
    let m := m + (i + steps) / count
    let i := (i + steps) % count
    if 0x110000 ≤ m ∨ (0xD800 ≤ m ∧ m < 0xE000) then none
    else
      insertNumbers (adapt steps count first) (i + 1) m (label.insertIdx i m) fuel rest

def decode? (text : List Char) : Option (List Nat) :=
  let digits := (text.reverse.takeWhile (· != '-')).reverse
  let basic := (text.take (text.length - digits.length)).dropLast
  if text.head? = some '-' ∧ basic.isEmpty then none
  else if basic.all (·.toNat < 0x80) then
    insertNumbers 72 0 0x80 (basic.map Char.toNat) digits.length digits
  else none

end SchemaCheck.Net.Punycode
