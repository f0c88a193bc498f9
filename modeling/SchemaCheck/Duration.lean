import SchemaCheck.Number.Arithmetic
import SchemaCheck.Number.Decimal
import SchemaCheck.Text.Ascii
import SchemaCheck.Text.Blank
import SchemaCheck.Text.Digits

/-!
Durations: whole nanoseconds, and fewer seconds than an unsigned word counts. A text gives a
duration as amounts with units, in one of several layouts of a time, or as a number of
milliseconds.
-/

namespace SchemaCheck

structure Duration where
  nanoseconds : Nat
  bounded : nanoseconds < wordBound * tenTo 9 := by decide
deriving DecidableEq

namespace Duration

def second : Nat := tenTo 9

def ofNanoseconds? (n : Nat) : Option Duration :=
  if h : n < wordBound * tenTo 9 then some ⟨n, h⟩ else none

def ofSeconds? (n : Nat) : Option Duration := ofNanoseconds? (n * second)

def ofMilliseconds? (n : Nat) : Option Duration := ofNanoseconds? (n * tenTo 6)

def seconds (d : Duration) : Nat := d.nanoseconds / second

def subseconds (d : Duration) : Nat := d.nanoseconds % second

def zero : Duration := { nanoseconds := 0 }

def word? (n : Nat) : Option Nat := if n < wordBound then some n else none

/-- The duration of a number of milliseconds that is not negative, to the nearest nanosecond. -/
def ofRealMilliseconds? (x : Binary64) : Option Duration :=
  match x, Binary64.ofInt 1000 with
  | .finite x, .finite thousand =>
    if x.negative && !x.isZero then none
    else
      match x.div thousand with
      | .finite seconds =>
        ofNanoseconds?
          (Binary64.roundHalfEven (seconds.units * second) (twoTo Binary64.unitExponent))
      | _ => none
  | _, _ => none

section Amounts

inductive Unit where
  | nanosecond
  | microsecond
  | millisecond
  | second
  | minute
  | hour
  | day
  | week
  | month
  | year
deriving DecidableEq

namespace Unit

def all : List Unit :=
  [nanosecond, microsecond, millisecond, second, minute, hour, day, week, month, year]

def names : Unit → List String
  | nanosecond => ["nanos", "nsec", "ns"]
  | microsecond => ["usec", "us", "µs"]
  | millisecond => ["millis", "msec", "ms"]
  | second => ["seconds", "second", "secs", "sec", "s"]
  | minute => ["minutes", "minute", "min", "mins", "m"]
  | hour => ["hours", "hour", "hr", "hrs", "h"]
  | day => ["days", "day", "d"]
  | week => ["weeks", "week", "wk", "wks", "w"]
  | month => ["months", "month", "M"]
  | year => ["years", "year", "yr", "yrs", "y"]

def ofName? (name : String) : Option Unit := all.find? (·.names.contains name)

/-- How many nanoseconds, or whole seconds, a unit is, and whether it counts nanoseconds. A year
has 365.25 days, and a month 30.44. -/
def length : Unit → Nat × Bool
  | nanosecond => (1, true)
  | microsecond => (1000, true)
  | millisecond => (1000000, true)
  | second => (1, false)
  | minute => (60, false)
  | hour => (3600, false)
  | day => (86400, false)
  | week => (604800, false)
  | month => (2630016, false)
  | year => (31557600, false)

/-- How a fraction of a unit is counted: up to a minute in nanoseconds. -/
def fractionLength : Unit → Nat × Bool
  | second => (tenTo 9, true)
  | minute => (60 * tenTo 9, true)
  | unit => unit.length

end Unit

structure Fraction where
  numerator : Nat := 0
  denominator : Nat := 1

/-- Adds `count` times a length over a denominator. The product must fit into a word, and so must
nanoseconds together with those that the duration has beyond whole seconds. -/
def addScaled? (d : Duration) (count : Nat) (length : Nat × Bool) (denominator : Nat) :
    Option Duration := do
  let product ← word? (count * length.1)
  let amount := product / denominator
  if length.2 then
    let n ← word? (d.subseconds + amount)
    ofNanoseconds? (d.seconds * second + n)
  else ofNanoseconds? (d.nanoseconds + amount * second)

def addAmount? (d : Duration) (count : Nat) (fraction : Option Fraction) (unit : Unit) :
    Option Duration := do
  let d ← d.addScaled? count unit.length 1
  match fraction with
  | none => return d
  | some fraction => d.addScaled? fraction.numerator unit.fractionLength fraction.denominator

def isUnitLetter (c : Char) : Bool := c.isAlpha || c == 'µ'

/-- What is being read: digits of a count, digits of a fraction, or letters of a unit. Before that
an amount may start, which is needed as long as there is none yet. -/
inductive Reading where
  | start (needed : Bool)
  | count (n : Nat)
  | fraction (n : Nat) (part : Fraction)
  | unit (n : Nat) (part : Option Fraction) (letters : List Char)

def digitValue (c : Char) : Nat := c.toNat - '0'.toNat

/-- One more digit of a fraction; zeros in front of it only change its denominator. -/
def Fraction.push? (part : Fraction) (c : Char) : Option Fraction := do
  let denominator ← word? (part.denominator * 10)
  let numerator ← word? (part.numerator * 10 + digitValue c)
  return ⟨numerator, denominator⟩

def finish? (d : Duration) (n : Nat) (part : Option Fraction) (letters : List Char) :
    Option Duration := do
  let unit ← Unit.ofName? (String.ofList letters.reverse)
  d.addAmount? n part unit

def begin? (d : Duration) (needed : Bool) (c : Char) : Option (Duration × Reading) :=
  if c.isDigit then some (d, .count (digitValue c))
  else if Text.isBlank c then some (d, .start needed)
  else none

namespace Reading

/-- Reads one more character. Blanks may stand around a count and end a unit. -/
def step? (d : Duration) : Reading → Char → Option (Duration × Reading)
  | start needed, c => d.begin? needed c
  | count n, c =>
    if c.isDigit then (word? (n * 10 + digitValue c)).map fun n => (d, count n)
    else if Text.isBlank c then some (d, count n)
    else if isUnitLetter c then some (d, unit n none [c])
    else if c = '.' then some (d, fraction n {})
    else none
  | fraction n part, c =>
    if c.isDigit then (part.push? c).map fun part => (d, fraction n part)
    else if Text.isBlank c then some (d, fraction n part)
    else if isUnitLetter c && part.denominator != 1 then some (d, unit n (some part) [c])
    else none
  | unit n part letters, c =>
    if isUnitLetter c then some (d, unit n part (c :: letters))
    else (d.finish? n part letters).bind (·.begin? false c)

def close? (d : Duration) : Reading → Option Duration
  | start needed => if needed then none else some d
  | count _ => none
  | fraction _ _ => none
  | unit n part letters => d.finish? n part letters

end Reading

def readAmounts (d : Duration) (reading : Reading) : List Char → Option Duration
  | [] => reading.close? d
  | c :: rest => (reading.step? d c).bind fun (d, reading) => readAmounts d reading rest

/-- The sum of amounts with units; a lone zero needs no unit. -/
def ofAmounts? (text : List Char) : Option Duration :=
  if text = ['0'] then some zero else readAmounts zero (.start true) text

end Amounts

section Layouts

/-- The layouts of a time that is not given as amounts. Each of them starts with a number. -/
inductive Layout where
  /-- The number and the letter of a unit, which has some seconds. -/
  | unit (letter : Char) (length : Nat)
  | hoursMinutes
  | clockSeconds
  | clock
  | words

def layouts : List Layout :=
  [.unit 'h' 3600, .unit 'm' 60, .unit 's' 1, .hoursMinutes, .clockSeconds, .clock, .words]

def scaled? (digits : List Char) (length : Nat) : Option Nat := do
  let count ← word? (Text.numeral digits)
  word? (count * length)

def sixty? (a b : Char) : Option Nat :=
  if '0' ≤ a ∧ a ≤ '5' ∧ b.isDigit then some (Text.numeral [a, b]) else none

def wordLength? (unit : String) : Option Nat :=
  match unit with
  | "day" | "days" => some 86400
  | "hour" | "hours" => some 3600
  | "minute" | "minutes" => some 60
  | "second" | "seconds" => some 1
  | _ => none

/-- Whether a text has the layout, by what stands behind its first number; and if so, its seconds
as far as they fit into a word. -/
def Layout.seconds? (number rest : List Char) : Layout → Option (Option Nat)
  | unit letter length => if rest = [letter] then some (scaled? number length) else none
  | hoursMinutes =>
    match rest with
    | 'h' :: rest =>
      let rest := rest.dropWhile Text.isBlank
      let minutes := rest.takeWhile Char.isDigit
      if !minutes.isEmpty && rest.dropWhile Char.isDigit == ['m'] then
        some do
          let hours ← scaled? number 3600
          let minutes ← scaled? minutes 60
          word? (hours + minutes)
      else none
    | _ => none
  | clockSeconds =>
    match rest with
    | [':', a, b, ':', c, d] => do
      let minutes ← sixty? a b
      let seconds ← sixty? c d
      some do
        let hours ← scaled? number 3600
        word? (hours + (minutes * 60 + seconds))
    | _ => none
  | clock =>
    match rest with
    | [':', a, b] => do
      let minutes ← sixty? a b
      some do
        let hours ← scaled? number 3600
        word? (hours + minutes * 60)
    | _ => none
  | words =>
    let unit := rest.dropWhile Text.isBlank
    (wordLength? (String.ofList (Text.asciiLower unit))).map (scaled? number)

def ofLayouts? (text : List Char) : Option (Option Nat) :=
  let number := text.takeWhile Char.isDigit
  if number.isEmpty then none
  else layouts.findSome? (·.seconds? number (text.dropWhile Char.isDigit))

def ofMillisecondText? (text : List Char) : Option Duration :=
  match (Text.unsigned? text).bind word? with
  | some n => ofMilliseconds? n
  | none => (Binary64.read? text).bind ofRealMilliseconds?

/-- The duration that a text stands for. A text that has one of the layouts is not read in another
way, even if its seconds do not fit into a word. -/
def ofText? (text : List Char) : Option Duration :=
  match ofAmounts? text with
  | some d => some d
  | none =>
    match ofLayouts? text with
    | some total => total.bind ofSeconds?
    | none => ofMillisecondText? text

end Layouts

section Rendering

def item (unit : String) (count : Nat) : List String :=
  if count = 0 then [] else [toString count ++ unit]

def pluralItem (unit : String) (count : Nat) : List String :=
  item (if 1 < count then unit ++ "s" else unit) count

/-- The counts of a duration from years down to nanoseconds, without the zeros. -/
def render (d : Duration) : String :=
  if d.nanoseconds = 0 then "0s"
  else
    let inYear := d.seconds % 31557600
    let inMonth := inYear % 2630016
    let inDay := inMonth % 86400
    " ".intercalate
      (pluralItem "year" (d.seconds / 31557600) ++ pluralItem "month" (inYear / 2630016) ++
        pluralItem "day" (inMonth / 86400) ++ item "h" (inDay / 3600) ++
        item "m" (inDay % 3600 / 60) ++ item "s" (inDay % 60) ++
        item "ms" (d.subseconds / 1000000) ++ item "us" (d.subseconds / 1000 % 1000) ++
        item "ns" (d.subseconds % 1000))

end Rendering

end Duration

end SchemaCheck
