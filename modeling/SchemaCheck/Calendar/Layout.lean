import SchemaCheck.Calendar.Instant
import SchemaCheck.Text.Ascii
import SchemaCheck.Text.Scan

/-!
Written dates and times without an offset: a layout is a list of items, and a text is read item by
item. Blanks may stand in front of every number, and a number may have fewer digits than its width.
-/

namespace SchemaCheck.Calendar

open Text

def monthNames : List String :=
  ["Jan", "Feb", "Mar", "Apr", "May", "Jun", "Jul", "Aug", "Sep", "Oct", "Nov", "Dec"]

def weekdayNames : List String := ["Sun", "Mon", "Tue", "Wed", "Thu", "Fri", "Sat"]

structure Parts where
  year : Int := 0
  month : Nat := 0
  day : Nat := 0
  hour : Nat := 0
  minute : Nat := 0
  second : Nat := 0
  nanosecond : Nat := 0

namespace Parts

def date? (parts : Parts) : Option Date :=
  Date.ofCivil? ⟨parts.year, parts.month, parts.day⟩

def clock? (parts : Parts) : Option Clock :=
  Clock.ofParts? parts.hour parts.minute parts.second parts.nanosecond

def instant? (parts : Parts) (offset : Int) : Option Instant := do
  Instant.atOffset? (← parts.date?) (← parts.clock?) offset

end Parts

inductive Item where
  | year
  | month
  | monthName
  | day
  | hour
  | minute
  | second
  | mark (c : Char)
  | blanks

/-- A year: up to four digits, or a sign and any number of digits. -/
def scanYear : List Char → Option (Int × List Char)
  | '-' :: rest => (scanNatural rest).map fun (n, rest) => (-(n : Int), rest)
  | '+' :: rest => (scanNatural rest).map fun (n, rest) => ((n : Int), rest)
  | text => (scanNumber 1 4 text).map fun (n, rest) => ((n : Int), rest)

def scanPair (text : List Char) : Option (Nat × List Char) := scanNumber 1 2 (skipBlanks text)

def Item.scan (parts : Parts) (text : List Char) : Item → Option (Parts × List Char)
  | .year => (scanYear (skipBlanks text)).map fun (n, rest) => ({ parts with year := n }, rest)
  | .month => (scanPair text).map fun (n, rest) => ({ parts with month := n }, rest)
  | .monthName =>
    (scanWord monthNames text).map fun (i, rest) => ({ parts with month := i + 1 }, rest)
  | .day => (scanPair text).map fun (n, rest) => ({ parts with day := n }, rest)
  | .hour => (scanPair text).map fun (n, rest) => ({ parts with hour := n }, rest)
  | .minute => (scanPair text).map fun (n, rest) => ({ parts with minute := n }, rest)
  | .second => (scanPair text).map fun (n, rest) => ({ parts with second := n }, rest)
  | .mark c => (skip? c text).map fun rest => (parts, rest)
  | .blanks => some (parts, skipBlanks text)

def readParts (parts : Parts) : List Item → List Char → Option Parts
  | [], [] => some parts
  | [], _ :: _ => none
  | item :: items, text => do
    let (parts, rest) ← item.scan parts text
    readParts parts items rest

def hyphenDate : List Item := [.year, .mark '-', .month, .mark '-', .day]

def colonTime : List Item := [.hour, .mark ':', .minute, .mark ':', .second]

def timedLayouts : List (List Item) :=
  [hyphenDate ++ .mark 'T' :: colonTime, hyphenDate ++ .blanks :: colonTime]

def dateLayouts : List (List Item) :=
  [hyphenDate,
   [.month, .mark '/', .day, .mark '/', .year],
   [.day, .blanks, .monthName, .blanks, .year]]

def ofLayouts? (text : List Char) : Option Instant :=
  (timedLayouts.findSome? fun layout => (readParts {} layout text).bind (·.instant? 0)) <|>
    (dateLayouts.findSome? fun layout => (readParts {} layout text).bind (·.date?)).map .ofDate

end SchemaCheck.Calendar
