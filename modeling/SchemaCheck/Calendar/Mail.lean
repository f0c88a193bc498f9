import SchemaCheck.Calendar.Internet

/-!
Instants as in the date line of a letter: perhaps a day of the week, the day, the month by name,
the year, the time, a zone by name or as an offset, and comments in parentheses.
-/

namespace SchemaCheck.Calendar

open Text

def zoneHours? (name : String) : Option Int :=
  match name with
  | "gmt" | "ut" | "z" => some 0
  | "edt" => some (-4)
  | "est" | "cdt" => some (-5)
  | "cst" | "mdt" => some (-6)
  | "mst" | "pdt" => some (-7)
  | "pst" => some (-8)
  | _ =>
    match name.toList with
    | [c] => if c.isAlpha && c != 'j' then some 0 else none
    | _ => none

def scanZone (text : List Char) : Option (Int × List Char) :=
  let name := text.takeWhile Char.isAlpha
  if name.isEmpty then do
    let (sign, rest) ← scanSign false text
    let (hours, rest) ← scanTwo rest
    let (minutes, rest) ← scanOffsetMinutes rest
    if hours < 24 then return (sign * (hours * 3600 + minutes * 60), rest) else none
  else
    (zoneHours? (String.ofList (asciiLower name))).map fun hours =>
      (hours * 3600, text.drop name.length)

/-- Whether a text holds comments and blanks only; `depth` parentheses are open.
A character after a backslash counts as any other. -/
def isComments (depth : Nat) (escaped : Bool) : List Char → Bool
  | [] => depth == 0
  | c :: rest =>
    match depth with
    | 0 =>
      if c = '(' then isComments 1 false rest
      else isBlank c && isComments 0 false rest
    | outer + 1 =>
      if escaped then isComments depth false rest
      else if c = '\\' then isComments depth true rest
      else if c = '(' then isComments (depth + 1) false rest
      else if c = ')' then isComments outer false rest
      else isComments depth false rest

def fullYear (digits year : Nat) : Nat :=
  if digits = 2 then if year < 50 then year + 2000 else year + 1900
  else if digits = 3 then year + 1900
  else year

def scanMailYear (text : List Char) : Option (Nat × List Char) := do
  let (year, rest) ← scanNumber 2 text.length text
  return (fullYear (text.length - rest.length) year, rest)

/-- The day of the week, if the text starts with one; a comma must follow. -/
def scanWeekday (text : List Char) : Option (Option Nat × List Char) :=
  match scanWord weekdayNames text with
  | none => some (none, text)
  | some (i, rest) => (skip? ',' rest).map fun rest => (some i, rest)

def scanMailSecond (text : List Char) : Option (Nat × List Char) :=
  match skip? ':' (skipBlanks text) with
  | some rest => scanTwo rest
  | none => some (0, text)

def ofMailDate? (text : List Char) : Option Instant := do
  let (named, rest) ← scanWeekday (skipBlanks text)
  let (day, rest) ← scanNumber 1 2 (skipBlanks rest)
  let rest ← skipSomeBlanks? rest
  let (month, rest) ← scanWord monthNames rest
  let rest ← skipSomeBlanks? rest
  let (year, rest) ← scanMailYear rest
  let rest ← skipSomeBlanks? rest
  let (hour, rest) ← scanTwo rest
  let rest ← skip? ':' (skipBlanks rest)
  let (minute, rest) ← scanTwo (skipBlanks rest)
  let (second, rest) ← scanMailSecond rest
  let rest ← skipSomeBlanks? rest
  let (offset, rest) ← scanZone rest
  let parts : Parts := { year, month := month + 1, day, hour, minute, second }
  let date ← parts.date?
  if (named.all fun i => i == weekday date.dayNumber) && isComments 0 false rest then
    parts.instant? offset
  else none

end SchemaCheck.Calendar
