import SchemaCheck.Json.Value
import SchemaCheck.Number.Arithmetic
import SchemaCheck.Number.Decimal
import SchemaCheck.Text.Ascii

/-!
Reading JSON text. A reader takes the text that is left and gives a result with what is left
behind it, or a `Stop`: the fault and how many bytes lie behind the place where it was seen. Places
are turned into lines and columns at the very end, so success never depends on them.

Arrays and objects nest at most 127 deep. A decimal is read as its leading digits, as many as fit
into an unsigned word, scaled by a power of ten with one more rounding.
-/

namespace SchemaCheck.Json

inductive Fault where
  | unfinishedList
  | unfinishedObject
  | unfinishedString
  | unfinishedValue
  | missingColon
  | missingListSeparator
  | missingObjectSeparator
  | badWord
  | missingValue
  | badEscape
  | badNumber
  | numberTooLarge
  | controlCharacter
  | keyNotString
  | loneSurrogate
  | brokenSurrogatePair
  | trailingComma
  | trailingText
  | tooDeep
deriving DecidableEq

def Fault.message : Fault → String
  | unfinishedList => "EOF while parsing a list"
  | unfinishedObject => "EOF while parsing an object"
  | unfinishedString => "EOF while parsing a string"
  | unfinishedValue => "EOF while parsing a value"
  | missingColon => "expected `:`"
  | missingListSeparator => "expected `,` or `]`"
  | missingObjectSeparator => "expected `,` or `\x7d`"
  | badWord => "expected ident"
  | missingValue => "expected value"
  | badEscape => "invalid escape"
  | badNumber => "invalid number"
  | numberTooLarge => "number out of range"
  | controlCharacter => "control character (\\u0000-\\u001F) found while parsing a string"
  | keyNotString => "key must be a string"
  | loneSurrogate => "lone leading surrogate in hex escape"
  | brokenSurrogatePair => "unexpected end of hex escape"
  | trailingComma => "trailing comma"
  | trailingText => "trailing characters"
  | tooDeep => "recursion limit exceeded"

/-- Where reading stopped: a cause, and the number of bytes behind the place. -/
structure Stop (ε : Type) where
  cause : ε
  remaining : Nat

/-- The result of a reader: a value and the text behind it, or a stop. -/
abbrev Outcome (ε α : Type) := Except (Stop ε) (α × List Char)

def bytes (text : List Char) : Nat := text.foldl (fun total c => total + c.utf8Size) 0

def stopAt {ε α : Type} (cause : ε) (rest : List Char) : Outcome ε α :=
  .error ⟨cause, bytes rest⟩

def stopNext {ε α : Type} (cause : ε) (rest : List Char) : Outcome ε α :=
  .error ⟨cause, bytes rest - 1⟩

def isSpace (c : Char) : Bool := c == ' ' || c == '\n' || c == '\t' || c == '\r'

def skipSpace (text : List Char) : List Char := text.dropWhile isSpace

def readWord : List Char → List Char → Outcome Fault Unit
  | [], rest => .ok ((), rest)
  | _ :: _, [] => stopAt .unfinishedValue []
  | c :: expected, d :: rest =>
    if c = d then readWord expected rest else stopNext .badWord (d :: rest)

section Strings

/-- What the text read so far of a string asks of its next character. -/
inductive StringState where
  | plain
  | escaped
  | hex (left value : Nat) (high : Option Nat)
  | secondEscape (high : Nat)
  | secondLetter (high : Nat)

def simpleEscape? (c : Char) : Option Char :=
  if c = '"' ∨ c = '\\' ∨ c = '/' then some c
  else if c = 'b' then some (Char.ofNat 8)
  else if c = 'f' then some (Char.ofNat 12)
  else if c = 'n' then some '\n'
  else if c = 'r' then some '\r'
  else if c = 't' then some '\t'
  else none

def isLowSurrogate (n : Nat) : Bool := 0xDC00 ≤ n && n ≤ 0xDFFF

def isHighSurrogate (n : Nat) : Bool := 0xD800 ≤ n && n ≤ 0xDBFF

/-- What four hexadecimal digits mean, after the first half of a pair if there is one: a character,
the first half of a pair, or nothing. -/
def unit? (n : Nat) (high : Option Nat) : Option (Char ⊕ Nat) :=
  match high with
  | none =>
    if isLowSurrogate n then none
    else if isHighSurrogate n then some (.inr n)
    else some (.inl (Char.ofNat n))
  | some h =>
    if isLowSurrogate n then
      some (.inl (Char.ofNat (0x10000 + (h - 0xD800) * 0x400 + (n - 0xDC00))))
    else none

def push {ε : Type} (c : Char) : Outcome ε (List Char) → Outcome ε (List Char)
  | .ok (text, rest) => .ok (c :: text, rest)
  | .error stop => .error stop

def readChars : StringState → List Char → Outcome Fault (List Char)
  | _, [] => stopAt .unfinishedString []
  | .plain, c :: rest =>
    if c = '"' then .ok ([], rest)
    else if c = '\\' then readChars .escaped rest
    else if c.toNat < 0x20 then stopAt .controlCharacter rest
    else push c (readChars .plain rest)
  | .escaped, c :: rest =>
    match simpleEscape? c with
    | some d => push d (readChars .plain rest)
    | none =>
      if c ≠ 'u' then stopNext .badEscape (c :: rest)
      else if bytes rest < 4 then stopAt .unfinishedString []
      else readChars (.hex 4 0 none) rest
  | .hex left value high, c :: rest =>
    match Text.hexDigit? c with
    | none => .error ⟨.badEscape, bytes (c :: rest) - left⟩
    | some digit =>
      if left > 1 then readChars (.hex (left - 1) (value * 16 + digit) high) rest
      else
        match unit? (value * 16 + digit) high with
        | none => stopAt .loneSurrogate rest
        | some (.inl d) => push d (readChars .plain rest)
        | some (.inr h) => readChars (.secondEscape h) rest
  | .secondEscape high, c :: rest =>
    if c = '\\' then readChars (.secondLetter high) rest
    else stopNext .brokenSurrogatePair (c :: rest)
  | .secondLetter high, c :: rest =>
    if c ≠ 'u' then stopNext .brokenSurrogatePair (c :: rest)
    else if bytes rest < 4 then stopAt .unfinishedString []
    else readChars (.hex 4 0 (some high)) rest

def readString (rest : List Char) : Outcome Fault String :=
  match readChars .plain rest with
  | .ok (text, rest) => .ok (String.ofList text, rest)
  | .error stop => .error stop

end Strings

section Numbers

/-- Digits read as one number while it fits into an unsigned word. -/
structure Leading where
  value : Nat
  /-- How many digits went into the value. -/
  used : Nat
  /-- How many digits behind them did not. -/
  dropped : Nat

def Leading.ofDigits (start : Nat) (digits : List Char) : Leading :=
  digits.foldl (fun lead c =>
    let next := lead.value * 10 + (c.toNat - '0'.toNat)
    if lead.dropped = 0 ∧ next < wordBound then { lead with value := next, used := lead.used + 1 }
    else { lead with dropped := lead.dropped + 1 }) ⟨start, 0, 0⟩

/-- The number `value * 10 ^ exponent`, rounded after each power of ten; none when it is too large.
Powers beyond `10 ^ 308` are taken in steps. -/
def scale : Nat → Binary64.Finite → Int → Option Binary64.Finite
  | 0, x, _ => some x
  | fuel + 1, x, exponent =>
    if exponent.natAbs ≤ 308 then
      (Binary64.ofDecimal false 1 exponent.natAbs).finite?.bind fun power =>
        if 0 ≤ exponent then (x.mul power).finite? else (x.div power).finite?
    else if x.isZero then some x
    else if 0 ≤ exponent then none
    else
      (Binary64.ofDecimal false 1 308).finite?.bind fun power =>
        (x.div power).finite?.bind fun y => scale fuel y (exponent + 308)

def realOfParts? (negative : Bool) (value : Nat) (exponent : Int) : Option Binary64.Finite :=
  (Binary64.ofInt value).finite?.bind fun x =>
    (scale 4 x exponent).map fun y => if negative then y.neg else y

def readReal (negative : Bool) (value : Nat) (exponent : Int) (rest : List Char) :
    Outcome Fault Number :=
  match realOfParts? negative value exponent with
  | some x => .ok (.real x, rest)
  | none => stopAt .numberTooLarge rest

/-- The greatest exponent that is told from a larger one. -/
def exponentBound : Nat := twoTo 31 - 1

/-- The exponent's value, or the digits left when it grows too large. -/
def exponentOf : Nat → List Char → Nat ⊕ List Char
  | value, [] => .inl value
  | value, c :: rest =>
    let next := value * 10 + (c.toNat - '0'.toNat)
    if next ≤ exponentBound then exponentOf next rest else .inr rest

def readExponent (negative : Bool) (value : Nat) (start : Int) (text : List Char) :
    Outcome Fault Number :=
  let (down, text) :=
    match text with
    | '+' :: rest => (false, rest)
    | '-' :: rest => (true, rest)
    | rest => (false, rest)
  match text with
  | [] => stopAt .unfinishedValue []
  | c :: _ =>
    if !c.isDigit then stopNext .badNumber text
    else
      let rest := text.dropWhile Char.isDigit
      match exponentOf 0 (text.takeWhile Char.isDigit) with
      | .inl exponent =>
        readReal negative value (if down then start - exponent else start + exponent) rest
      | .inr unread =>
        if value ≠ 0 ∧ !down then stopAt .numberTooLarge (unread ++ rest)
        else .ok (.real (.signedZero negative), rest)

def readFraction (negative : Bool) (value : Nat) (start : Int) (text : List Char) :
    Outcome Fault Number :=
  let lead := Leading.ofDigits value (text.takeWhile Char.isDigit)
  match text with
  | [] => stopNext .unfinishedValue []
  | c :: _ =>
    if !c.isDigit then stopNext .badNumber text
    else
      let exponent := start - lead.used
      match text.dropWhile Char.isDigit with
      | d :: rest =>
        if d = 'e' ∨ d = 'E' then readExponent negative lead.value exponent rest
        else readReal negative lead.value exponent (d :: rest)
      | [] => readReal negative lead.value exponent []

/-- An integer that is written without point and exponent. -/
def wholeNumber (negative : Bool) (value : Nat) : Number :=
  let fallback : Number :=
    match Binary64.ofInt value with
    | .finite x => .real (if negative then x.neg else x)
    | _ => .real .zero
  if negative then
    if value = 0 ∨ signedBound < value then fallback
    else (Number.ofInt? (-(value : Int))).getD fallback
  else (Number.ofInt? value).getD fallback

def readTail (negative : Bool) (lead : Leading) (text : List Char) : Outcome Fault Number :=
  match text with
  | '.' :: rest => readFraction negative lead.value lead.dropped rest
  | c :: rest =>
    if c = 'e' ∨ c = 'E' then readExponent negative lead.value lead.dropped rest
    else if lead.dropped = 0 then .ok (wholeNumber negative lead.value, text)
    else readReal negative lead.value lead.dropped text
  | [] =>
    if lead.dropped = 0 then .ok (wholeNumber negative lead.value, [])
    else readReal negative lead.value lead.dropped []

def readNumber (negative : Bool) (text : List Char) : Outcome Fault Number :=
  match text with
  | [] => stopAt .unfinishedValue []
  | '0' :: rest =>
    match rest with
    | c :: _ => if c.isDigit then stopNext .badNumber rest else readTail negative ⟨0, 1, 0⟩ rest
    | [] => readTail negative ⟨0, 1, 0⟩ []
  | c :: _ =>
    if c.isDigit then
      readTail negative (.ofDigits 0 (text.takeWhile Char.isDigit)) (text.dropWhile Char.isDigit)
    else stopNext .badNumber text

end Numbers

def maxNesting : Nat := 127

def readScalar (text : List Char) : Outcome Fault Value :=
  match text with
  | [] => stopNext .unfinishedValue []
  | 'n' :: rest => (readWord "ull".toList rest).map fun r => (.null, r.2)
  | 't' :: rest => (readWord "rue".toList rest).map fun r => (.bool true, r.2)
  | 'f' :: rest => (readWord "alse".toList rest).map fun r => (.bool false, r.2)
  | '-' :: rest => (readNumber true rest).map fun r => (.number r.1, r.2)
  | '"' :: rest => (readString rest).map fun r => (.string r.1, r.2)
  | c :: _ =>
    if c.isDigit then (readNumber false text).map fun r => (.number r.1, r.2)
    else stopNext .missingValue text

/-- Whether an array goes on: none at its end, else the text of its next element. -/
def nextItem (first : Bool) (text : List Char) : Except (Stop Fault) (Option (List Char)) :=
  match skipSpace text with
  | [] => .error ⟨.unfinishedList, 0⟩
  | c :: rest =>
    if c = ']' then .ok none
    else if first then .ok (some (c :: rest))
    else if c = ',' then
      match skipSpace rest with
      | [] => .error ⟨.unfinishedValue, 0⟩
      | d :: rest' =>
        if d = ']' then .error ⟨.trailingComma, bytes rest'⟩ else .ok (some (d :: rest'))
    else .error ⟨.missingListSeparator, bytes (c :: rest) - 1⟩

/-- Whether an object goes on: none at its end, else the text behind the opening quote of its next
key. -/
def nextKey (first : Bool) (text : List Char) : Except (Stop Fault) (Option (List Char)) :=
  match skipSpace text with
  | [] => .error ⟨.unfinishedObject, 0⟩
  | c :: rest =>
    if c = '\x7d' then .ok none
    else if first then
      if c = '"' then .ok (some rest) else .error ⟨.keyNotString, bytes (c :: rest) - 1⟩
    else if c = ',' then
      match skipSpace rest with
      | [] => .error ⟨.unfinishedValue, 0⟩
      | d :: rest' =>
        if d = '"' then .ok (some rest')
        else if d = '\x7d' then .error ⟨.trailingComma, bytes rest'⟩
        else .error ⟨.keyNotString, bytes (d :: rest') - 1⟩
    else .error ⟨.missingObjectSeparator, bytes (c :: rest) - 1⟩

def readColon (text : List Char) : Outcome Fault Unit :=
  match skipSpace text with
  | [] => stopAt .unfinishedObject []
  | c :: rest => if c = ':' then .ok ((), rest) else stopNext .missingColon (c :: rest)

def dropClosing (text : List Char) : List Char := (skipSpace text).drop 1

mutual

/-- Reads a value. `fuel` bounds the steps and `depth` the levels of nesting. -/
def readValue : Nat → Nat → List Char → Except (Stop Fault) (Value × List Char)
  | 0, _, text => stopAt .tooDeep text
  | fuel + 1, depth, text =>
    match skipSpace text with
    | '[' :: rest =>
      match depth with
      | 0 => stopAt .tooDeep rest
      | depth + 1 => do
        let (items, rest) ← readItems fuel depth true rest
        return (.array items, rest)
    | '\x7b' :: rest =>
      match depth with
      | 0 => stopAt .tooDeep rest
      | depth + 1 => do
        let (fields, rest) ← readFields fuel depth true rest
        return (.object fields, rest)
    | text => readScalar text

def readItems : Nat → Nat → Bool → List Char → Except (Stop Fault) (List Value × List Char)
  | 0, _, _, text => stopAt .tooDeep text
  | fuel + 1, depth, first, text => do
    match ← nextItem first text with
    | none => return ([], dropClosing text)
    | some text =>
      let (item, rest) ← readValue fuel depth text
      let (items, rest) ← readItems fuel depth false rest
      return (item :: items, rest)

def readFields : Nat → Nat → Bool → List Char →
    Except (Stop Fault) (List (String × Value) × List Char)
  | 0, _, _, text => stopAt .tooDeep text
  | fuel + 1, depth, first, text => do
    match ← nextKey first text with
    | none => return ([], dropClosing text)
    | some text =>
      let (name, rest) ← readString text
      let ((), rest) ← readColon rest
      let (value, rest) ← readValue fuel depth rest
      let (fields, rest) ← readFields fuel depth false rest
      return ((name, value) :: fields, rest)

end

/-- Steps enough for any text of this length: no step but the last leaves the text as it is. -/
def stepsFor (text : List Char) : Nat := 2 * text.length + 2

def readEnd (text : List Char) : Except (Stop Fault) Unit :=
  match skipSpace text with
  | [] => .ok ()
  | rest => .error ⟨.trailingText, bytes rest - 1⟩

def readDocument (text : List Char) : Except (Stop Fault) Value := do
  let (value, rest) ← readValue (stepsFor text) maxNesting text
  readEnd rest
  return value

/-- A place in a text: its line, and how many bytes of the line lie in front of it. -/
structure Position where
  line : Nat
  column : Nat
deriving DecidableEq

namespace Position

def advance : Position → Nat → List Char → Position
  | place, _, [] => place
  | place, count, c :: rest =>
    if count = 0 then place
    else if count < c.utf8Size then { place with column := place.column + count }
    else if c = '\n' then advance ⟨place.line + 1, 0⟩ (count - 1) rest
    else advance { place with column := place.column + c.utf8Size } (count - c.utf8Size) rest

def ofRemaining (text : List Char) (remaining : Nat) : Position :=
  advance ⟨1, 0⟩ (bytes text - remaining) text

def describe (place : Position) : String := s!"at line {place.line} column {place.column}"

end Position

structure ParseError where
  fault : Fault
  place : Position
deriving DecidableEq

def ParseError.message (e : ParseError) : String := s!"{e.fault.message} {e.place.describe}"

/-- The value that a text stands for, or why it stands for none. The fields of the value are in
order, the last of several with one name. -/
def parse (text : String) : Except ParseError Value :=
  match readDocument text.toList with
  | .ok value => .ok value.sorted
  | .error stop => .error ⟨stop.cause, .ofRemaining text.toList stop.remaining⟩

def parse? (text : String) : Option Value := (parse text).toOption

end SchemaCheck.Json
