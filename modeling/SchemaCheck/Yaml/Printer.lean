import SchemaCheck.Json.Value
import SchemaCheck.Text.Ascii
import SchemaCheck.Yaml.Cursor
import SchemaCheck.Yaml.Scalar

/-!
Writing values as YAML text, collections as blocks. A pen knows how far it is on its line and what
stands in front of it, since that decides where blanks and line breaks are needed.
-/

namespace SchemaCheck.Yaml

open Json (Value)

inductive Writing where
  | plain
  | single
  | double
  | literal
deriving DecidableEq

namespace Writing

/-- The characters that show and may be written as they are. -/
def isPrintable (c : Char) : Bool :=
  let n := c.toNat
  n == 0xA || (0x20 ≤ n && n ≤ 0x7E) || (0xA0 ≤ n && n ≤ 0xFFFD && n != 0xFEFF) || 0x10000 ≤ n

def endsWord (text : List Char) : Bool :=
  text.head?.all fun c => isBlank c || isBreak c || c == Char.ofNat 0

/-- Whether some place of a text, with what is in front of it and behind it, has a property. -/
def anyPlace (p : List Char → List Char → Bool) : List Char → List Char → Bool
  | before, [] => p before []
  | before, c :: rest => p before (c :: rest) || anyPlace p (c :: before) rest

/-- Whether a character at its place would be taken for more than a part of a text. -/
def indicates (before rest : List Char) : Bool :=
  match rest with
  | [] => false
  | c :: behind =>
    if before.isEmpty then
      "#,[]\x7b\x7d&*!|>'\"%@`".toList.contains c ||
        ((c == '?' || c == ':' || c == '-') && endsWord behind)
    else (c == ':' && endsWord behind) || (c == '#' && endsWord before)

/-- Whether a line of three hyphens or points could be read for the end of a document. -/
def separates (text : List Char) : Bool :=
  "---".toList.isPrefixOf text || "...".toList.isPrefixOf text

def hasPair (p q : Char → Bool) (text : List Char) : Bool :=
  (text.zip text.tail).any fun (c, d) => p c && q d

def isBroken (text : List Char) : Bool := text.any isBreak

def isOuter (c : Char) : Bool := c == ' ' || isBreak c

/-- Whether characters or blanks at the end of lines can only be written in double quotes. -/
def needsDouble (text : List Char) : Bool :=
  text.any (!isPrintable ·) || hasPair (· == ' ') isBreak text

def allowsPlain (text : List Char) : Bool :=
  !(needsDouble text || isBroken text || text.head?.any isOuter || text.getLast?.any isOuter ||
    separates text || anyPlace indicates [] text)

def allowsSingle (text : List Char) : Bool := !(needsDouble text || hasPair isBreak (· == ' ') text)

def allowsLiteral (text : List Char) : Bool :=
  !(text.isEmpty || needsDouble text || text.getLast? == some ' ')

/-- Whether a plain scalar of this text would not be a text. -/
def isMistakable (text : String) : Bool :=
  match Scalar.plain text with
  | .text _ => Scalar.isPadded text.toList
  | _ => true

/-- The first of plain and single quotes that a text allows, else double quotes. -/
def quietest (text : List Char) : Writing :=
  if allowsPlain text then plain else if allowsSingle text then single else double

def ofText (text : String) : Writing :=
  let chars := text.toList
  if chars.contains '\n' then if allowsLiteral chars then literal else double
  else if isMistakable text then if allowsSingle chars then single else double
  else quietest chars

end Writing

structure Pen where
  /-- What has been written, last character first. -/
  written : List Char := []
  column : Nat := 0
  /-- Whether what is written next needs no blank in front. -/
  spaced : Bool := true
  /-- Whether there is nothing but indentation on the line. -/
  indenting : Bool := true

namespace Pen

def put (c : Char) (pen : Pen) : Pen :=
  { pen with written := c :: pen.written, column := pen.column + 1 }

def puts (text : List Char) (pen : Pen) : Pen := text.foldl (fun pen c => pen.put c) pen

def breakLine (c : Char) (pen : Pen) : Pen := { pen with written := c :: pen.written, column := 0 }

/-- Writes a sign, with a blank in front if it asks for one. -/
def sign (text : String) (asksBlank keepsIndenting : Bool) (pen : Pen) : Pen :=
  let pen := if asksBlank && !pen.spaced then pen.put ' ' else pen
  { pen.puts text.toList with spaced := false, indenting := pen.indenting && keepsIndenting }

/-- Goes to a column, on a new line unless nothing is in the way. -/
def goTo (indent : Nat) (pen : Pen) : Pen :=
  let stays := pen.indenting && (pen.column < indent || (pen.column == indent && pen.spaced))
  let pen := if stays then pen else pen.breakLine '\n'
  { pen.puts (List.replicate (indent - pen.column) ' ') with spaced := true, indenting := true }

def leave (pen : Pen) : Pen := { pen with spaced := false, indenting := false }

def plain (text : List Char) (pen : Pen) : Pen :=
  let pen := if !pen.spaced && !text.isEmpty then pen.put ' ' else pen
  (pen.puts text).leave

/-- The characters of a scalar in single quotes; `broken` tells that a line has just started. -/
def singleChars (indent : Nat) : (broken : Bool) → List Char → Pen → Pen
  | broken, [], pen => if broken then pen.goTo indent else pen
  | broken, c :: rest, pen =>
    if isBreak c then
      let pen := if !broken && c == '\n' then pen.breakLine '\n' else pen
      singleChars indent true rest { pen.breakLine c with indenting := true }
    else if c = ' ' then singleChars indent broken rest (pen.put c)
    else
      let pen := if broken then pen.goTo indent else pen
      let pen := if c = '\'' then pen.put '\'' else pen
      singleChars indent false rest { pen.put c with indenting := false }

def single (indent : Nat) (text : List Char) (pen : Pen) : Pen :=
  ((singleChars indent false text (pen.sign "'" true false)).sign "'" false false).leave

def escapeLetter? (c : Char) : Option Char :=
  match c.toNat with
  | 0 => some '0'
  | 0x7 => some 'a'
  | 0x8 => some 'b'
  | 0x9 => some 't'
  | 0xA => some 'n'
  | 0xB => some 'v'
  | 0xC => some 'f'
  | 0xD => some 'r'
  | 0x1B => some 'e'
  | 0x22 => some '"'
  | 0x5C => some '\\'
  | 0x85 => some 'N'
  | 0xA0 => some '_'
  | 0x2028 => some 'L'
  | 0x2029 => some 'P'
  | _ => none

def hexadecimal (width n : Nat) : List Char :=
  let digits := (Text.hexDigitsOf n).map Char.toUpper
  List.replicate (width - digits.length) '0' ++ digits

def doubleChar (c : Char) : List Char :=
  if Writing.isPrintable c && !isBreak c && c != '"' && c != '\\' then [c]
  else
    match escapeLetter? c with
    | some letter => ['\\', letter]
    | none =>
      let n := c.toNat
      if n ≤ 0xFF then '\\' :: 'x' :: hexadecimal 2 n
      else if n ≤ 0xFFFF then '\\' :: 'u' :: hexadecimal 4 n
      else '\\' :: 'U' :: hexadecimal 8 n

def double (text : List Char) (pen : Pen) : Pen :=
  (((pen.sign "\"" true false).puts (text.flatMap doubleChar)).sign "\"" false false).leave

/-- What the header of a block says about blanks in front and line breaks at the end. -/
def literalHints (text : List Char) : String :=
  let indentation := if text.head?.any Writing.isOuter then "2" else ""
  let chomping :=
    match text.reverse with
    | c :: rest =>
      if !isBreak c then "-"
      else if rest.head?.all isBreak then "+"
      else ""
    | [] => "-"
  indentation ++ chomping

def literalChars (indent : Nat) : (broken : Bool) → List Char → Pen → Pen
  | _, [], pen => pen
  | broken, c :: rest, pen =>
    if isBreak c then literalChars indent true rest { pen.breakLine c with indenting := true }
    else
      let pen := if broken then pen.goTo indent else pen
      literalChars indent false rest { pen.put c with indenting := false }

def literal (indent : Nat) (text : List Char) (pen : Pen) : Pen :=
  let pen := ((pen.sign "|" true false).sign (literalHints text) false false).breakLine '\n'
  literalChars indent true text { pen with spaced := true, indenting := true }

/-- A text as a scalar; its further lines stand in the column `indent`. -/
def text (indent : Nat) (s : String) (pen : Pen) : Pen :=
  match Writing.ofText s with
  | .plain => pen.plain s.toList
  | .single => pen.single indent s.toList
  | .double => pen.double s.toList
  | .literal => pen.literal indent s.toList

/-- The column of the parts of a collection within one at `indent`, or outside of all. -/
def within (indent : Option Nat) : Nat :=
  match indent with
  | some n => n + 2
  | none => 0

def withinScalar (indent : Option Nat) : Nat := (indent.getD 0) + 2

/-- Whether a key fits on the line of its value: one line of at most 128 bytes. -/
def isSimpleKey (key : String) : Bool := !Writing.isBroken key.toList && key.utf8ByteSize ≤ 128

def key (indent : Nat) (name : String) (pen : Pen) : Pen :=
  let pen := pen.goTo indent
  if isSimpleKey name then (pen.text (indent + 2) name).sign ":" false false
  else (((pen.sign "?" true true).text (indent + 2) name).goTo indent).sign ":" true true

mutual

/-- A value within a collection at `indent`. A sequence that is the value of a key on the same line
is not indented. -/
def value (indent : Option Nat) (ofKey : Bool) : Value → Pen → Pen
  | .null, pen => pen.plain "null".toList
  | .bool b, pen => pen.plain (if b then "true" else "false").toList
  | .number (.integer n _ _), pen => pen.plain (Text.decimal n)
  | .number (.real x), pen => pen.plain (Decimal.Layout.yaml.render x)
  | .string s, pen => pen.text (withinScalar indent) s
  | .array [], pen => (pen.sign "[" true false).sign "]" false false
  | .object [], pen => (pen.sign "\x7b" true false).sign "\x7d" false false
  | .array (item :: rest), pen =>
    let inner := if ofKey && !pen.indenting then indent.getD 0 else within indent
    items inner (item :: rest) pen
  | .object (field :: rest), pen => fields (within indent) (field :: rest) pen

def items (indent : Nat) : List Value → Pen → Pen
  | [], pen => pen
  | item :: rest, pen =>
    items indent rest (value (some indent) false item ((pen.goTo indent).sign "-" true true))

def fields (indent : Nat) : List (String × Value) → Pen → Pen
  | [], pen => pen
  | (name, content) :: rest, pen =>
    fields indent rest (value (some indent) true content (pen.key indent name))

end

end Pen

def print (v : Value) : String :=
  String.ofList ((Pen.value none false v {}).goTo 0).written.reverse

end SchemaCheck.Yaml
