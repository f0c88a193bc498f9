import SchemaCheck.Yaml.Mark

/-!
The classes of characters that matter in YAML text, and cursors: a place and the text behind it.
-/

namespace SchemaCheck.Yaml

def isBlank (c : Char) : Bool := c == ' ' || c == '\t'

def isBreak (c : Char) : Bool :=
  c == '\n' || c == '\r' || c == Char.ofNat 0x85 || c == Char.ofNat 0x2028 ||
    c == Char.ofNat 0x2029

def isNameChar (c : Char) : Bool := c.isAlphanum || c == '_' || c == '-'

/-- The characters that a YAML text may hold. -/
def isAllowed (c : Char) : Bool :=
  let n := c.toNat
  n == 9 || n == 0xA || n == 0xD || (0x20 ≤ n && n ≤ 0x7E) || n == 0x85 ||
    (0xA0 ≤ n && n ≤ 0xFFFD) || 0x10000 ≤ n

structure Cursor where
  mark : Mark := {}
  rest : List Char

namespace Cursor

def at? (k : Nat) (cursor : Cursor) : Option Char := cursor.rest[k]?

def sees (k : Nat) (c : Char) (cursor : Cursor) : Bool := cursor.at? k == some c

/-- Whether the text ends some places ahead or has a character of a class there. -/
def endsOr (p : Char → Bool) (k : Nat) (cursor : Cursor) : Bool := (cursor.at? k).all p

def seesBlank (cursor : Cursor) : Bool := (cursor.at? 0).any isBlank

def seesBreak (cursor : Cursor) : Bool := (cursor.at? 0).any isBreak

def endsLine (cursor : Cursor) : Bool := cursor.endsOr isBreak 0

def endsWord (k : Nat) (cursor : Cursor) : Bool :=
  cursor.endsOr (fun c => isBlank c || isBreak c) k

def skip (k : Nat) (cursor : Cursor) : Cursor :=
  { mark := { cursor.mark with
      index := cursor.mark.index + k
      column := cursor.mark.column + k }
    rest := cursor.rest.drop k }

/-- The place at the start of the next line, behind a line break of some characters. -/
def nextLine (k : Nat) (cursor : Cursor) : Cursor :=
  { mark := { index := cursor.mark.index + k, line := cursor.mark.line + 1, column := 0 }
    rest := cursor.rest.drop k }

def skipLine (cursor : Cursor) : Cursor :=
  match cursor.rest with
  | '\r' :: '\n' :: _ => cursor.nextLine 2
  | c :: _ => if isBreak c then cursor.nextLine 1 else cursor
  | [] => cursor

/-- The line break at this place, as it counts in a scalar. -/
def lineBreak (cursor : Cursor) : List Char :=
  match cursor.rest with
  | c :: _ =>
    if c = Char.ofNat 0x2028 ∨ c = Char.ofNat 0x2029 then [c]
    else if isBreak c then ['\n']
    else []
  | [] => []

def span (p : Char → Bool) (cursor : Cursor) : List Char := cursor.rest.takeWhile p

def skipWhile (p : Char → Bool) (cursor : Cursor) : Cursor :=
  cursor.skip (cursor.span p).length

def skipComment (cursor : Cursor) : Cursor :=
  if cursor.sees 0 '#' then cursor.skipWhile (!isBreak ·) else cursor

def seesSeparator (cursor : Cursor) (c : Char) : Bool :=
  cursor.mark.column == 0 && cursor.sees 0 c && cursor.sees 1 c && cursor.sees 2 c &&
    cursor.endsWord 3

def seesAnySeparator (cursor : Cursor) : Bool :=
  cursor.seesSeparator '-' || cursor.seesSeparator '.'

/-- A fault at this place in the course of what began at another. -/
def fault {α : Type} (cursor : Cursor) (context : String) (start : Mark) (problem : String) :
    Except Fault α :=
  .error { problem, place := cursor.mark, context := some (context, start) }

end Cursor

end SchemaCheck.Yaml
