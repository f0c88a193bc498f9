import SchemaCheck.Text.Ascii
import SchemaCheck.Text.Digits
import SchemaCheck.Yaml.Cursor
import SchemaCheck.Yaml.Token

/-!
Directives, anchors and tags.
-/

namespace SchemaCheck.Yaml

def scanAnchor (reference : Bool) (cursor : Cursor) : Except Fault (Token.Kind × Cursor) :=
  let start := cursor.mark
  let behind := cursor.skip 1
  let name := behind.span isNameChar
  let behind := behind.skip name.length
  let closed := behind.endsWord 0 || (behind.at? 0).any ("?:,]\x7d%@`".toList.contains ·)
  if name.isEmpty || !closed then
    behind.fault (if reference then "while scanning an alias" else "while scanning an anchor") start
      "did not find expected alphabetic or numeric character"
  else if reference then .ok (.anchorReference (String.ofList name), behind)
  else .ok (.anchor (String.ofList name), behind)

/-- The characters of a tag; `verbatim` is inside angle brackets. -/
def isTagChar (verbatim : Bool) (c : Char) : Bool :=
  isNameChar c || ";/?:@&=+$.%!~*'()".toList.contains c ||
    (verbatim && ",[]".toList.contains c)

/-- The number of further bytes that a first byte of a character asks for. -/
def furtherBytes? (byte : Nat) : Option Nat :=
  if byte < 0x80 then some 0
  else if 0xC0 ≤ byte ∧ byte < 0xE0 then some 1
  else if 0xE0 ≤ byte ∧ byte < 0xF0 then some 2
  else if 0xF0 ≤ byte ∧ byte < 0xF8 then some 3
  else none

def tagContext (directive : Bool) : String :=
  if directive then "while parsing a %TAG directive" else "while parsing a tag"

def scanEscapedByte (directive : Bool) (start : Mark) (cursor : Cursor) :
    Except Fault (UInt8 × Cursor) :=
  match cursor.at? 0, (cursor.at? 1).bind Text.hexDigit?, (cursor.at? 2).bind Text.hexDigit? with
  | some '%', some high, some low => .ok (.ofNat (high * 16 + low), cursor.skip 3)
  | _, _, _ => cursor.fault (tagContext directive) start "did not find URI escaped octet"

def scanFurtherBytes (directive : Bool) (start : Mark) :
    Nat → Cursor → Except Fault (List UInt8 × Cursor)
  | 0, cursor => .ok ([], cursor)
  | count + 1, cursor => do
    let (byte, behind) ← scanEscapedByte directive start cursor
    if byte.toNat / 64 ≠ 2 then
      cursor.fault (tagContext directive) start "found an incorrect trailing UTF-8 octet"
    else
      let (bytes, behind) ← scanFurtherBytes directive start count behind
      return (byte :: bytes, behind)

def scanEscape (directive : Bool) (start : Mark) (cursor : Cursor) :
    Except Fault (List UInt8 × Cursor) := do
  let (byte, behind) ← scanEscapedByte directive start cursor
  match furtherBytes? byte.toNat with
  | none => cursor.fault (tagContext directive) start "found an incorrect leading UTF-8 octet"
  | some count =>
    let (bytes, behind) ← scanFurtherBytes directive start count behind
    return (byte :: bytes, behind)

def scanTagBytes (verbatim directive : Bool) (start : Mark) :
    Nat → Cursor → Except Fault (List UInt8 × Cursor)
  | 0, cursor => .ok ([], cursor)
  | fuel + 1, cursor =>
    match cursor.at? 0 with
    | none => .ok ([], cursor)
    | some c =>
      if !isTagChar verbatim c then .ok ([], cursor)
      else do
        let (bytes, behind) ←
          if c = '%' then scanEscape directive start cursor
          else pure (String.utf8EncodeChar c, cursor.skip 1)
        let (rest, behind) ← scanTagBytes verbatim directive start fuel behind
        return (bytes ++ rest, behind)

/-- The text of bytes; bytes that are none become a mark for unreadable text. -/
def textOfBytes (bytes : List UInt8) : String :=
  (String.fromUTF8? ⟨bytes.toArray⟩).getD "\ufffd"

/-- The rest of a tag behind `head`, whose first character does not count. -/
def scanTagRest (verbatim directive : Bool) (head : List Char) (start : Mark) (cursor : Cursor) :
    Except Fault (String × Cursor) := do
  let (bytes, behind) ← scanTagBytes verbatim directive start cursor.rest.length cursor
  if head.isEmpty && bytes.isEmpty then
    behind.fault (tagContext directive) start "did not find expected tag URI"
  else return (String.ofList head.tail ++ textOfBytes bytes, behind)

/-- A handle: an exclamation mark, or a name between two of them. -/
def scanHandle (directive : Bool) (start : Mark) (cursor : Cursor) :
    Except Fault (List Char × Cursor) :=
  if !cursor.sees 0 '!' then
    cursor.fault (if directive then "while scanning a tag directive" else "while scanning a tag")
      start "did not find expected '!'"
  else
    let name := (cursor.skip 1).span isNameChar
    let behind := cursor.skip (1 + name.length)
    if behind.sees 0 '!' then .ok ('!' :: (name ++ ['!']), behind.skip 1)
    else if directive && !name.isEmpty then
      behind.fault "while parsing a tag directive" start "did not find expected '!'"
    else .ok ('!' :: name, behind)

def scanShorthand (start : Mark) (cursor : Cursor) : Except Fault ((String × String) × Cursor) := do
  let (handle, behind) ← scanHandle false start cursor
  if 2 ≤ handle.length ∧ handle.getLast? = some '!' then
    let (rest, behind) ← scanTagRest false false [] start behind
    return ((String.ofList handle, rest), behind)
  else
    let (rest, behind) ← scanTagRest false false handle start behind
    return (if rest.isEmpty then ("", "!") else ("!", rest), behind)

def scanTag (flow : Bool) (cursor : Cursor) : Except Fault (Token.Kind × Cursor) := do
  let start := cursor.mark
  let ((handle, rest), behind) ←
    if cursor.sees 1 '<' then do
      let (rest, behind) ← scanTagRest true false [] start (cursor.skip 2)
      if behind.sees 0 '>' then pure (("", rest), behind.skip 1)
      else behind.fault "while scanning a tag" start "did not find the expected '>'"
    else scanShorthand start cursor
  if (flow && behind.sees 0 ',') || behind.endsWord 0 then return (.tag handle rest, behind)
  else
    behind.fault "while scanning a tag" start "did not find expected whitespace or line break"

def scanVersionNumber (start : Mark) (cursor : Cursor) : Except Fault (Nat × Cursor) :=
  let context := "while scanning a %YAML directive"
  let digits := cursor.span Char.isDigit
  if 9 < digits.length then
    (cursor.skip 9).fault context start "found extremely long version number"
  else if digits.isEmpty then cursor.fault context start "did not find expected version number"
  else .ok (Text.numeral digits, cursor.skip digits.length)

def scanVersion (start : Mark) (cursor : Cursor) : Except Fault (Token.Kind × Cursor) := do
  let (major, behind) ← scanVersionNumber start (cursor.skipWhile isBlank)
  if !behind.sees 0 '.' then
    behind.fault "while scanning a %YAML directive" start
      "did not find expected digit or '.' character"
  else
    let (minor, behind) ← scanVersionNumber start (behind.skip 1)
    return (.version major minor, behind)

def scanTagDirective (start : Mark) (cursor : Cursor) : Except Fault (Token.Kind × Cursor) := do
  let (handle, behind) ← scanHandle true start (cursor.skipWhile isBlank)
  if !behind.seesBlank then
    behind.fault "while scanning a %TAG directive" start "did not find expected whitespace"
  else
    let (text, behind) ← scanTagRest true true [] start (behind.skipWhile isBlank)
    if behind.endsWord 0 then return (.tagDirective (String.ofList handle) text, behind)
    else
      behind.fault "while scanning a %TAG directive" start
        "did not find expected whitespace or line break"

def scanDirectiveBody (name : String) (start : Mark) (cursor : Cursor) :
    Except Fault (Token.Kind × Cursor) :=
  match name with
  | "YAML" => scanVersion start cursor
  | "TAG" => scanTagDirective start cursor
  | _ => cursor.fault "while scanning a directive" start "found unknown directive name"

/-- A directive with its mark, and the cursor on the next line. -/
def scanDirective (cursor : Cursor) : Except Fault (Token × Cursor) := do
  let start := cursor.mark
  let context := "while scanning a directive"
  let name := (cursor.skip 1).span isNameChar
  let behind := cursor.skip (1 + name.length)
  if name.isEmpty then behind.fault context start "could not find expected directive name"
  else if !behind.endsWord 0 then
    behind.fault context start "found unexpected non-alphabetical character"
  else
    let (kind, behind) ← scanDirectiveBody (String.ofList name) start behind
    let last := (behind.skipWhile isBlank).skipComment
    if last.endsLine then return (⟨kind, start, behind.mark⟩, last.skipLine)
    else last.fault context start "did not find expected comment or line break"

end SchemaCheck.Yaml
