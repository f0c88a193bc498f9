import SchemaCheck.Text.Ascii
import SchemaCheck.Text.Digits
import SchemaCheck.Yaml.Cursor
import SchemaCheck.Yaml.Token

/-!
Scalars: plain ones, quoted ones, and blocks of lines. Line breaks within a scalar are folded: a
single one counts as a blank, and of several the first does not count.
-/

namespace SchemaCheck.Yaml

section Gaps

/-- What stands between two words of a scalar: blanks, or else line breaks with blanks around. -/
structure Gap where
  blanks : List Char := []
  broken : Bool := false
  first : List Char := []
  others : List Char := []

namespace Gap

/-- The text that a gap counts as. -/
def text (gap : Gap) : List Char :=
  if gap.broken then
    if gap.first = ['\n'] then if gap.others.isEmpty then [' '] else gap.others
    else gap.first ++ gap.others
  else gap.blanks

def addBlank (gap : Gap) (c : Char) : Gap :=
  if gap.broken then gap else { gap with blanks := gap.blanks ++ [c] }

def addBreak (gap : Gap) (text : List Char) : Gap :=
  if gap.broken then { gap with others := gap.others ++ text }
  else { blanks := [], broken := true, first := text, others := [] }

end Gap

/-- The rest of a gap; `isBad` tells where a tab may not stand. -/
def scanGap (isBad : Cursor → Bool) (start : Mark) :
    Nat → Gap → Cursor → Except Fault (Gap × Cursor)
  | 0, gap, cursor => .ok (gap, cursor)
  | fuel + 1, gap, cursor =>
    match cursor.at? 0 with
    | none => .ok (gap, cursor)
    | some c =>
      if isBlank c then
        if gap.broken && c == '\t' && isBad cursor then
          cursor.fault "while scanning a plain scalar" start
            "found a tab character that violates indentation"
        else scanGap isBad start fuel (gap.addBlank c) (cursor.skip 1)
      else if isBreak c then
        scanGap isBad start fuel (gap.addBreak cursor.lineBreak) cursor.skipLine
      else .ok (gap, cursor)

end Gaps

section Plain

def endsPlain (flow : Bool) (cursor : Cursor) : Bool :=
  (cursor.sees 0 ':' && cursor.endsWord 1) ||
    (flow && (cursor.at? 0).any (",[]\x7b\x7d".toList.contains ·))

/-- Whether there is a colon that may not stand in a flow collection. -/
def isStrayColon (flow : Bool) (cursor : Cursor) : Bool :=
  flow && cursor.sees 0 ':' && (cursor.at? 1).any (",?[]\x7b\x7d".toList.contains ·)

def scanPlainWord (flow : Bool) (start : Mark) :
    Nat → Cursor → Except Fault (List Char × Cursor)
  | 0, cursor => .ok ([], cursor)
  | fuel + 1, cursor =>
    match cursor.at? 0 with
    | none => .ok ([], cursor)
    | some c =>
      if isBlank c || isBreak c then .ok ([], cursor)
      else if isStrayColon flow cursor then
        cursor.fault "while scanning a plain scalar" start "found unexpected ':'"
      else if endsPlain flow cursor then .ok ([], cursor)
      else do
        let (word, behind) ← scanPlainWord flow start fuel (cursor.skip 1)
        return (c :: word, behind)

/-- A plain scalar that has been read: its text, where it stops, whether a line break has been
passed behind it, and the cursor. -/
structure Plain where
  text : List Char
  stop : Mark
  broken : Bool
  cursor : Cursor

/-- The words of a plain scalar; a continuation is indented by at least `indent`. -/
def scanPlainWords (flow : Bool) (indent : Nat) (start : Mark) :
    Nat → Gap → Plain → Except Fault Plain
  | 0, _, plain => .ok plain
  | fuel + 1, gap, plain =>
    let cursor := plain.cursor
    if cursor.seesAnySeparator || cursor.sees 0 '#' then .ok plain
    else do
      let (word, behind) ← scanPlainWord flow start cursor.rest.length cursor
      let plain :=
        if word.isEmpty then plain
        else
          { text := plain.text ++ gap.text ++ word
            stop := behind.mark
            broken := false
            cursor := behind }
      if !(behind.seesBlank || behind.seesBreak) then return plain
      else
        let isBad := fun c : Cursor => c.mark.column < indent
        let gap := if word.isEmpty then gap else {}
        let (gap, behind) ← scanGap isBad start behind.rest.length gap behind
        let plain := { plain with broken := gap.broken, cursor := behind }
        if !flow && behind.mark.column < indent then return plain
        else scanPlainWords flow indent start fuel gap plain

def scanPlain (flow : Bool) (indent : Nat) (cursor : Cursor) : Except Fault Plain :=
  scanPlainWords flow indent cursor.mark (cursor.rest.length + 1) {}
    { text := [], stop := cursor.mark, broken := false, cursor }

end Plain

section Quoted

def escaped? (c : Char) : Option Char :=
  match c with
  | '0' => some (Char.ofNat 0)
  | 'a' => some (Char.ofNat 7)
  | 'b' => some (Char.ofNat 8)
  | 't' | '\t' => some '\t'
  | 'n' => some '\n'
  | 'v' => some (Char.ofNat 0xB)
  | 'f' => some (Char.ofNat 0xC)
  | 'r' => some '\r'
  | 'e' => some (Char.ofNat 0x1B)
  | ' ' => some ' '
  | '"' => some '"'
  | '/' => some '/'
  | '\\' => some '\\'
  | 'N' => some (Char.ofNat 0x85)
  | '_' => some (Char.ofNat 0xA0)
  | 'L' => some (Char.ofNat 0x2028)
  | 'P' => some (Char.ofNat 0x2029)
  | _ => none

def escapeDigits? (c : Char) : Option Nat :=
  match c with
  | 'x' => some 2
  | 'u' => some 4
  | 'U' => some 8
  | _ => none

def scanNumbered (count : Nat) (start : Mark) (cursor : Cursor) : Except Fault (Char × Cursor) :=
  let context := "while parsing a quoted scalar"
  let digits := cursor.rest.take count
  if digits.length < count || !digits.all Text.isHexDigit then
    cursor.fault context start "did not find expected hexdecimal number"
  else
    let n := (Text.hexNumeral? digits).getD 0
    if (0xD800 ≤ n && n ≤ 0xDFFF) || 0x10FFFF < n then
      cursor.fault context start "found invalid Unicode character escape code"
    else .ok (Char.ofNat n, cursor.skip count)

def scanEscaped (start : Mark) (cursor : Cursor) : Except Fault (Char × Cursor) :=
  let letter := (cursor.at? 1).getD 'z'
  match escaped? letter, escapeDigits? letter with
  | some c, _ => .ok (c, cursor.skip 2)
  | none, some count => scanNumbered count start (cursor.skip 2)
  | none, none =>
    cursor.fault "while parsing a quoted scalar" start "found unknown escape character"

/-- A word of a quoted scalar, and whether it ends in an escaped line break. -/
def scanQuotedWord (single : Bool) (start : Mark) :
    Nat → Cursor → Except Fault (List Char × Bool × Cursor)
  | 0, cursor => .ok ([], false, cursor)
  | fuel + 1, cursor =>
    match cursor.at? 0 with
    | none => .ok ([], false, cursor)
    | some c =>
      if isBlank c || isBreak c then .ok ([], false, cursor)
      else if single && c == '\'' && cursor.sees 1 '\'' then do
        let (word, ending) ← scanQuotedWord single start fuel (cursor.skip 2)
        return ('\'' :: word, ending)
      else if c == (if single then '\'' else '"') then .ok ([], false, cursor)
      else if !single && c == '\\' then
        if (cursor.at? 1).any isBreak then .ok ([], true, (cursor.skip 1).skipLine)
        else do
          let (c, behind) ← scanEscaped start cursor
          let (word, ending) ← scanQuotedWord single start fuel behind
          return (c :: word, ending)
      else do
        let (word, ending) ← scanQuotedWord single start fuel (cursor.skip 1)
        return (c :: word, ending)

def scanQuotedWords (single : Bool) (start : Mark) :
    Nat → Cursor → Except Fault (List Char × Cursor)
  | 0, cursor => .ok ([], cursor)
  | fuel + 1, cursor =>
    let context := "while scanning a quoted scalar"
    if cursor.seesAnySeparator then
      cursor.fault context start "found unexpected document indicator"
    else if cursor.rest.isEmpty then
      cursor.fault context start "found unexpected end of stream"
    else do
      let (word, escapedBreak, behind) ← scanQuotedWord single start cursor.rest.length cursor
      if !escapedBreak && behind.sees 0 (if single then '\'' else '"') then
        return (word, behind.skip 1)
      else
        let gap : Gap := { broken := escapedBreak }
        if escapedBreak && behind.sees 0 (if single then '\'' else '"') then
          return (word ++ gap.text, behind.skip 1)
        else
          let (gap, behind) ← scanGap (fun _ => false) start behind.rest.length gap behind
          let (rest, behind) ← scanQuotedWords single start fuel behind
          return (word ++ gap.text ++ rest, behind)

def scanQuoted (single : Bool) (cursor : Cursor) : Except Fault (List Char × Cursor) :=
  scanQuotedWords single cursor.mark (cursor.rest.length + 1) (cursor.skip 1)

end Quoted

section Blocks

/-- What happens to the line breaks at the end of a block. -/
inductive Chomping where
  | strip
  | clip
  | keep
deriving DecidableEq

structure BlockHeader where
  literal : Bool
  chomping : Chomping := .clip
  /-- The indentation beyond that of its parent. -/
  increment : Option Nat := none

def chompingOf? (c : Char) : Option Chomping :=
  match c with
  | '+' => some .keep
  | '-' => some .strip
  | _ => none

def scanIncrement (start : Mark) (cursor : Cursor) : Except Fault (Option Nat × Cursor) :=
  match cursor.at? 0 with
  | some c =>
    if c = '0' then
      cursor.fault "while scanning a block scalar" start
        "found an indentation indicator equal to 0"
    else if c.isDigit then .ok (some (c.toNat - '0'.toNat), cursor.skip 1)
    else .ok (none, cursor)
  | none => .ok (none, cursor)

/-- The indicators behind the first one, in either order. -/
def scanBlockHeader (literal : Bool) (start : Mark) (cursor : Cursor) :
    Except Fault (BlockHeader × Cursor) := do
  match (cursor.at? 0).bind chompingOf? with
  | some chomping =>
    let (increment, behind) ← scanIncrement start (cursor.skip 1)
    return ({ literal, chomping, increment }, behind)
  | none =>
    let (increment, behind) ← scanIncrement start cursor
    match increment, (behind.at? 0).bind chompingOf? with
    | some _, some chomping => return ({ literal, chomping, increment }, behind.skip 1)
    | _, _ => return ({ literal, increment }, behind)

/-- Passes over indentation and empty lines. Gives the line breaks and the largest indentation that
has been seen; no `indent` means that it is still to be found. -/
def scanBlockBreaks (indent : Option Nat) (start : Mark) :
    Nat → Nat → Cursor → Except Fault (List Char × Nat × Cursor)
  | 0, most, cursor => .ok ([], most, cursor)
  | fuel + 1, most, cursor =>
    let spaces := (cursor.span (· == ' ')).length
    let room := match indent with
      | some n => min spaces (n - cursor.mark.column)
      | none => spaces
    let behind := cursor.skip room
    let most := max most behind.mark.column
    if indent.all (behind.mark.column < ·) && behind.sees 0 '\t' then
      behind.fault "while scanning a block scalar" start
        "found a tab character where an indentation space is expected"
    else if behind.seesBreak then do
      let (breaks, most, last) ← scanBlockBreaks indent start fuel most behind.skipLine
      return (behind.lineBreak ++ breaks, most, last)
    else .ok ([], most, behind)

/-- Lines of a block that have been read, with the line breaks at the end apart. -/
structure BlockLines where
  text : List Char
  lastBreak : List Char
  others : List Char
  cursor : Cursor

/-- How the line breaks in front of a line count. -/
def foldBreaks (literal : Bool) (first others : List Char) (nextToBlank : Bool) : List Char :=
  if !literal && first == ['\n'] && !nextToBlank then
    if others.isEmpty then [' '] else others
  else first ++ others

def scanBlockLines (literal : Bool) (indent : Nat) (start : Mark) :
    Nat → Bool → BlockLines → Except Fault BlockLines
  | 0, _, lines => .ok lines
  | fuel + 1, behindBlank, lines =>
    let cursor := lines.cursor
    if cursor.mark.column ≠ indent ∨ cursor.rest.isEmpty then .ok lines
    else do
      let blank := cursor.seesBlank
      let folded := foldBreaks literal lines.lastBreak lines.others (behindBlank || blank)
      let line := cursor.span (!isBreak ·)
      let behind := cursor.skip line.length
      let lastBreak := behind.lineBreak
      let behind := behind.skipLine
      let (others, _, behind) ←
        scanBlockBreaks (some indent) start (behind.rest.length + 1) 0 behind
      scanBlockLines literal indent start fuel blank
        { text := lines.text ++ folded ++ line, lastBreak, others, cursor := behind }

/-- A block; `parent` is the indentation around it. -/
def scanBlock (literal : Bool) (parent : Int) (cursor : Cursor) :
    Except Fault (List Char × Cursor) := do
  let start := cursor.mark
  let (header, behind) ← scanBlockHeader literal start (cursor.skip 1)
  let behind := (behind.skipWhile isBlank).skipComment
  if !behind.endsLine then
    behind.fault "while scanning a block scalar" start "did not find expected comment or line break"
  else
    let behind := behind.skipLine
    let given := header.increment.map fun n => parent.toNat + n
    let (others, most, behind) ←
      scanBlockBreaks given start (behind.rest.length + 1) 0 behind
    let indent := given.getD (max (max most (parent + 1).toNat) 1)
    let lines ← scanBlockLines literal indent start (behind.rest.length + 1) false
      { text := [], lastBreak := [], others, cursor := behind }
    let tail := match header.chomping with
      | .strip => []
      | .clip => lines.lastBreak
      | .keep => lines.lastBreak ++ lines.others
    return (lines.text ++ tail, lines.cursor)

end Blocks

end SchemaCheck.Yaml
