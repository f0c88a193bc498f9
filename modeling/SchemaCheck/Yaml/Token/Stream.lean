import SchemaCheck.Yaml.Token.Name
import SchemaCheck.Yaml.Token.Scalar

/-!
The tokens of a whole text. A key is known for a key only when the colon behind it is found, so the
places where one may have started are kept, and the tokens behind such a place are not settled.
-/

namespace SchemaCheck.Yaml

/-- A place where a key may have started. -/
structure PossibleKey where
  required : Bool
  /-- The number of tokens in front of it. -/
  index : Nat
  mark : Mark

structure Scanner where
  cursor : Cursor
  /-- The indentation of the block collection around, which is −1 outside of all. -/
  indent : Int := -1
  indents : List Int := []
  keyAllowed : Bool := true
  /-- A possible key of the block level and of each flow collection around, innermost first. -/
  keys : List (Option PossibleKey) := [none]
  tokens : Array Token := #[]

namespace Scanner

def inFlow (s : Scanner) : Bool := 1 < s.keys.length

def key? (s : Scanner) : Option PossibleKey := s.keys.head?.join

def withKey (key : Option PossibleKey) (s : Scanner) : Scanner :=
  { s with keys := key :: s.keys.tail }

def push (kind : Token.Kind) (start stop : Mark) (s : Scanner) : Scanner :=
  { s with tokens := s.tokens.push ⟨kind, start, stop⟩ }

/-- Puts a token that takes no room behind the first `index` ones. -/
def insert (index : Nat) (kind : Token.Kind) (mark : Mark) (s : Scanner) : Scanner :=
  { s with tokens := s.tokens.insertIdxIfInBounds index ⟨kind, mark, mark⟩ }

def take (count : Nat) (kind : Token.Kind) (s : Scanner) : Scanner :=
  let behind := s.cursor.skip count
  { s with cursor := behind, tokens := s.tokens.push ⟨kind, s.cursor.mark, behind.mark⟩ }

/-- A key must stand on one line and within 1024 characters. -/
def isStale (s : Scanner) (key : PossibleKey) : Bool :=
  key.mark.line < s.cursor.mark.line || key.mark.index + 1024 < s.cursor.mark.index

def missingColon {α : Type} (s : Scanner) (key : PossibleKey) : Except Fault α :=
  s.cursor.fault "while scanning a simple key" key.mark "could not find expected ':'"

/-- Gives up a possible key if `goes` says so; a required one cannot be given up. -/
def giveUp (s : Scanner) (goes : PossibleKey → Bool) :
    Option PossibleKey → Except Fault (Option PossibleKey)
  | none => .ok none
  | some key =>
    if !goes key then .ok (some key)
    else if key.required then s.missingColon key
    else .ok none

/-- Gives up the possible keys that are too far behind, outermost first. -/
def dropStale (s : Scanner) : Except Fault Scanner := do
  let keys ← s.keys.reverse.mapM (s.giveUp s.isStale)
  return { s with keys := keys.reverse }

def dropKey (s : Scanner) : Except Fault Scanner := do
  return s.withKey (← s.giveUp (fun _ => true) s.key?)

def saveKey (s : Scanner) : Except Fault Scanner := do
  if !s.keyAllowed then return s
  else
    let s ← s.dropKey
    return s.withKey (some
      { required := !s.inFlow && s.indent == s.cursor.mark.column
        index := s.tokens.size
        mark := s.cursor.mark })

/-- Opens a block collection if this is deeper than the one around; its first token stands behind
the first `index` ones. -/
def openBlock (column index : Nat) (kind : Token.Kind) (mark : Mark) (s : Scanner) : Scanner :=
  if !s.inFlow && s.indent < column then
    { s.insert index kind mark with indent := column, indents := s.indent :: s.indents }
  else s

def closeBlocks (column : Int) (s : Scanner) : Scanner :=
  if s.inFlow || s.indent ≤ column then s
  else
    let closed := (s.indent :: s.indents).takeWhile (column < ·)
    let left := (s.indent :: s.indents).dropWhile (column < ·)
    let mark := s.cursor.mark
    { s with
      indent := left.headD (-1)
      indents := left.tail
      tokens := closed.foldl (fun tokens _ => tokens.push ⟨.blockEnd, mark, mark⟩) s.tokens }

def skipGap : Nat → Scanner → Scanner
  | 0, s => s
  | fuel + 1, s =>
    let passes := fun c => c == ' ' || ((s.inFlow || !s.keyAllowed) && c == '\t')
    let cursor := (s.cursor.skipWhile passes).skipComment
    if cursor.seesBreak then
      skipGap fuel { s with cursor := cursor.skipLine, keyAllowed := s.keyAllowed || !s.inFlow }
    else { s with cursor }

def refuseUnless (allowed : Bool) (problem : String) (s : Scanner) : Except Fault Unit :=
  if allowed then .ok () else .error { problem, place := s.cursor.mark }

def leaveDocument (s : Scanner) : Except Fault Scanner := do
  let s ← (s.closeBlocks (-1)).dropKey
  return { s with keyAllowed := false }

def endStream (s : Scanner) : Except Fault Scanner := do
  let mark := s.cursor.mark
  let mark := if mark.column = 0 then mark else { mark with line := mark.line + 1, column := 0 }
  let s ← leaveDocument { s with cursor := { s.cursor with mark } }
  return s.push .streamEnd mark mark

def directive (s : Scanner) : Except Fault Scanner := do
  let s ← s.leaveDocument
  let (token, cursor) ← scanDirective s.cursor
  return { s with cursor, tokens := s.tokens.push token }

def separator (kind : Token.Kind) (s : Scanner) : Except Fault Scanner := do
  return (← s.leaveDocument).take 3 kind

def flowStart (kind : Token.Kind) (s : Scanner) : Except Fault Scanner := do
  let s ← s.saveKey
  return take 1 kind { s with keys := none :: s.keys, keyAllowed := true }

def flowEnd (kind : Token.Kind) (s : Scanner) : Except Fault Scanner := do
  let s ← s.dropKey
  let keys := if s.inFlow then s.keys.tail else s.keys
  return take 1 kind { s with keys, keyAllowed := false }

def flowEntry (s : Scanner) : Except Fault Scanner := do
  let s ← s.dropKey
  return take 1 .flowEntry { s with keyAllowed := true }

def openHere (kind : Token.Kind) (s : Scanner) : Scanner :=
  s.openBlock s.cursor.mark.column s.tokens.size kind s.cursor.mark

def blockEntry (s : Scanner) : Except Fault Scanner := do
  s.refuseUnless (s.inFlow || s.keyAllowed)
    "block sequence entries are not allowed in this context"
  let s ← (s.openHere .blockSequenceStart).dropKey
  return take 1 .blockEntry { s with keyAllowed := true }

def explicitKey (s : Scanner) : Except Fault Scanner := do
  s.refuseUnless (s.inFlow || s.keyAllowed) "mapping keys are not allowed in this context"
  let s ← (s.openHere .blockMappingStart).dropKey
  return take 1 .key { s with keyAllowed := !s.inFlow }

/-- A colon: what may have been a key is one. -/
def value (s : Scanner) : Except Fault Scanner := do
  match s.key? with
  | some key =>
    let s := s.insert key.index .key key.mark
    let s := s.openBlock key.mark.column key.index .blockMappingStart key.mark
    return take 1 .value { s.withKey none with keyAllowed := false }
  | none =>
    s.refuseUnless (s.inFlow || s.keyAllowed) "mapping values are not allowed in this context"
    let s := s.openHere .blockMappingStart
    return take 1 .value { s with keyAllowed := !s.inFlow }

def keyLike (scan : Cursor → Except Fault (Token.Kind × Cursor)) (s : Scanner) :
    Except Fault Scanner := do
  let s ← s.saveKey
  let (kind, cursor) ← scan s.cursor
  return { s.push kind s.cursor.mark cursor.mark with cursor, keyAllowed := false }

def quoted (single : Bool) : Scanner → Except Fault Scanner :=
  keyLike fun cursor => do
    let (text, behind) ← scanQuoted single cursor
    return (.scalar (String.ofList text) .other, behind)

def block (literal : Bool) (s : Scanner) : Except Fault Scanner := do
  let s ← s.dropKey
  let (text, cursor) ← scanBlock literal s.indent s.cursor
  let style := if literal then .literal else .other
  let s := s.push (.scalar (String.ofList text) style) s.cursor.mark cursor.mark
  return { s with cursor, keyAllowed := true }

def plain (s : Scanner) : Except Fault Scanner := do
  let s ← s.saveKey
  let scalar ← scanPlain s.inFlow (s.indent + 1).toNat s.cursor
  let s := s.push (.scalar (String.ofList scalar.text) .plain) s.cursor.mark scalar.stop
  return { s with cursor := scalar.cursor, keyAllowed := scalar.broken }

def startsPlain (s : Scanner) : Bool :=
  let next := s.cursor.at? 1
  (s.cursor.at? 0).any fun c =>
    if isBlank c || isBreak c then false
    else if c == '-' then !next.any isBlank
    else if c == '?' || c == ':' then !s.inFlow && !s.cursor.endsWord 1
    else !",[]\x7b\x7d#&*!|>'\"%@`".toList.contains c

def token (s : Scanner) : Except Fault Scanner :=
  let cursor := s.cursor
  let indicates := s.inFlow || cursor.endsWord 1
  match cursor.at? 0 with
  | none => s.endStream
  | some c =>
    if cursor.mark.column = 0 ∧ c = '%' then s.directive
    else if cursor.seesSeparator '-' then s.separator .documentStart
    else if cursor.seesSeparator '.' then s.separator .documentEnd
    else if c = '[' then s.flowStart .flowSequenceStart
    else if c = '\x7b' then s.flowStart .flowMappingStart
    else if c = ']' then s.flowEnd .flowSequenceEnd
    else if c = '\x7d' then s.flowEnd .flowMappingEnd
    else if c = ',' then s.flowEntry
    else if c = '-' ∧ cursor.endsWord 1 then s.blockEntry
    else if c = '?' ∧ indicates then s.explicitKey
    else if c = ':' ∧ indicates then s.value
    else if c = '*' then s.keyLike (scanAnchor true)
    else if c = '&' then s.keyLike (scanAnchor false)
    else if c = '!' then s.keyLike (scanTag s.inFlow)
    else if c = '|' ∧ !s.inFlow then s.block true
    else if c = '>' ∧ !s.inFlow then s.block false
    else if c = '\'' then s.quoted true
    else if c = '"' then s.quoted false
    else if s.startsPlain then s.plain
    else
      cursor.fault "while scanning for the next token" cursor.mark
        "found character that cannot start any token"

def step (s : Scanner) : Except Fault Scanner := do
  let s ← (s.skipGap (s.cursor.rest.length + 1)).dropStale
  let s ← (s.closeBlocks s.cursor.mark.column).token
  s.dropStale

/-- The number of tokens in front of every place where a key may have started. -/
def settled (s : Scanner) : Nat :=
  (s.keys.filterMap fun key => key.map PossibleKey.index).foldl min s.tokens.size

def isDone (s : Scanner) : Bool := s.tokens.back?.any (·.kind == .streamEnd)

end Scanner

/-- The tokens of a text, or those in front of a fault. -/
structure TokenStream where
  tokens : List Token
  fault : Option Fault := none

namespace TokenStream

def ofScanner : Nat → Scanner → TokenStream
  | 0, s => { tokens := s.tokens.toList }
  | fuel + 1, s =>
    match s.step with
    | .error fault => { tokens := s.tokens.toList.take s.settled, fault := some fault }
    | .ok next => if next.isDone then { tokens := next.tokens.toList } else ofScanner fuel next

/-- The number of bytes in front of a character that may not occur. -/
def forbidden? (text : List Char) : Option Nat :=
  if text.all isAllowed then none
  else some (String.ofList (text.takeWhile isAllowed)).utf8ByteSize

/-- The tokens of a text. A mark of the byte order in front of it does not count. -/
def ofText (text : List Char) : TokenStream :=
  match forbidden? text with
  | some offset =>
    { tokens := [], fault := some { problem := "control characters are not allowed", offset } }
  | none =>
    let start : Cursor := { rest := text }
    let start := if start.sees 0 '\ufeff' then start.skip 1 else start
    ofScanner (text.length + 2) { cursor := start }

end TokenStream

end SchemaCheck.Yaml
