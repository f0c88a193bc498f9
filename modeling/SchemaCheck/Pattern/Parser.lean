import SchemaCheck.Pattern.Class

/-!
Patterns from their notation. A text that is no pattern, one whose parts nest too deep and one
whose program grows too large stand for nothing.
-/

namespace SchemaCheck.Pattern

open Unicode (CharSet)

def nestingLimit : Nat := 250

/-- A part of a pattern, how deep its notation nests, and whether it can be repeated. -/
structure Piece where
  pattern : Pattern
  height : Nat := 0
  repeatable : Bool := true

/-- The pieces one behind the other, the last one first. -/
def Piece.sequence : List Piece → Piece
  | [] => { pattern := .empty }
  | [piece] => piece
  | pieces =>
    { pattern := cats (pieces.reverse.map Piece.pattern)
      height := 1 + greatestHeight (pieces.map Piece.height) }

def Piece.choice : List Piece → Piece
  | [] => { pattern := .empty }
  | [piece] => piece
  | pieces =>
    { pattern := alts (pieces.reverse.map Piece.pattern)
      height := 1 + greatestHeight (pieces.map Piece.height) }

section Single

def Flags.literal (flags : Flags) (c : Char) : Pattern :=
  let set := CharSet.single c.toNat
  .char (if flags.unicode ∨ c.toNat < 128 then flags.fold set else set)

def Flags.dot? (flags : Flags) : Option Pattern :=
  if !flags.unicode then none
  else if flags.dotAll then some (.char .all)
  else if flags.anyLine then some (.char (.complement (.ranges [(0x0A, 0x0A), (0x0D, 0x0D)])))
  else some (.char (.complement (.single 0x0A)))

def Flags.startLook (flags : Flags) : Look :=
  if !flags.multiLine then .textStart else if flags.anyLine then .anyLineStart else .lineStart

def Flags.endLook (flags : Flags) : Look :=
  if !flags.multiLine then .textEnd else if flags.anyLine then .anyLineEnd else .lineEnd

def readSingle (flags : Flags) : List Char → Option (Pattern × List Char)
  | [] => none
  | '\\' :: rest => do
    match ← readEscape flags rest with
    | (.literal c, rest) => return (flags.literal c, rest)
    | (.set set, rest) => return (.char set, rest)
    | (.look test, rest) => return (.look test, rest)
  | '.' :: rest => flags.dot?.map fun dot => (dot, rest)
  | '^' :: rest => some (.look flags.startLook, rest)
  | '$' :: rest => some (.look flags.endLook, rest)
  | c :: rest => some (flags.literal c, rest)

end Single

section Repetition

def countBound : Nat := twoTo 32

def readCount? (flags : Flags) (text : List Char) : Option Nat × List Char :=
  let rec digits : Nat → List Char → List Char → List Char × List Char
    | 0, found, text => (found, text)
    | fuel + 1, found, text =>
      match text with
      | c :: rest => if c.isDigit then digits fuel (c :: found) (flags.skip rest) else (found, text)
      | [] => (found, [])
  let (found, rest) := digits text.length [] (text.dropWhile Text.isBlank)
  let rest := flags.skip (rest.dropWhile Text.isBlank)
  if found.isEmpty then (none, rest)
  else
    let n := Text.numeral found.reverse
    (if n < countBound then some n else none, rest)

/-- Drops the sign that makes a repetition prefer few. -/
def dropLazy : List Char → List Char
  | '?' :: rest => rest
  | text => text

def readCounts (flags : Flags) (text : List Char) : Option ((Nat × Option Nat) × List Char) :=
  let (first, rest) := readCount? flags (flags.skip text)
  match rest with
  | '\x7d' :: rest => first.map fun n => ((n, some n), rest)
  | ',' :: rest => do
    let least ← first
    match flags.skip rest with
    | '\x7d' :: rest => return ((least, none), rest)
    | rest =>
      let (second, rest) := readCount? flags rest
      let most ← second
      match rest with
      | '\x7d' :: rest => if least ≤ most then return ((least, some most), rest) else none
      | _ => none
  | _ => none

def repeatLast (least : Nat) (most : Option Nat) : List Piece → Option (List Piece)
  | [] => none
  | piece :: rest =>
    if !piece.repeatable then none
    else some ({ pattern := .times piece.pattern least most, height := piece.height + 1 } :: rest)

end Repetition

section Groups

def Flags.set? (flags : Flags) (value : Bool) : Char → Option Flags
  | 'i' => some { flags with ignoreCase := value }
  | 'm' => some { flags with multiLine := value }
  | 's' => some { flags with dotAll := value }
  | 'U' => some { flags with swapGreed := value }
  | 'u' => some { flags with unicode := value }
  | 'R' => some { flags with anyLine := value }
  | 'x' => some { flags with verbose := value }
  | _ => none

/-- The flags that a list of letters sets in front of a minus sign and clears behind it. Nothing
may be repeated, and a letter must follow the sign. -/
def Flags.update? (seen : List Char) (value : Bool) (flags : Flags) : List Char → Option Flags
  | [] => if seen.head? = some '-' then none else some flags
  | c :: rest =>
    if seen.contains c then none
    else if c = '-' then update? (c :: seen) false flags rest
    else do
      let flags ← flags.set? value c
      update? (c :: seen) value flags rest

def isNameStart (c : Char) : Bool := c == '_' || Unicode.isAlphabetic c

def isNameChar (c : Char) : Bool :=
  c == '_' || c == '.' || c == '[' || c == ']' || Unicode.isAlphanumeric c

def readGroupName (text : List Char) : Option (List Char × List Char) :=
  match text.dropWhile (· != '>') with
  | [] => none
  | _ :: rest =>
    match text.takeWhile (· != '>') with
    | [] => none
    | c :: more => if isNameStart c && more.all isNameChar then some (c :: more, rest) else none

inductive Opening where
  /-- Flags for the rest of the enclosing group. -/
  | flags (flags : Flags)
  /-- A group under some flags. -/
  | group (flags : Flags)
  /-- A group with a name. -/
  | named (name : List Char)

def readFlags (flags : Flags) (text : List Char) : Option (Opening × List Char) :=
  let ends := fun c => c == ':' || c == ')'
  let letters := text.takeWhile (!ends ·)
  match text.dropWhile (!ends ·) with
  | [] => none
  | sign :: rest => do
    let updated ← flags.update? [] true letters
    if sign = ':' then return (.group updated, rest)
    else if letters.isEmpty then none
    else return (.flags updated, rest)

def readOpening (flags : Flags) (text : List Char) : Option (Opening × List Char) :=
  match flags.skip text with
  | '?' :: '=' :: _ | '?' :: '!' :: _ | '?' :: '<' :: '=' :: _ | '?' :: '<' :: '!' :: _ => none
  | '?' :: 'P' :: '<' :: rest | '?' :: '<' :: rest =>
    (readGroupName rest).map fun (name, rest) => (.named name, rest)
  | '?' :: rest => readFlags flags rest
  | rest => some (.group flags, rest)

end Groups

/-- What has been read of a group: the flags in force, the names that are taken, the branches that
are complete and the pieces of the last one, the last of them first. -/
structure Progress where
  flags : Flags := {}
  names : List (List Char) := []
  branches : List Piece := []
  pieces : List Piece := []

namespace Progress

def push (progress : Progress) (piece : Piece) : Progress :=
  { progress with pieces := piece :: progress.pieces }

def piece (progress : Progress) : Piece :=
  Piece.choice (Piece.sequence progress.pieces :: progress.branches)

def repeated? (progress : Progress) (least : Nat) (most : Option Nat) : Option Progress :=
  (repeatLast least most progress.pieces).map fun pieces => { progress with pieces }

def enter? (progress : Progress) : Opening → Option Progress
  | .named name =>
    if progress.names.contains name then none
    else some { flags := progress.flags, names := name :: progress.names }
  | .group flags | .flags flags => some { flags, names := progress.names }

def leave (progress inner : Progress) : Progress :=
  { progress with names := inner.names }.push
    { pattern := inner.piece.pattern, height := inner.piece.height + 1 }

end Progress

def readGroup : Nat → Progress → List Char → Option (Progress × List Char)
  | 0, _, _ => none
  | fuel + 1, progress, text =>
    match progress.flags.skip text with
    | [] => some (progress, [])
    | ')' :: rest => some (progress, ')' :: rest)
    | '(' :: rest => do
      match ← readOpening progress.flags rest with
      | (.flags flags, rest) =>
        readGroup fuel ({ progress with flags }.push { pattern := .empty, repeatable := false })
          rest
      | (opening, rest) =>
        let inner ← progress.enter? opening
        let (inner, rest) ← readGroup fuel inner rest
        match rest with
        | ')' :: rest => readGroup fuel (progress.leave inner) rest
        | _ => none
    | '|' :: rest =>
      readGroup fuel
        { progress with
          branches := Piece.sequence progress.pieces :: progress.branches
          pieces := [] } rest
    | '[' :: rest => do
      let (part, rest) ← readClass progress.flags (2 * rest.length + 2) rest
      readGroup fuel (progress.push { pattern := .char part.set, height := part.height }) rest
    | '?' :: rest => do
      let progress ← progress.repeated? 0 (some 1)
      readGroup fuel progress (dropLazy rest)
    | '*' :: rest => do
      let progress ← progress.repeated? 0 none
      readGroup fuel progress (dropLazy rest)
    | '+' :: rest => do
      let progress ← progress.repeated? 1 none
      readGroup fuel progress (dropLazy rest)
    | '\x7b' :: rest => do
      let ((least, most), rest) ← readCounts progress.flags rest
      let progress ← progress.repeated? least most
      readGroup fuel progress (dropLazy (progress.flags.skip rest))
    | text => do
      let (pattern, rest) ← readSingle progress.flags text
      readGroup fuel (progress.push { pattern }) rest

def ofText? (text : String) : Option Pattern := do
  let chars := text.toList
  let (progress, rest) ← readGroup (2 * chars.length + 2) {} chars
  let piece := progress.piece
  if rest.isEmpty && piece.height ≤ nestingLimit && piece.pattern.programSize ≤ sizeLimit then
    some piece.pattern
  else none

end SchemaCheck.Pattern
