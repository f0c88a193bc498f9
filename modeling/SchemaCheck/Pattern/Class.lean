import SchemaCheck.Pattern.Basic
import SchemaCheck.Text.Ascii
import SchemaCheck.Text.Blank
import SchemaCheck.Text.Digits
import SchemaCheck.Unicode.Name

/-!
The parts of the notation of patterns that stand for single characters: escapes, and classes in
brackets. Each reader gives what it has read and the text behind it.
-/

namespace SchemaCheck.Pattern

open Unicode (CharSet)

structure Flags where
  ignoreCase : Bool := false
  multiLine : Bool := false
  dotAll : Bool := false
  swapGreed : Bool := false
  unicode : Bool := true
  anyLine : Bool := false
  verbose : Bool := false
deriving DecidableEq

def dropComment (text : List Char) : List Char := (text.dropWhile (· != '\n')).drop 1

def dropBlanks : Nat → List Char → List Char
  | 0, text => text
  | fuel + 1, text =>
    match text.dropWhile Text.isBlank with
    | '#' :: rest => dropBlanks fuel (dropComment rest)
    | text => text

def Flags.skip (flags : Flags) (text : List Char) : List Char :=
  if flags.verbose then dropBlanks (text.length + 1) text else text

def isMeta (c : Char) : Bool := "\\.+*?()|[]\x7b\x7d^$#&-~".toList.contains c

/-- Whether a backslash may stand in front of a character that then stands for itself. -/
def isEscapable (c : Char) : Bool :=
  isMeta c || (c.toNat < 128 && !c.isAlphanum && c != '<' && c != '>')

def controlOf? : Char → Option Nat
  | 'a' => some 7
  | 'f' => some 12
  | 't' => some 9
  | 'n' => some 10
  | 'r' => some 13
  | 'v' => some 11
  | _ => none

inductive Atom where
  | literal (c : Char)
  | set (set : CharSet)
  | look (test : Look)

section Sets

/-- The set of the other characters; without Unicode that is no set of characters. -/
def Flags.negate? (flags : Flags) (negated : Bool) (set : CharSet) : Option CharSet :=
  if !negated then some set else if flags.unicode then some (.complement set) else none

def Flags.fold (flags : Flags) (set : CharSet) : CharSet :=
  if !flags.ignoreCase then set
  else if flags.unicode then .folded set
  else .inter (.folded set) (.range 0 0x7F)

def asciiDigits : CharSet := .range 0x30 0x39

def asciiWords : CharSet := .ranges [(0x30, 0x39), (0x41, 0x5A), (0x5F, 0x5F), (0x61, 0x7A)]

def asciiSpaces : CharSet := .ranges [(0x09, 0x0D), (0x20, 0x20)]

def Flags.shorthand (flags : Flags) (letter : Char) : CharSet :=
  match letter, flags.unicode with
  | 'd', true => .ranges Unicode.Category.decimalNumber
  | 'd', false => asciiDigits
  | 's', true => .ranges Unicode.PropertyTable.whiteSpace
  | 's', false => asciiSpaces
  | _, true => Unicode.Property.word
  | _, false => asciiWords

def asciiClass? : String → Option CharSet
  | "alnum" => some (.ranges [(0x30, 0x39), (0x41, 0x5A), (0x61, 0x7A)])
  | "alpha" => some (.ranges [(0x41, 0x5A), (0x61, 0x7A)])
  | "ascii" => some (.range 0 0x7F)
  | "blank" => some (.ranges [(0x09, 0x09), (0x20, 0x20)])
  | "cntrl" => some (.ranges [(0, 0x1F), (0x7F, 0x7F)])
  | "digit" => some asciiDigits
  | "graph" => some (.range 0x21 0x7E)
  | "lower" => some (.range 0x61 0x7A)
  | "print" => some (.range 0x20 0x7E)
  | "punct" => some (.ranges [(0x21, 0x2F), (0x3A, 0x40), (0x5B, 0x60), (0x7B, 0x7E)])
  | "space" => some asciiSpaces
  | "upper" => some (.range 0x41 0x5A)
  | "word" => some asciiWords
  | "xdigit" => some (.ranges [(0x30, 0x39), (0x41, 0x46), (0x61, 0x66)])
  | _ => none

end Sets

section Escapes

def charOf? (n : Nat) : Option Char := if n.isValidChar then some (Char.ofNat n) else none

def readHexDigits (flags : Flags) : Nat → Nat → List Char → Option (Nat × List Char)
  | 0, value, text => some (value, text)
  | count + 1, value, text =>
    match text with
    | [] => none
    | c :: rest => do
      let digit ← Text.hexDigit? c
      readHexDigits flags count (value * 16 + digit) (flags.skip rest)

def readHexBraces (flags : Flags) : Nat → Option Nat → List Char → Option (Nat × List Char)
  | 0, _, _ => none
  | fuel + 1, value, text =>
    match flags.skip text with
    | [] => none
    | c :: rest =>
      if c = '\x7d' then value.map fun n => (n, rest)
      else do
        let digit ← Text.hexDigit? c
        readHexBraces flags fuel (some (value.getD 0 * 16 + digit)) rest

/-- Reads the number of a character behind `\x`, `\u` or `\U`. Without Unicode, two digits stand
for a byte, which must be an ASCII character. -/
def readHex (flags : Flags) (letter : Char) (text : List Char) : Option (Char × List Char) :=
  match flags.skip text with
  | '\x7b' :: rest => do
    let (n, rest) ← readHexBraces flags (rest.length + 1) none rest
    let c ← charOf? n
    return (c, rest)
  | text => do
    let count := if letter = 'x' then 2 else if letter = 'u' then 4 else 8
    let (n, rest) ← readHexDigits flags count 0 text
    if letter = 'x' ∧ flags.unicode = false ∧ 0x80 ≤ n then none
    else
      let c ← charOf? n
      return (c, rest)

def readBraces (flags : Flags) : Nat → List Char → List Char → Option (List Char × List Char)
  | 0, _, _ => none
  | fuel + 1, name, text =>
    match flags.skip text with
    | [] => none
    | c :: rest =>
      if c = '\x7d' then some (name.reverse, rest) else readBraces flags fuel (c :: name) rest

def splitAt? (sign : List Char) : List Char → Option (List Char × List Char)
  | [] => if sign.isEmpty then some ([], []) else none
  | c :: rest =>
    if sign.isPrefixOf (c :: rest) then some ([], (c :: rest).drop sign.length)
    else (splitAt? sign rest).map fun (front, back) => (c :: front, back)

/-- The set that the name between the braces of `\p` stands for, and whether it is negated there. -/
def propertySet? (name : List Char) : Option (CharSet × Bool) :=
  match splitAt? ['!', '='] name with
  | some (property, value) => (Unicode.valuedSet? property value).map fun set => (set, true)
  | none =>
    match splitAt? [':'] name <|> splitAt? ['='] name with
    | some (property, value) => (Unicode.valuedSet? property value).map fun set => (set, false)
    | none => (Unicode.namedSet? name).map fun set => (set, false)

def readProperty (flags : Flags) (negated : Bool) (text : List Char) :
    Option (CharSet × List Char) :=
  if !flags.unicode then none
  else
    match flags.skip text with
    | [] => none
    | '\\' :: _ => none
    | '\x7b' :: rest => do
      let (name, rest) ← readBraces flags (rest.length + 1) [] rest
      let (set, inner) ← propertySet? name
      let set ← flags.negate? (negated != inner) (flags.fold set)
      return (set, rest)
    | c :: rest => do
      let set ← Unicode.namedSet? [c]
      let set ← flags.negate? negated (flags.fold set)
      return (set, rest)

def Flags.words (flags : Flags) : WordClass := if flags.unicode then .unicode else .ascii

def isBoundaryLetter (c : Char) : Bool := c.isAlpha || c == '-'

def readBoundaryName (flags : Flags) : Nat → List Char → List Char → Option (String × List Char)
  | 0, _, _ => none
  | fuel + 1, name, text =>
    match text with
    | [] => none
    | c :: rest =>
      if isBoundaryLetter c then readBoundaryName flags fuel (c :: name) (flags.skip rest)
      else if c = '\x7d' then some (String.ofList name.reverse, rest)
      else none

/-- Reads the kind of a word boundary behind `\b`; braces around something that is no name belong
to a repetition. -/
def readBoundary (flags : Flags) (text : List Char) : Option (Look × List Char) :=
  let plain := some (Look.wordBoundary flags.words, text)
  match text with
  | '\x7b' :: rest =>
    match flags.skip rest with
    | [] => none
    | c :: inner =>
      if !isBoundaryLetter c then plain
      else do
        let (name, rest) ← readBoundaryName flags (inner.length + 2) [] (c :: inner)
        match name with
        | "start" => return (.wordStart flags.words, rest)
        | "end" => return (.wordEnd flags.words, rest)
        | "start-half" => return (.wordStartHalf flags.words, rest)
        | "end-half" => return (.wordEndHalf flags.words, rest)
        | _ => none
  | _ => plain

def readEscape (flags : Flags) : List Char → Option (Atom × List Char)
  | [] => none
  | c :: rest =>
    if c.isDigit then none
    else if c = 'x' ∨ c = 'u' ∨ c = 'U' then
      (readHex flags c rest).map fun (d, rest) => (.literal d, rest)
    else if c = 'p' ∨ c = 'P' then
      (readProperty flags (c == 'P') rest).map fun (set, rest) => (.set set, rest)
    else if c = 'd' ∨ c = 's' ∨ c = 'w' then some (.set (flags.shorthand c), rest)
    else if c = 'D' ∨ c = 'S' ∨ c = 'W' then
      (flags.negate? true (flags.shorthand c.toLower)).map fun set => (.set set, rest)
    else if isEscapable c then some (.literal c, rest)
    else
      match controlOf? c with
      | some n => some (.literal (Char.ofNat n), rest)
      | none =>
        match c with
        | 'A' => some (.look .textStart, rest)
        | 'z' => some (.look .textEnd, rest)
        | 'b' => (readBoundary flags rest).map fun (test, rest) => (.look test, rest)
        | 'B' => some (.look (.noWordBoundary flags.words), rest)
        | '<' => some (.look (.wordStart flags.words), rest)
        | '>' => some (.look (.wordEnd flags.words), rest)
        | _ => none

end Escapes

section Classes

/-- A set under construction, and how deep its notation nests. -/
structure ClassPart where
  set : CharSet
  height : Nat := 0

/-- Sets that stand side by side in a class, the last one first. -/
abbrev ClassUnion := List ClassPart

def greatestHeight (heights : List Nat) : Nat := heights.foldl max 0

def ClassUnion.join : ClassUnion → ClassPart
  | [] => ⟨.empty, 0⟩
  | [part] => part
  | parts => ⟨.unions (parts.map ClassPart.set), 1 + greatestHeight (parts.map ClassPart.height)⟩

inductive ClassOperation where
  | inter
  | diff
  | symmDiff

def Flags.combine (flags : Flags) (operation : ClassOperation) (a b : ClassPart) : ClassPart :=
  let left := flags.fold a.set
  let right := flags.fold b.set
  let set :=
    match operation with
    | .inter => .inter left right
    | .diff => .diff left right
    | .symmDiff => .symmDiff left right
  ⟨set, 1 + max a.height b.height⟩

/-- The left side of an operation whose right side is being read. -/
abbrev Pending := Option (ClassPart × ClassOperation)

def Flags.finish (flags : Flags) (pending : Pending) (parts : ClassUnion) : ClassPart :=
  match pending with
  | none => parts.join
  | some (left, operation) => flags.combine operation left parts.join

def readAsciiClass (flags : Flags) (text : List Char) : Option (Option CharSet × List Char) :=
  let (negated, text) :=
    match text with
    | '^' :: rest => (true, rest)
    | text => (false, text)
  let name := text.takeWhile (· != ':')
  match text.dropWhile (· != ':') with
  | ':' :: ']' :: rest =>
    (asciiClass? (String.ofList name)).map fun set =>
      (flags.negate? negated (flags.fold set), rest)
  | _ => none

def readClassAtom (flags : Flags) : List Char → Option (Atom × List Char)
  | [] => none
  | '\\' :: rest => readEscape flags rest
  | c :: rest => some (.literal c, rest)

def Flags.classLiteral? (flags : Flags) : Atom → Option Nat
  | .literal c => if flags.unicode ∨ c.toNat < 128 then some c.toNat else none
  | _ => none

def Flags.classSet? (flags : Flags) : Atom → Option CharSet
  | .set set => some set
  | atom => (flags.classLiteral? atom).map .single

def readClassRange (flags : Flags) (text : List Char) : Option (CharSet × List Char) := do
  let (first, rest) ← readClassAtom flags text
  match flags.skip rest with
  | [] => none
  | '-' :: rest =>
    match (flags.skip rest).head? with
    | some ']' | some '-' =>
      let set ← flags.classSet? first
      return (set, '-' :: rest)
    | _ =>
      let (second, rest) ← readClassAtom flags (flags.skip rest)
      let low ← flags.classLiteral? first
      let high ← flags.classLiteral? second
      if low ≤ high then return (.range low high, rest) else none
  | rest =>
    let set ← flags.classSet? first
    return (set, rest)

def readDashes (flags : Flags) : Nat → ClassUnion → List Char → ClassUnion × List Char
  | 0, parts, text => (parts, text)
  | fuel + 1, parts, text =>
    match text with
    | '-' :: rest => readDashes flags fuel (⟨.single 0x2D, 0⟩ :: parts) (flags.skip rest)
    | text => (parts, text)

/-- Reads the start of a class behind its opening bracket: whether it is negated, and dashes or a
closing bracket that stand for themselves. -/
def readClassStart (flags : Flags) (text : List Char) : Bool × ClassUnion × List Char :=
  let (negated, text) :=
    match flags.skip text with
    | '^' :: rest => (true, flags.skip rest)
    | text => (false, text)
  let (parts, text) := readDashes flags text.length [] text
  match parts, text with
  | [], ']' :: rest => (negated, [⟨.single 0x5D, 0⟩], flags.skip rest)
  | parts, text => (negated, parts, text)

mutual

def readClass (flags : Flags) : Nat → List Char → Option (ClassPart × List Char)
  | 0, _ => none
  | fuel + 1, text => do
    let (negated, parts, text) := readClassStart flags text
    let (part, rest) ← readClassBody flags fuel none parts text
    let set ← flags.negate? negated (flags.fold part.set)
    return (⟨set, 1 + part.height⟩, rest)

def readClassBody (flags : Flags) : Nat → Pending → ClassUnion → List Char →
    Option (ClassPart × List Char)
  | 0, _, _, _ => none
  | fuel + 1, pending, parts, text =>
    match flags.skip text with
    | [] => none
    | ']' :: rest => some (flags.finish pending parts, rest)
    | '&' :: '&' :: rest =>
      readClassBody flags fuel (some (flags.finish pending parts, .inter)) [] rest
    | '-' :: '-' :: rest =>
      readClassBody flags fuel (some (flags.finish pending parts, .diff)) [] rest
    | '~' :: '~' :: rest =>
      readClassBody flags fuel (some (flags.finish pending parts, .symmDiff)) [] rest
    | '[' :: rest =>
      match readNamed flags rest with
      | some (set, rest) => do
        let set ← set
        readClassBody flags fuel pending (⟨set, 0⟩ :: parts) rest
      | none => do
        let (part, rest) ← readClass flags fuel rest
        readClassBody flags fuel pending (part :: parts) rest
    | text => do
      let (set, rest) ← readClassRange flags text
      readClassBody flags fuel pending (⟨set, 0⟩ :: parts) rest
where
  /-- Reads an ASCII class behind its opening bracket, if one stands there. -/
  readNamed (flags : Flags) : List Char → Option (Option CharSet × List Char)
    | ':' :: rest => readAsciiClass flags rest
    | _ => none

end

end Classes

end SchemaCheck.Pattern
