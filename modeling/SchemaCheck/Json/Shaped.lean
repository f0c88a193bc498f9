import SchemaCheck.Json.Skip
import SchemaCheck.Shape

/-!
Reading JSON text by a shape. A record may also be written as an array of its fields in order; a
choice as an object from its name to null. Fields that are not known are passed over.
-/

namespace SchemaCheck.Json

open Shape (Misfit)

inductive ShapedCause where
  | fault (fault : Fault)
  | misfit (misfit : Misfit)

def ShapedCause.message : ShapedCause → String
  | fault f => f.message
  | misfit m => m.message

abbrev Shaped := Except (Stop ShapedCause)

def plainly {α : Type} : Except (Stop Fault) α → Shaped α
  | .ok result => .ok result
  | .error stop => .error ⟨.fault stop.cause, stop.remaining⟩

def misfitAt {α : Type} (misfit : Misfit) (rest : List Char) : Shaped α :=
  .error ⟨.misfit misfit, bytes rest⟩

def foundValue : Value → String
  | .null => "null"
  | .bool b => Shape.foundBool b
  | .number (.integer n _ _) => Shape.foundInteger n
  | .number (.real x) => Shape.foundReal (String.ofList (Decimal.Layout.json.render x))
  | .string s => Shape.foundText s
  | .array _ => "sequence"
  | .object _ => "map"

def wrongType {α : Type} (expected : String) (text : List Char) : Shaped α :=
  match text with
  | '[' :: _ => misfitAt (.wrongType "sequence" expected) text
  | '\x7b' :: _ => misfitAt (.wrongType "map" expected) text
  | _ => do
    let (value, rest) ← plainly (readScalar text)
    misfitAt (.wrongType (foundValue value) expected) rest

def takeText (expected : String) (text : List Char) : Shaped (String × List Char) :=
  match text with
  | '"' :: rest => plainly (readString rest)
  | _ => wrongType expected text

def takeFlag (text : List Char) : Shaped (Document × List Char) :=
  match text with
  | 't' :: _ | 'f' :: _ => do
    let (value, rest) ← plainly (readScalar text)
    return (.ofValue value, rest)
  | _ => wrongType Shape.flag.expected text

def takeCount (text : List Char) : Shaped (Document × List Char) :=
  if text.head?.any fun c => c == '-' || c.isDigit then do
    let (value, rest) ← plainly (readScalar text)
    match value with
    | .number (.integer n _ _) =>
      if 0 ≤ n then return (.integer n, rest)
      else misfitAt (.wrongValue (Shape.foundInteger n) Shape.count.expected) rest
    | value => misfitAt (.wrongType (foundValue value) Shape.count.expected) rest
  else wrongType Shape.count.expected text

def takeName (names : List String) (text : List Char) : Shaped (Document × List Char) := do
  let (name, rest) ← takeText (Shape.choice names).expected text
  if names.contains name then return (.text name, rest)
  else misfitAt (.unknownChoice name names) rest

def takeChoice (names : List String) (text : List Char) : Shaped (Document × List Char) :=
  match text with
  | '"' :: _ => takeName names text
  | '\x7b' :: rest => do
    let (name, rest) ← takeName names (skipSpace rest)
    let ((), rest) ← plainly (readColon rest)
    let rest ←
      match skipSpace rest with
      | 'n' :: rest => plainly ((readWord "ull".toList rest).map Prod.snd)
      | rest => wrongType "unit" rest
    match skipSpace rest with
    | '\x7d' :: rest => return (name, rest)
    | [] => .error ⟨.fault .unfinishedObject, 0⟩
    | rest => .error ⟨.fault .missingValue, bytes rest⟩
  | [] => .error ⟨.fault .unfinishedValue, 0⟩
  | _ => .error ⟨.fault .missingValue, bytes text - 1⟩

/-- The text behind a brace, which counts as passed when a record is left early. -/
def behindBrace (text : List Char) : List Char :=
  match skipSpace text with
  | '\x7d' :: rest => rest
  | rest => rest

def takeEnd (text : List Char) : Shaped (List Char) :=
  match skipSpace text with
  | ']' :: rest => .ok rest
  | [] => .error ⟨.fault .unfinishedList, 0⟩
  | ',' :: rest =>
    match skipSpace rest with
    | ']' :: rest => .error ⟨.fault .trailingComma, bytes rest⟩
    | rest => .error ⟨.fault .trailingText, bytes rest - 1⟩
  | rest => .error ⟨.fault .trailingText, bytes rest - 1⟩

mutual

/-- Reads by a shape. `fuel` bounds the steps and `depth` the levels of nesting. -/
def take : Nat → Nat → Shape → List Char → Shaped (Document × List Char)
  | 0, _, _, text => .error ⟨.fault .tooDeep, bytes text⟩
  | fuel + 1, depth, shape, text =>
    match shape, skipSpace text with
    | .flag, text => takeFlag text
    | .count, text => takeCount text
    | .text, text => do
      let (s, rest) ← takeText Shape.text.expected text
      return (.text s, rest)
    | .optional _, 'n' :: rest => do
      let ((), rest) ← plainly (readWord "ull".toList rest)
      return (.null, rest)
    | .optional shape, text => take fuel depth shape text
    | .choice names, text => takeChoice names text
    | shape, '[' :: rest =>
      match depth, shape with
      | 0, _ => .error ⟨.fault .tooDeep, bytes rest⟩
      | depth + 1, .list item => do
        let (items, rest) ← takeItems fuel depth item true rest
        return (.sequence items, rest)
      | depth + 1, .record name fields => do
        let total := s!"struct {name} with {fields.length} elements"
        let (read, rest) ← takeInOrder fuel depth total 0 fields rest
        return (.ofFieldsRead read, rest)
      | _, shape => wrongType shape.expected ('[' :: rest)
    | .record _ fields, '\x7b' :: rest =>
      match depth with
      | 0 => .error ⟨.fault .tooDeep, bytes rest⟩
      | depth + 1 => do
        let (read, rest) ← takeFields fuel depth fields true [] rest
        match Shape.missing? fields (read.map Prod.fst) with
        | some field => misfitAt (.missingField field) rest
        | none => return (.ofFieldsRead read, rest)
    | shape, text => wrongType shape.expected text

def takeItems : Nat → Nat → Shape → (first : Bool) → List Char → Shaped (List Document × List Char)
  | 0, _, _, _, text => .error ⟨.fault .tooDeep, bytes text⟩
  | fuel + 1, depth, item, first, text => do
    match ← plainly (nextItem first text) with
    | none => return ([], dropClosing text)
    | some text =>
      let (value, rest) ← take fuel depth item text
      let (items, rest) ← takeItems fuel depth item false rest
      return (value :: items, rest)

def takeInOrder : Nat → Nat → String → (index : Nat) → List (String × Shape × Bool) → List Char →
    Shaped (List (String × Document) × List Char)
  | 0, _, _, _, _, text => .error ⟨.fault .tooDeep, bytes text⟩
  | _ + 1, _, _, _, [], text => do return ([], ← takeEnd text)
  | fuel + 1, depth, total, index, (name, shape, required) :: fields, text => do
    match ← plainly (nextItem (index == 0) text) with
    | none =>
      if required then misfitAt (.tooFew index total) (dropClosing text)
      else takeInOrder fuel depth total index fields text
    | some text =>
      let (value, rest) ← take fuel depth shape text
      let (read, rest) ← takeInOrder fuel depth total (index + 1) fields rest
      return ((name, value) :: read, rest)

def takeFields : Nat → Nat → List (String × Shape × Bool) → (first : Bool) →
    List (String × Document) → List Char → Shaped (List (String × Document) × List Char)
  | 0, _, _, _, _, text => .error ⟨.fault .tooDeep, bytes text⟩
  | fuel + 1, depth, fields, first, read, text => do
    match ← plainly (nextKey first text) with
    | none => return (read, dropClosing text)
    | some text =>
      let (name, rest) ← plainly (readString text)
      match fields.lookup name with
      | none =>
        let ((), rest) ← plainly (readColon rest)
        let rest ← plainly (skipValue (stepsFor rest) rest)
        takeFields fuel depth fields false read rest
      | some (shape, _) =>
        if (read.lookup name).isSome then misfitAt (.repeatedField name) (behindBrace rest)
        else
          let ((), rest) ← plainly (readColon rest)
          let (value, rest) ← take fuel depth shape rest
          takeFields fuel depth fields false (read ++ [(name, value)]) rest

end

structure ShapedError where
  cause : ShapedCause
  place : Position

def ShapedError.message (e : ShapedError) : String := s!"{e.cause.message} {e.place.describe}"

def readShaped (shape : Shape) (text : String) : Except ShapedError Document :=
  let chars := text.toList
  let result : Shaped Document := do
    let (d, rest) ← take (stepsFor chars + 8) maxNesting shape chars
    plainly (readEnd rest)
    return d
  match result with
  | .ok d => .ok d
  | .error stop => .error ⟨stop.cause, .ofRemaining chars stop.remaining⟩

end SchemaCheck.Json
