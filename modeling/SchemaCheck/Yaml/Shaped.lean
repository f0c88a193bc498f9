import SchemaCheck.Shape
import SchemaCheck.Yaml.Node.Document

/-!
Reading YAML text by a shape. What does not fit is told with the way to it from the root and its
place in the text.
-/

namespace SchemaCheck.Yaml

open Shape (Misfit)

/-- Where something does not fit: the names on the way to it, and its place. -/
structure Site where
  path : String
  mark : Mark

namespace Site

def rootPath : String := "."

def below (path part : String) : String := if path = rootPath then part else path ++ "." ++ part

end Site

inductive ReadError where
  | problem (problem : Problem)
  | tooDeep (mark : Mark)
  | tooManyReferences
  | misfit (misfit : Misfit) (site : Option Site)

namespace ReadError

def message : ReadError → String
  | problem p => p.message
  | tooDeep mark => "recursion limit exceeded" ++ mark.phrase
  | tooManyReferences => "repetition limit exceeded"
  | misfit m none => m.message
  | misfit m (some site) =>
    (if site.path = Site.rootPath then "" else site.path ++ ": ") ++ m.message ++ site.mark.phrase

/-- Says where something does not fit, unless that is known. -/
def located (path : String) (mark : Mark) : ReadError → ReadError
  | misfit m none => misfit m (some ⟨path, mark⟩)
  | e => e

end ReadError

/-- Reading by a shape; the state is how often a reference may still be followed. -/
abbrev Shaped := StateT Nat (Except ReadError)

namespace Shaped

def misfit {α : Type} (m : Misfit) : Shaped α := throw (.misfit m none)

def locate {α : Type} (path : String) (mark : Mark) (read : Shaped α) : Shaped α := fun left =>
  match read left with
  | .ok result => .ok result
  | .error e => .error (e.located path mark)

/-- What is in the place of something else, in words; a tag may ask for what the text is not. -/
def found (tag : Option String) (style : ScalarStyle) (text : String) : String ⊕ String :=
  match Scalar.meaning tag style text with
  | .error mismatch => .inr mismatch.expected
  | .ok (.bool b) => .inl (Shape.foundBool b)
  | .ok (.integer n) =>
    .inl (Shape.foundInteger n ++
      (if Scalar.isWord n then "" else if 0 ≤ n then " as u128" else " as i128"))
  | .ok (.real x) =>
    let digits := x.display
    let whole := x.finite?.isSome && !digits.contains '.'
    .inl (Shape.foundReal (if whole then digits ++ ".0" else digits))
  | .ok (.text s) => .inl (Shape.foundText s)
  | .ok _ => .inl "unit value"

def wrongType {α : Type} (expected : String) : Node → Shaped α
  | .scalar _ tag style text =>
    match found tag style text with
    | .inl found => misfit (.wrongType found expected)
    | .inr asked => misfit (.wrongValue (Shape.foundText text) asked)
  | .sequence _ _ _ => misfit (.wrongType "sequence" expected)
  | _ => misfit (.wrongType "map" expected)

def cut {α : Type} (content : Content) : Shaped α :=
  throw (.problem (content.problem.getD .severalDocuments))

def follow (content : Content) (node : Node) : Shaped Node := do
  match node with
  | .cut => cut content
  | .reference mark anchor =>
    match ← get with
    | 0 => throw .tooManyReferences
    | left + 1 =>
      set left
      match content.target? anchor with
      | some target => return target
      | none => throw (.problem (.unknownAnchor mark))
  | node => return node

/-- Whether a scalar is read for what it means where a truth value or a number is wanted. -/
def isOpen (name : String) (tag : Option String) (style : ScalarStyle) : Bool :=
  style == .plain || (style == .literal && tag == some (Scalar.standardTag name))

def flag (node : Node) : Shaped Document :=
  match node with
  | .scalar _ tag style text =>
    match Scalar.bool? text, isOpen "bool" tag style with
    | some b, true => return .bool b
    | _, _ => wrongType Shape.flag.expected node
  | node => wrongType Shape.flag.expected node

def count (node : Node) : Shaped Document :=
  match node with
  | .scalar _ tag style text =>
    match (Scalar.natural? text.toList).filter (· < wordBound), isOpen "int" tag style with
    | some n, true => return .integer n
    | _, _ => wrongType Shape.count.expected node
  | node => wrongType Shape.count.expected node

def text (expected : String) (node : Node) : Shaped String :=
  match node with
  | .scalar _ _ _ text => return text
  | node => wrongType expected node

/-- What stands behind the tag that names a choice. -/
def nothing (node : Node) : Shaped Unit :=
  match node with
  | .scalar _ _ style text =>
    if style = .plain && (text.isEmpty || Scalar.isNull text) then return ()
    else misfit (.wrongType (Shape.foundText text) "unit")
  | node => wrongType "unit" node

def tagOf : Node → Option String
  | .scalar _ tag _ _ | .sequence _ tag _ | .mapping _ tag _ => tag
  | _ => none

/-- A choice, by its name or by a tag of that name. -/
def choice (names : List String) (node : Node) : Shaped Document := do
  match (tagOf node).filter (·.startsWith "!"), node with
  | some tag, node =>
    let name := String.ofList (tag.toList.drop 1)
    if !names.contains name then misfit (.unknownChoice name names)
    nothing node
    return .text name
  | none, .scalar _ _ _ text =>
    if names.contains text then return .text text
    else misfit (.unknownChoice text names)
  | none, node => wrongType "a YAML tag starting with '!'" node

def isAbsent (node : Node) : Shaped Bool :=
  match node with
  | .scalar _ tag style text =>
    if style ≠ .plain then return false
    else
      match tag with
      | none => return text.isEmpty || Scalar.isNull text
      | some tag =>
        if tag ≠ Scalar.standardTag "null" then return false
        else if Scalar.isNull text then return true
        else misfit (.wrongValue (Shape.foundText text) "null")
  | _ => return false

def pathPart : Node → String
  | .scalar _ _ _ text => text
  | _ => "?"

def ignore (content : Content) (node : Node) : Shaped Unit := do
  if node.isCut then cut content

def fields (content : Content) (path : String)
    (read : String → Shape → Node → Shaped Document) (known : List (String × Shape × Bool)) :
    List (String × Document) → List (Node × Node) → Shaped (List (String × Document))
  | taken, [] =>
    match Shape.missing? known (taken.map Prod.fst) with
    | some name => misfit (.missingField name)
    | none => return taken
  | taken, (key, value) :: rest => do
    let part := pathPart key
    let key ← follow content key
    let name ← locate path key.mark (text "field identifier" key)
    match known.lookup name with
    | none =>
      ignore content value
      fields content path read known taken rest
    | some (shape, _) =>
      if (taken.lookup name).isSome then misfit (.repeatedField name)
      let d ← read (Site.below path part) shape value
      fields content path read known (taken ++ [(name, d)]) rest

def items (path : String) (read : String → Node → Shaped Document) :
    Nat → List Node → Shaped (List Document)
  | _, [] => return []
  | index, node :: rest => do
    let d ← read s!"{path}[{index}]" node
    return d :: (← items path read (index + 1) rest)

/-- Whether nothing is written in the place of a collection. -/
def isBlank : Node → Bool
  | .scalar _ _ style text => style == .plain && text.isEmpty
  | _ => false

/-- Reads a node by a shape that is not optional. `depth` bounds the nesting. -/
def present (content : Content) : Nat → String → Shape → Node → Shaped Document
  | depth, path, shape, node => do
    let node ← follow content node
    locate path node.mark do
      match depth, shape, node with
      | _, .flag, node => flag node
      | _, .count, node => count node
      | _, .text, node => return .text (← text Shape.text.expected node)
      | _, .choice names, node => choice names node
      | depth + 1, .list item, .sequence _ _ nodes =>
        return .sequence (← items path (fun path => present content depth path item) 0 nodes)
      | depth + 1, .record _ known, .mapping _ _ entries =>
        let read := fun path shape node => do
          match shape with
          | .optional inner =>
            let target ← follow content node
            if ← isAbsent target then return .null else present content depth path inner target
          | shape => present content depth path shape node
        return .ofFieldsRead (← fields content path read known [] entries)
      | 0, .list _, .sequence mark _ _ => throw (.tooDeep mark)
      | 0, .record _ _, .mapping mark _ _ => throw (.tooDeep mark)
      | _, .list _, node =>
        if isBlank node then return .sequence [] else wrongType shape.expected node
      | _, .record _ _, node =>
        if isBlank node then return .mapping [] else wrongType shape.expected node
      | _, .optional _, node => wrongType shape.expected node

end Shaped

/-- Reads a whole YAML text by a shape; an empty text is a record without fields. -/
def readShaped (shape : Shape) (text : String) : Except ReadError Document := do
  let content := Content.ofText text.toList
  let d ←
    match content.root with
    | none => pure (.mapping [])
    | some root =>
      (Shaped.present content maxNesting Site.rootPath shape root).run' content.followLimit
  match content.problem with
  | some problem => throw (.problem problem)
  | none => return d

end SchemaCheck.Yaml
