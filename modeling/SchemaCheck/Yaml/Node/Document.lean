import SchemaCheck.Yaml.Node.Reader
import SchemaCheck.Yaml.Scalar

/-!
Documents from nodes. References are followed; that they are followed at most a hundred times for
each part of the text, and that collections nest at most 128 deep, makes this end.
-/

namespace SchemaCheck.Yaml

def maxNesting : Nat := 128

def Content.followLimit (content : Content) : Nat :=
  match content.root with
  | some root => root.size * 100
  | none => 100

/-- Work on nodes that may fail; the state is how often a reference may still be followed. -/
abbrev Following := StateT Nat Option

namespace Content

def follow (content : Content) (node : Node) : Following Node := do
  match node with
  | .reference _ anchor =>
    match ← get with
    | 0 => failure
    | left + 1 =>
      set left
      match content.target? anchor with
      | some target => return target
      | none => failure
  | node => return node

/-- Whether a tag asks for something that only the reader knows about. -/
def isForeign (tag : Option String) : Bool := tag.any (·.startsWith "!")

def rawKey (content : Content) (node : Node) : Following Document := do
  match ← content.follow node with
  | .scalar _ _ _ text => return .text text
  | _ => failure

/-- The document of a node. Integers must fit into a word. `rawKeys` takes keys as they are written
and not for what they mean. -/
def documentOf (content : Content) (rawKeys : Bool) : Nat → Node → Following Document
  | depth, node => do
    match depth, ← content.follow node with
    | _, .scalar _ tag style text =>
      if isForeign tag then failure
      else
        match Scalar.meaning tag style text with
        | .ok (.integer n) => if Scalar.isWord n then return .integer n else failure
        | .ok d => return d
        | .error _ => failure
    | depth + 1, .sequence _ tag items =>
      if isForeign tag then failure
      else return .sequence (← items.mapM (content.documentOf rawKeys depth))
    | depth + 1, .mapping _ tag entries =>
      if isForeign tag then failure
      else
        let read := content.documentOf rawKeys depth
        let entries ← entries.mapM fun (key, value) => do
          let key ← if rawKeys then content.rawKey key else read key
          return (key, ← read value)
        return .mapping entries
    | _, _ => failure

/-- The JSON value of a text of one document; keys count as they are written. -/
def value? (content : Content) : Option Json.Value :=
  if content.problem.isSome then none
  else
    match content.root with
    | none => some .null
    | some root => do
      let d ← (content.documentOf true maxNesting root).run' content.followLimit
      d.toValue?

end Content

end SchemaCheck.Yaml
