import SchemaCheck.Yaml.Token

/-!
The nodes of a YAML document. A document that goes wrong is kept up to the place where it does.
-/

namespace SchemaCheck.Yaml

inductive Node where
  | scalar (mark : Mark) (tag : Option String) (style : ScalarStyle) (text : String)
  | sequence (mark : Mark) (tag : Option String) (items : List Node)
  | mapping (mark : Mark) (tag : Option String) (entries : List (Node × Node))
  /-- A reference to a node with an anchor, by the number of the anchor. -/
  | reference (mark : Mark) (anchor : Nat)
  /-- The place where the document goes wrong. -/
  | cut
deriving Inhabited

namespace Node

def empty (mark : Mark) : Node := scalar mark none .plain ""

def mark : Node → Mark
  | scalar mark _ _ _ | sequence mark _ _ | mapping mark _ _ | reference mark _ => mark
  | cut => {}

mutual

/-- Whether the document goes wrong within the node. -/
def isCut : Node → Bool
  | sequence _ _ items => itemsCut items
  | mapping _ _ entries => entriesCut entries
  | cut => true
  | _ => false

def itemsCut : List Node → Bool
  | [] => false
  | item :: rest => item.isCut || itemsCut rest

def entriesCut : List (Node × Node) → Bool
  | [] => false
  | (key, value) :: rest => key.isCut || value.isCut || entriesCut rest

end

mutual

/-- The number of scalars and references and of beginnings and ends of collections. -/
def size : Node → Nat
  | sequence _ _ items => itemsSize items + 2
  | mapping _ _ entries => entriesSize entries + 2
  | cut => 0
  | _ => 1

def itemsSize : List Node → Nat
  | [] => 0
  | item :: rest => item.size + itemsSize rest

def entriesSize : List (Node × Node) → Nat
  | [] => 0
  | (key, value) :: rest => key.size + value.size + entriesSize rest

end

end Node

/-- Why a text is not the YAML text of one document. -/
inductive Problem where
  | fault (fault : Fault)
  | unknownAnchor (mark : Mark)
  | severalDocuments

def Problem.message : Problem → String
  | fault f => f.message
  | unknownAnchor mark => "unknown anchor" ++ mark.phrase
  | severalDocuments =>
    "deserializing from YAML containing more than one document is not supported"

structure Content where
  /-- The node at the root, unless the text is empty. -/
  root : Option Node
  /-- The nodes with anchors by their numbers; of several with one number the last counts. -/
  anchored : List (Nat × Node)
  problem : Option Problem

namespace Content

def target? (content : Content) (anchor : Nat) : Option Node :=
  (content.anchored.reverse.find? (·.1 == anchor)).map Prod.snd

end Content

end SchemaCheck.Yaml
