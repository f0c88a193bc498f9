import SchemaCheck.Schema.Decode
import SchemaCheck.Yaml.Node.Document

/-!
Schemas in YAML text. Where a schema stands, tags do not count and a blank place is a schema
without rules; everything else is read for what it means.
-/

namespace SchemaCheck.Schema

open Yaml (Content Following ScalarStyle)

/-- Whether a scalar in the place of an optional schema stands for none; nothing when it is
neither that nor a blank place. -/
def absence? (tag : Option String) (style : ScalarStyle) (text : String) : Option Bool :=
  if style ≠ .plain then none
  else if tag = some (Yaml.Scalar.standardTag "null") then
    if Yaml.Scalar.isNull text then some true else none
  else if tag.isSome then if text.isEmpty then some false else none
  else if text.isEmpty || Yaml.Scalar.isNull text then some true
  else none

/-- The places of a schema's document, by what they take. -/
inductive Place where
  | schema
  | optional
  | list

def placeOf? (keyword : String) : Option Place :=
  if singleKeywords.contains keyword then some .optional
  else if listKeywords.contains keyword then some .list
  else none

def scalarInPlace? (place : Place) (tag : Option String) (style : ScalarStyle) (text : String) :
    Option Document :=
  match place with
  | .optional => (absence? tag style text).map fun absent => if absent then .null else .mapping []
  | _ => if style = .plain && text.isEmpty then some .blank else none

def documentOf (content : Content) : Nat → Place → Yaml.Node → Following Document
  | depth, place, node => do
    match depth, place, ← content.follow node with
    | _, place, .scalar _ tag style text => (scalarInPlace? place tag style text : Option Document)
    | depth + 1, .list, .sequence _ _ items =>
      return .sequence (← items.mapM (documentOf content depth .schema))
    | _, .list, .mapping _ _ _ => failure
    | depth + 1, _, .mapping _ _ entries =>
      let entries ← entries.mapM fun (key, value) => do
        let key ← content.rawKey key
        match placeOf? ((Document.text? key).getD "") with
        | some place => return (key, ← documentOf content depth place value)
        | none => return (key, ← content.documentOf false depth value)
      return .mapping entries
    | _, _, _ => failure

def ofContent? (content : Content) : Option Schema := do
  let document ←
    match content.root with
    | none => some .blank
    | some root =>
      (documentOf content Yaml.maxNesting .schema root).run' content.followLimit
  if content.problem.isSome then none else ofDocument? document

end SchemaCheck.Schema
