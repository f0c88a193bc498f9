import SchemaCheck.Yaml.Mark

/-!
The tokens of a YAML text.
-/

namespace SchemaCheck.Yaml

/-- The ways to write a scalar that make a difference to what it means. -/
inductive ScalarStyle where
  | plain
  /-- A block of lines whose line breaks stand as they are. -/
  | literal
  | other
deriving DecidableEq

inductive Token.Kind where
  | version (major minor : Nat)
  | tagDirective (handle start : String)
  | documentStart
  | documentEnd
  | streamEnd
  | blockSequenceStart
  | blockMappingStart
  | blockEnd
  | flowSequenceStart
  | flowSequenceEnd
  | flowMappingStart
  | flowMappingEnd
  | blockEntry
  | flowEntry
  | key
  | value
  | anchorReference (name : String)
  | anchor (name : String)
  | tag (handle rest : String)
  | scalar (text : String) (style : ScalarStyle)
deriving DecidableEq

structure Token where
  kind : Token.Kind
  start : Mark
  stop : Mark
deriving DecidableEq

end SchemaCheck.Yaml
