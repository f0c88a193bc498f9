import SchemaCheck.Json.Printer
import SchemaCheck.Json.Shaped
import SchemaCheck.Validation.Settings
import SchemaCheck.Yaml.Printer
import SchemaCheck.Yaml.Shaped

/-!
The settings of the program, as they are kept in a file: JSON text, or YAML text if the name of the
file says so. What a file leaves out keeps its default.
-/

namespace SchemaCheck

open Json (Value)

structure OutputSettings where
  format : String := "human"
  color : Bool := true
  progress : Bool := true
deriving DecidableEq

structure LogSettings where
  level : Option String := none
  format : Option String := none
deriving DecidableEq

structure Settings where
  engine : Engine := .default
  validation : ValidationSettings := {}
  output : OutputSettings := {}
  logging : LogSettings := {}
deriving DecidableEq

namespace LogSettings

def shape : Shape :=
  .record "LogSettings"
    [("level", .optional .text, false), ("format", .optional .text, false)]

def ofDocument (d : Document) : LogSettings where
  level := (d.field? "level").bind Document.text?
  format := (d.field? "format").bind Document.text?

/-- The settings as a value; what is not set is left out. -/
def toValue (settings : LogSettings) : Value :=
  let field := fun name (text : Option String) => text.toList.map fun t => (name, Value.string t)
  .object (field "level" settings.level ++ field "format" settings.format)

end LogSettings

namespace OutputSettings

def shape : Shape :=
  .record "OutputSettings"
    [("format", .text, false), ("color", .flag, false), ("progress", .flag, false)]

def ofDocument (d : Document) : OutputSettings :=
  let default : OutputSettings := {}
  { format := ((d.field? "format").bind Document.text?).getD default.format
    color := ((d.field? "color").bind Document.flag?).getD default.color
    progress := ((d.field? "progress").bind Document.flag?).getD default.progress }

def toValue (settings : OutputSettings) : Value :=
  .object
    [("format", .string settings.format), ("color", .bool settings.color),
      ("progress", .bool settings.progress)]

end OutputSettings

namespace Settings

def validationShape : Shape :=
  .record "ValidationSettings"
    [("engine", .choice (Engine.all.map Engine.name), false), ("coerce", .flag, false),
      ("max_depth", .count, false)]

def shape : Shape :=
  .record "Config"
    [("validation", validationShape, false), ("output", OutputSettings.shape, false),
      ("logging", LogSettings.shape, false)]

def part (name : String) (d : Document) : Document := (d.field? name).getD (.mapping [])

def ofDocument (d : Document) : Settings :=
  let validation := part "validation" d
  let default : ValidationSettings := {}
  { engine :=
      (((validation.field? "engine").bind Document.text?).bind Engine.ofKeyword?).getD .default
    validation :=
      { coerce := ((validation.field? "coerce").bind Document.flag?).getD default.coerce
        maxDepth := ((validation.field? "max_depth").bind Document.natural?).getD default.maxDepth }
    output := .ofDocument (part "output" d)
    logging := .ofDocument (part "logging" d) }

def toValue (settings : Settings) : Value :=
  .object
    [("validation",
        .object
          [("engine", .string settings.engine.name), ("coerce", .bool settings.validation.coerce),
            ("max_depth", .ofNat settings.validation.maxDepth)]),
      ("output", settings.output.toValue), ("logging", settings.logging.toValue)]

def ofJson (text : String) : Except Json.ShapedError Settings :=
  (Json.readShaped shape text).map ofDocument

def ofYaml (text : String) : Except Yaml.ReadError Settings :=
  (Yaml.readShaped shape text).map ofDocument

def read (isYaml : Bool) (text : String) : Except String Settings :=
  if isYaml then
    match ofYaml text with
    | .ok settings => .ok settings
    | .error e => .error e.message
  else
    match ofJson text with
    | .ok settings => .ok settings
    | .error e => .error e.message

def render (isYaml : Bool) (settings : Settings) : String :=
  if isYaml then Yaml.print settings.toValue else settings.toValue.pretty

end Settings

end SchemaCheck
