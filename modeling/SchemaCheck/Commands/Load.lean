import SchemaCheck.Failure
import SchemaCheck.Files
import SchemaCheck.Settings
import SchemaCheck.Text.Quoted

/-!
Loading what the commands work on: schemas, inputs and the settings of the program. The name of a
file says whether it holds YAML or JSON text.
-/

namespace SchemaCheck.Commands

open Json (Value)

abbrev Look := String → FileEntry

def readText (look : Look) (path : String) : Except Failure String :=
  match look path with
  | .missing => .error (.fileNotFound path)
  | .unreadable reason => .error (.system reason)
  | .text content => .ok content

def loadSchema (look : Look) (path : String) : Except Failure Schema := do
  let text ← readText look path
  match if FilePath.isYaml path then Schema.ofYaml text else Schema.ofJson text with
  | .ok schema => return schema
  | .error e => throw (.core e.message)

def loadInput (look : Look) (path : String) : Except Failure Value := do
  let text ← readText look path
  if FilePath.isYaml path then
    match (Yaml.Content.ofText text.toList).value? with
    | some value => return value
    | none => throw (.invalidFormat path "YAML")
  else
    match Json.parse? text with
    | some value => return value
    | none => throw (.invalidFormat path "JSON")

def loadSettings (look : Look) (path : String) : Except Failure Settings := do
  let text ← readText look path
  match Settings.read (FilePath.isYaml path) text with
  | .ok settings => return settings
  | .error reason => throw (.settings s!"{path}: {reason}")

def home? (environment : String → Option String) : Option String :=
  (environment "HOME").filter (!·.isEmpty)

def settingsDirectory? (environment : String → Option String) : Option String :=
  ((environment "XDG_CONFIG_HOME").filter (·.startsWith "/")).or
    ((home? environment).map (FilePath.inside · ".config"))

def settingsPaths (environment : String → Option String) : List String :=
  let shared := (settingsDirectory? environment).map (FilePath.inside · "conform")
  [".conform.yaml", ".conform.json", "conform.yaml", "conform.json"] ++
    (shared.toList.flatMap fun directory =>
      [FilePath.inside directory "config.yaml", FilePath.inside directory "config.json"]) ++
    ((home? environment).toList.flatMap fun directory =>
      [FilePath.inside directory ".conform.yaml", FilePath.inside directory ".conform.json"])

def settingsWarning (path : String) (failure : Failure) : String :=
  s!"Warning: Failed to load config from {Text.quoted path}: {failure.message}\n"

/-- The settings of the first file that is there and can be used, with the warnings about those in
front of it. -/
def findSettings (look : Look) : List String → String × Settings
  | [] => ("", {})
  | path :: rest =>
    if !(look path).isThere then findSettings look rest
    else
      match loadSettings look path with
      | .ok settings => ("", settings)
      | .error failure =>
        let (warnings, settings) := findSettings look rest
        (settingsWarning path failure ++ warnings, settings)

end SchemaCheck.Commands
