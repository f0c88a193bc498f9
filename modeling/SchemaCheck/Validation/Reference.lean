import SchemaCheck.Registry
import SchemaCheck.Validation.Result
import SchemaCheck.Validation.Settings
import SchemaCheck.Validation.TextFormat

/-!
The reference engine: it descends through node and value together and lists what it finds, from
the outside to the inside and in the order of the schema.
-/

namespace SchemaCheck

open Json (Value)

namespace Rules

/-- The bytes of a string are its length. -/
def lengthViolations (rules : Rules) (text : String) : List Violation :=
  (match rules.minLength with
    | some least => if text.utf8ByteSize < least.toNat then [.tooShort least.toNat] else []
    | none => []) ++
  (match rules.maxLength with
    | some most => if most.toNat < text.utf8ByteSize then [.tooLong most.toNat] else []
    | none => [])

def allowedViolations (rules : Rules) (text : String) : List Violation :=
  if rules.allowed.isEmpty || rules.allowed.contains text then [] else [.notAllowed rules.allowed]

def formatViolations (rules : Rules) (text : String) : List Violation :=
  match rules.format with
  | none => []
  | some name =>
    match TextFormat.ofName? name with
    | some format => if format.accepts text then [] else [.notInFormat format.name]
    | none => [.unknownFormat name]

/-- What is wrong with a string, and whether the node can go on with it: behind a pattern that is
none, nothing more is checked. -/
def textViolations (rules : Rules) (text : String) : List Violation × Bool :=
  let lengths := rules.lengthViolations text
  let rest := rules.allowedViolations text ++ rules.formatViolations text
  match rules.pattern with
  | none => (lengths ++ rest, true)
  | some source =>
    match Pattern.ofText? source with
    | none => (lengths ++ [.brokenPattern source], false)
    | some pattern =>
      if pattern.isMatch text then (lengths ++ rest, true)
      else (lengths ++ .patternMismatch source :: rest, true)

def numberViolations (rules : Rules) (x : Binary64) : List Violation :=
  (match rules.minimum with
    | some bound => if x.lt bound then [.belowMinimum bound] else []
    | none => []) ++
  (match rules.maximum with
    | some bound => if bound.lt x then [.aboveMaximum bound] else []
    | none => [])

def customViolations (rules : Rules) (registry : Registry) (path : String) (value : Value) :
    List Violation :=
  match rules.customValidator with
  | none => []
  | some name =>
    match registry.lookup name with
    | some check => (check value (displayPath path)).map .custom
    | none => [.unknownValidator name]

def missingFindings (rules : Rules) (location : Location) (fields : List (String × Value)) :
    List Finding :=
  (rules.required.filter fun name => !Fields.has fields name).map fun name =>
    ⟨(location.field name).path, .missing⟩

end Rules

namespace Reference

def elementFindings (check : Location → Value → List Finding) (location : Location) :
    Nat → List Value → List Finding
  | _, [] => []
  | index, value :: rest =>
    check (location.element index) value ++ elementFindings check location (index + 1) rest

def fieldFindings (check : Location → Value → List Finding) (location : Location) (name : String)
    (fields : List (String × Value)) : List Finding :=
  match Fields.get? fields name with
  | some value => check (location.field name) value
  | none => []

variable (settings : ValidationSettings) (registry : Registry)

mutual

def nodeFindings : Node → Location → Value → List Finding
  | ⟨rules, items, properties⟩, location, value =>
    let here := fun violations : List Violation => violations.map (Finding.mk location.path)
    let custom := fun value => here (rules.customViolations registry location.path value)
    if settings.maxDepth < location.depth then here [.tooDeep settings.maxDepth]
    else
      match rules.kind with
      | none => custom value
      | some kind =>
        match settings.adapt? kind value with
        | none => here [.notOfKind kind]
        | some value =>
          match value with
          | .object fields =>
            rules.missingFindings location fields ++ propertyFindings properties location fields ++
              custom value
          | .array values => itemFindings items location values ++ custom value
          | .string text =>
            let (violations, proceed) := rules.textViolations text
            here violations ++ if proceed then custom value else []
          | .number n => here (rules.numberViolations n.toBinary64) ++ custom value
          | _ => custom value

def propertyFindings : List (String × Node) → Location → List (String × Value) → List Finding
  | [], _, _ => []
  | (name, node) :: rest, location, fields =>
    fieldFindings (nodeFindings node) location name fields ++ propertyFindings rest location fields

def itemFindings : Option Node → Location → List Value → List Finding
  | none, _, _ => []
  | some node, location, values => elementFindings (nodeFindings node) location 0 values

end

def validate (schema : Schema) (value : Value) : ValidationResult :=
  .ofFindings (nodeFindings settings registry schema.node .root value)

end Reference

end SchemaCheck
