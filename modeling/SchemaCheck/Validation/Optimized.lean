import SchemaCheck.Registry
import SchemaCheck.Validation.PatternCache
import SchemaCheck.Validation.Result
import SchemaCheck.Validation.Scratch
import SchemaCheck.Validation.Settings
import SchemaCheck.Validation.TextFormat

/-!
The optimized engine: it descends with one buffer, whose path grows and is cut back, and it gets
its patterns from a cache. A cut that is not possible would end the validation without a result.
-/

namespace SchemaCheck

open Json (Value)

namespace Optimized

/-- What a validation works on. -/
structure Progress where
  scratch : Scratch
  cache : PatternCache

namespace Progress

def report (progress : Progress) (violation : Violation) : Progress :=
  { progress with scratch := progress.scratch.push (violation.message progress.scratch.path) }

def reportIf (progress : Progress) (wrong : Bool) (violation : Violation) : Progress :=
  if wrong then progress.report violation else progress

def request (progress : Progress) (text : String) : Option Pattern × Progress :=
  let (pattern, cache) := progress.cache.request text
  (pattern, { progress with cache })

/-- Does some work with a longer path and cuts the path back. -/
def inside (progress : Progress) (enter : Scratch → Scratch)
    (work : Progress → Option Progress) : Option Progress := do
  let mark := progress.scratch.mark
  let worked ← work { progress with scratch := enter progress.scratch }
  let scratch ← worked.scratch.cut? mark
  return { worked with scratch }

end Progress

def checkLength (rules : Rules) (text : String) (progress : Progress) : Progress :=
  let progress :=
    match rules.minLength with
    | some least => progress.reportIf (text.utf8ByteSize < least.toNat) (.tooShort least.toNat)
    | none => progress
  match rules.maxLength with
  | some most => progress.reportIf (most.toNat < text.utf8ByteSize) (.tooLong most.toNat)
  | none => progress

def checkAllowed (rules : Rules) (text : String) (progress : Progress) : Progress :=
  progress.reportIf (!rules.allowed.isEmpty && !rules.allowed.contains text)
    (.notAllowed rules.allowed)

def checkFormat (rules : Rules) (text : String) (progress : Progress) : Progress :=
  match rules.format with
  | none => progress
  | some name =>
    match TextFormat.ofName? name with
    | none => progress.report (.unknownFormat name)
    | some format =>
      let (pattern, progress) := progress.request format.patternText
      progress.reportIf (!pattern.any (·.isMatch text)) (.notInFormat format.name)

/-- Checks a string; whether the node can go on with it comes first. -/
def checkText (rules : Rules) (text : String) (progress : Progress) : Bool × Progress :=
  let progress := checkLength rules text progress
  let finish := fun progress => (true, checkFormat rules text (checkAllowed rules text progress))
  match rules.pattern with
  | none => finish progress
  | some source =>
    match progress.request source with
    | (none, progress) => (false, progress.report (.brokenPattern source))
    | (some pattern, progress) =>
      finish (progress.reportIf (!pattern.isMatch text) (.patternMismatch source))

def checkNumber (rules : Rules) (x : Binary64) (progress : Progress) : Progress :=
  let progress :=
    match rules.minimum with
    | some bound => progress.reportIf (x.lt bound) (.belowMinimum bound)
    | none => progress
  match rules.maximum with
  | some bound => progress.reportIf (bound.lt x) (.aboveMaximum bound)
  | none => progress

def checkCustom (registry : Registry) (rules : Rules) (value : Value) (progress : Progress) :
    Progress :=
  match rules.customValidator with
  | none => progress
  | some name =>
    match registry.lookup name with
    | some check =>
      { progress with
        scratch := progress.scratch.pushAll (check value (displayPath progress.scratch.path)) }
    | none => progress.report (.unknownValidator name)

def checkRequired (fields : List (String × Value)) :
    List String → Progress → Option Progress
  | [], progress => some progress
  | name :: rest, progress =>
    if Fields.has fields name then checkRequired fields rest progress
    else do
      let progress ←
        progress.inside (·.enterField name) fun progress => some (progress.report .missing)
      checkRequired fields rest progress

def checkElements (check : Value → Progress → Option Progress) :
    Nat → List Value → Progress → Option Progress
  | _, [], progress => some progress
  | index, value :: rest, progress => do
    let progress ← progress.inside (·.enterElement index) (check value)
    checkElements check (index + 1) rest progress

def checkField (check : Value → Progress → Option Progress) (name : String)
    (fields : List (String × Value)) (progress : Progress) : Option Progress :=
  match Fields.get? fields name with
  | some value => progress.inside (·.enterField name) (check value)
  | none => some progress

variable (settings : ValidationSettings) (registry : Registry)

mutual

def checkNode : Node → Nat → Value → Progress → Option Progress
  | ⟨rules, items, properties⟩, depth, value, progress =>
    if settings.maxDepth < depth then some (progress.report (.tooDeep settings.maxDepth))
    else
      match rules.kind with
      | none => some (checkCustom registry rules value progress)
      | some kind =>
        match settings.adapt? kind value with
        | none => some (progress.report (.notOfKind kind))
        | some value =>
          match value with
          | .object fields => do
            let progress ← checkRequired fields rules.required progress
            let progress ← checkProperties properties depth fields progress
            return checkCustom registry rules value progress
          | .array values => do
            let progress ← checkItems items depth values progress
            return checkCustom registry rules value progress
          | .string text =>
            match checkText rules text progress with
            | (true, progress) => some (checkCustom registry rules value progress)
            | (false, progress) => some progress
          | .number n =>
            some (checkCustom registry rules value (checkNumber rules n.toBinary64 progress))
          | value => some (checkCustom registry rules value progress)

def checkProperties : List (String × Node) → Nat → List (String × Value) → Progress →
    Option Progress
  | [], _, _, progress => some progress
  | (name, node) :: rest, depth, fields, progress => do
    let progress ← checkField (checkNode node (depth + 1)) name fields progress
    checkProperties rest depth fields progress

def checkItems : Option Node → Nat → List Value → Progress → Option Progress
  | none, _, _, progress => some progress
  | some node, depth, values, progress =>
    checkElements (checkNode node (depth + 1)) 0 values progress

end

end Optimized

/-- A validator of the optimized engine with what it keeps from one validation to the next. -/
structure OptimizedValidator where
  settings : ValidationSettings := {}
  registry : Registry := .standard
  cache : PatternCache := {}
  pool : ScratchPool := {}

namespace OptimizedValidator

/-- Validates a value with a buffer and hands the buffer back with the result. -/
def run (validator : OptimizedValidator) (schema : Schema) (value : Value) (scratch : Scratch) :
    Option (ValidationResult × OptimizedValidator) := do
  let progress ← Optimized.checkNode validator.settings validator.registry schema.node 0 value
    ⟨scratch, validator.cache⟩
  let (errors, scratch) := progress.scratch.takeErrors
  return (.ofErrors errors,
    { validator with cache := progress.cache, pool := validator.pool.release scratch })

def validate (validator : OptimizedValidator) (schema : Schema) (value : Value) :
    Option (ValidationResult × OptimizedValidator) :=
  let (scratch, pool) := validator.pool.acquire
  { validator with pool }.run schema value scratch

end OptimizedValidator

end SchemaCheck
