import Mathlib.Data.List.Induction
import Mathlib.Logic.Relation
import SchemaCheck.Proofs.Validation.Findings

/-!
Validation said by places. A place is visited when it is reached from the root through declared
fields and elements, and at each visited place the rules of its own node are checked. What the
engine lists is what these rules find, place by place in the order of the document: for strict
validation these are the rules as they stand (`validate_by_visits`), and with other settings they
speak about what the node makes of its value (`Visit.reports`).
-/

namespace SchemaCheck

open Json (Value)
open Reference

inductive Step where
  | field (name : String)
  | element (index : Nat)
deriving DecidableEq

namespace Location

def step (location : Location) : Step → Location
  | .field name => location.field name
  | .element index => location.element index

def ofRoute (route : List Step) : Location := route.foldl step .root

theorem ofRoute_snoc (route : List Step) (last : Step) :
    ofRoute (route ++ [last]) = (ofRoute route).step last := by
  rw [ofRoute, List.foldl_append]
  rfl

theorem ofRoute_depth (route : List Step) : (ofRoute route).depth = route.length := by
  induction route using List.reverseRecOn with
  | nil => rfl
  | append_singleton route last ih =>
    rw [ofRoute_snoc, List.length_append, ← ih]
    cases last <;> rfl

end Location

/-- A place of a value, with the node that speaks about it. -/
structure Visit where
  route : List Step
  node : Node
  value : Value

namespace Visit

variable (maxDepth : Nat) (registry : Registry)

def location (visit : Visit) : Location := .ofRoute visit.route

/-- From a place that is not too deep validation goes on to the declared fields that are there, and
to the elements when their node is given. -/
inductive Child : Visit → Visit → Prop where
  | field {route : List Step} {node part : Node} {fields : List (String × Value)} {name : String}
    {value : Value} (near : route.length ≤ maxDepth) (expected : node.rules.kind = some .object)
    (declared : (name, part) ∈ node.properties) (present : Fields.get? fields name = some value) :
    Child ⟨route, node, .object fields⟩ ⟨route ++ [.field name], part, value⟩
  | element {route : List Step} {node part : Node} {values : List Value} {index : Nat}
    {value : Value} (near : route.length ≤ maxDepth) (expected : node.rules.kind = some .array)
    (shape : node.items = some part) (inside : values[index]? = some value) :
    Child ⟨route, node, .array values⟩ ⟨route ++ [.element index], part, value⟩

def Visited (start : Visit) : Visit → Prop := Relation.ReflTransGen (Child maxDepth) start

end Visit

section LocalRules

namespace Rules

/-- The rules for a string. Lengths count bytes. -/
structure TextConforms (rules : Rules) (text : String) : Prop where
  longEnough : ∀ least ∈ rules.minLength, least.toNat ≤ text.utf8ByteSize
  shortEnough : ∀ most ∈ rules.maxLength, text.utf8ByteSize ≤ most.toNat
  pattern : ∀ source ∈ rules.pattern, ∃ pattern,
    Pattern.ofText? source = some pattern ∧ pattern.isMatch text = true
  allowed : rules.allowed = [] ∨ text ∈ rules.allowed
  format : ∀ name ∈ rules.format, ∃ format,
    TextFormat.ofName? name = some format ∧ format.accepts text = true

/-- The rules for a number, which counts as the nearest binary64 number. -/
structure NumberConforms (rules : Rules) (x : Binary64) : Prop where
  minimum : ∀ bound ∈ rules.minimum, x.lt bound = false
  maximum : ∀ bound ∈ rules.maximum, bound.lt x = false

def KindConforms (rules : Rules) : Kind → Value → Prop
  | .string, .string text => rules.TextConforms text
  | .integer, .number n => n.isIntegral = true ∧ rules.NumberConforms n.toBinary64
  | .number, .number n => rules.NumberConforms n.toBinary64
  | .boolean, .bool _ => True
  | .object, .object fields => ∀ name ∈ rules.required, Fields.has fields name = true
  | .array, .array _ => True
  | _, _ => False

def CustomConforms (rules : Rules) (registry : Registry) (path : String) (value : Value) : Prop :=
  ∀ name ∈ rules.customValidator, ∃ check,
    registry.lookup name = some check ∧ check value (displayPath path) = []

end Rules

/-- The rules of a place about its own value hold. Without a kind only depth and the custom
validator count. -/
structure Visit.Conforms (maxDepth : Nat) (registry : Registry) (visit : Visit) : Prop where
  near : visit.route.length ≤ maxDepth
  kind : ∀ kind ∈ visit.node.rules.kind, visit.node.rules.KindConforms kind visit.value
  custom : visit.node.rules.CustomConforms registry visit.location.path visit.value

end LocalRules

section Events

/-- A place is checked twice: on the way down and, by the custom validator, on the way up. -/
inductive Phase where
  | opening
  | closing
deriving DecidableEq

namespace Visit

def kindFindings (visit : Visit) : Kind → Value → List Finding
  | .object, .object fields => visit.node.rules.missingFindings visit.location fields
  | .string, .string text =>
    (visit.node.rules.textViolations text).1.map (Finding.mk visit.location.path)
  | .integer, .number n | .number, .number n =>
    (visit.node.rules.numberViolations n.toBinary64).map (Finding.mk visit.location.path)
  | _, _ => []

def findings (maxDepth : Nat) (registry : Registry) (visit : Visit) : Phase → List Finding
  | .opening =>
    if maxDepth < visit.route.length then [⟨visit.location.path, .tooDeep maxDepth⟩]
    else
      match visit.node.rules.kind with
      | none => []
      | some kind =>
        if kind.admits visit.value then visit.kindFindings kind visit.value
        else [⟨visit.location.path, .notOfKind kind⟩]
  | .closing =>
    if maxDepth < visit.route.length then []
    else if (visit.node.rules.kind.all fun kind =>
        kind.admits visit.value && visit.node.rules.proceeds visit.value) then
      visit.node.rules.customFindings registry visit.location visit.value
    else []

variable (settings : ValidationSettings) (registry : Registry)

/-- What is found at a place itself with any settings: its rules speak about the value as its node
takes it. -/
def reports (visit : Visit) : Phase → List Finding
  | .opening =>
    if settings.maxDepth < visit.route.length then
      [⟨visit.location.path, .tooDeep settings.maxDepth⟩]
    else
      match visit.node.rules.kind with
      | none => []
      | some kind =>
        match settings.adapt? kind visit.value with
        | some content => visit.kindFindings kind content
        | none => [⟨visit.location.path, .notOfKind kind⟩]
  | .closing =>
    if settings.maxDepth < visit.route.length then []
    else
      match visit.node.rules.kind with
      | none => visit.node.rules.customFindings registry visit.location visit.value
      | some kind =>
        match settings.adapt? kind visit.value with
        | some content =>
          if visit.node.rules.proceeds content then
            visit.node.rules.customFindings registry visit.location content
          else []
        | none => []

def block (visit : Visit) : List Finding :=
  nodeFindings settings registry visit.node visit.location visit.value

/-- What a place adds to the list when everything below a depth is told of as a whole: down to that
depth what is found at the place itself, and behind it, once, what `whole` says. -/
def listed (depth : Nat) (whole : Visit → List Finding) (visit : Visit) (phase : Phase) :
    List Finding :=
  if visit.route.length ≤ depth then visit.reports settings registry phase
  else
    match phase with
    | .opening => whole visit
    | .closing => []

end Visit

inductive Step.Before : Step → Step → Prop where
  | field {first second : String} (ordered : first < second) : Before (.field first) (.field second)
  | element {first second : Nat} (ordered : first < second) :
    Before (.element first) (.element second)

/-- The order of a document: what lies inside a place is checked between the place's way down and
its way up, and of two places that part ways the one at the earlier step is checked first. -/
inductive Before : List Step × Phase → List Step × Phase → Prop where
  | around (route : List Step) : Before (route, .opening) (route, .closing)
  | into (route : List Step) (first : Step) (rest : List Step) (phase : Phase) :
    Before (route, .opening) (route ++ first :: rest, phase)
  | outOf (route : List Step) (first : Step) (rest : List Step) (phase : Phase) :
    Before (route ++ first :: rest, phase) (route, .closing)
  | beside (route : List Step) {first second : Step} (ordered : first.Before second)
    (rest others : List Step) (phase other : Phase) :
    Before (route ++ first :: rest, phase) (route ++ second :: others, other)

end Events

end SchemaCheck
