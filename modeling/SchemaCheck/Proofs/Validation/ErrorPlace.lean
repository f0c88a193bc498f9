import SchemaCheck.Proofs.Validation.Engine
import SchemaCheck.Proofs.Validation.Path
import SchemaCheck.Proofs.Validation.Registration

/-!
Which paths a result reports an error at. The answer is read off the messages, and a message is a
path, a blank, and what is said of it. So a path at which something was found is never missed, but
a blank inside of a path or inside of what is said makes other texts pass for paths too
(`Finding.Answers`). Where neither the names of the schema nor the path that is asked for hold a
blank, the answer is exact.
-/

namespace SchemaCheck

open Json (Value)

namespace Violation

/-- A violation that has a message of its own, as all have but the complaints of custom
validators. -/
def IsRule : Violation → Prop
  | custom _ => False
  | _ => True

def phrase (violation : Violation) : List Char :=
  (violation.message "").toList.drop ("value ".toList.length)

theorem message_eq {violation : Violation} (rule : violation.IsRule) (path : String) :
    (violation.message path).toList = (displayPath path).toList ++ ' ' :: violation.phrase := by
  have text (s : String) : toString s = s := rfl
  have root : displayPath "" = "value" := rfl
  cases violation with
  | custom complaint => cases rule
  | _ => simp [message, phrase, text, root]

end Violation

/-- How a finding can pass for an error at a path: it was found there, or where the path goes on
with a blank, or the path that is asked for goes on with the beginning of what is said. -/
inductive Finding.Answers (finding : Finding) (path : String) : Prop where
  | exact (same : displayPath finding.path = path)
  | inside (rest : List Char)
    (shown : (displayPath finding.path).toList = path.toList ++ ' ' :: rest)
  | beyond (said rest : List Char)
    (asked : path.toList = (displayPath finding.path).toList ++ ' ' :: said)
    (phrase : finding.violation.phrase = said ++ ' ' :: rest)

/-- Of two ways to cut a text at a blank one cuts first, unless they are the same. -/
theorem cut_prefix_iff (query shown phrase : List Char) :
    query ++ [' '] <+: shown ++ ' ' :: phrase ↔
      shown = query ∨ (∃ rest, shown = query ++ ' ' :: rest) ∨
        ∃ said rest, query = shown ++ ' ' :: said ∧ phrase = said ++ ' ' :: rest := by
  constructor
  · rintro ⟨rest, whole⟩
    rw [List.append_assoc, List.singleton_append] at whole
    rcases List.append_eq_append_iff.mp whole with ⟨more, rfl, later⟩ | ⟨more, rfl, later⟩
    · cases more with
      | nil => exact .inl (List.append_nil _)
      | cons c more =>
        obtain ⟨rfl, _⟩ := List.cons.inj later
        exact .inr (.inl ⟨more, rfl⟩)
    · cases more with
      | nil => exact .inl (List.append_nil _).symm
      | cons c more =>
        obtain ⟨rfl, behind⟩ := List.cons.inj later
        exact .inr (.inr ⟨more, rest, rfl, behind⟩)
  · rintro (rfl | ⟨rest, rfl⟩ | ⟨said, rest, rfl, rfl⟩)
    · exact ⟨phrase, by simp⟩
    · exact ⟨rest ++ ' ' :: phrase, by simp⟩
    · exact ⟨rest, by simp⟩

theorem Finding.answers_iff {finding : Finding} (rule : finding.violation.IsRule) (path : String) :
    (path.toList ++ [' ']).isPrefixOf finding.message.toList = true ↔ finding.Answers path := by
  rw [List.isPrefixOf_iff_prefix, Finding.message, Violation.message_eq rule, cut_prefix_iff,
    String.toList_inj]
  constructor
  · rintro (same | ⟨rest, shown⟩ | ⟨said, rest, asked, phrase⟩)
    · exact .exact same
    · exact .inside rest shown
    · exact .beyond said rest asked phrase
  · rintro (same | ⟨rest, shown⟩ | ⟨said, rest, asked, phrase⟩)
    · exact .inl same
    · exact .inr (.inl ⟨rest, shown⟩)
    · exact .inr (.inr ⟨said, rest, asked, phrase⟩)

theorem ValidationResult.hasErrorAt_answers {findings : List Finding}
    (rules : ∀ finding ∈ findings, finding.violation.IsRule) (path : String) :
    (ofFindings findings).hasErrorAt path = true ↔ ∃ finding ∈ findings, finding.Answers path := by
  rw [hasErrorAt, ofFindings, ofErrors, List.any_map, List.any_eq_true]
  exact exists_congr fun finding =>
    and_congr_right fun member => Finding.answers_iff (rules finding member) path

/-- The fields that the node and its parts speak about have names without a blank. -/
inductive Node.Solid : Node → Prop where
  | intro {rules : Rules} {items : Option Node} {properties : List (String × Node)}
    (required : ∀ name ∈ rules.required, ' ' ∉ name.toList)
    (declared : ∀ entry ∈ properties, ' ' ∉ entry.1.toList)
    (ofItems : ∀ node ∈ items, Solid node) (ofProperties : ∀ entry ∈ properties, Solid entry.2) :
    Solid ⟨rules, items, properties⟩

theorem Node.Solid.required {node : Node} (solid : node.Solid) :
    ∀ name ∈ node.rules.required, ' ' ∉ name.toList := by
  obtain ⟨required, _, _, _⟩ := solid
  exact required

namespace Location

theorem field_solid {location : Location} {name : String} (solid : ' ' ∉ location.path.toList)
    (named : ' ' ∉ name.toList) : ' ' ∉ (location.field name).path.toList := by
  rw [field_path, String.toList_append, List.mem_append, not_or]
  refine ⟨solid, ?_⟩
  rw [Scratch.fieldSuffix]
  split
  · exact named
  · rw [String.toList_append, List.mem_append, not_or]
    exact ⟨by decide, named⟩

theorem element_solid {location : Location} (solid : ' ' ∉ location.path.toList) (index : Nat) :
    ' ' ∉ (location.element index).path.toList := by
  have digits : ' ' ∉ (Step.element index).suffix := by
    rw [Step.suffix, List.mem_cons, List.mem_append, not_or, not_or]
    exact ⟨by decide, fun member => absurd (Text.digitsOf_all index ' ' member) (by decide),
      by decide⟩
  rw [element_toList, List.mem_append, not_or]
  exact ⟨solid, digits⟩

end Location

section Findings

variable {settings : ValidationSettings} {registry : Registry}

theorem Visit.Visited.solid {maxDepth : Nat} {start visit : Visit}
    (visited : Visit.Visited maxDepth start visit) (node : start.node.Solid)
    (place : ' ' ∉ start.location.path.toList) :
    visit.node.Solid ∧ ' ' ∉ visit.location.path.toList := by
  induction visited with
  | refl => exact ⟨node, place⟩
  | tail _ step ih =>
    obtain ⟨before, here⟩ := ih
    cases step with
    | field near expected declared present =>
      obtain ⟨_, names, _, parts⟩ := before
      refine ⟨parts _ declared, ?_⟩
      rw [Visit.location, Location.ofRoute_snoc]
      exact Location.field_solid here (names _ declared)
    | element near expected shape inside =>
      obtain ⟨_, _, items, _⟩ := before
      refine ⟨items _ shape, ?_⟩
      rw [Visit.location, Location.ofRoute_snoc]
      exact Location.element_solid here _

theorem Rules.textViolations_isRule (rules : Rules) (text : String) :
    ∀ violation ∈ (rules.textViolations text).1, violation.IsRule := by
  have lengths : ∀ violation ∈ rules.lengthViolations text, violation.IsRule := by
    unfold lengthViolations
    grind [Violation.IsRule]
  have allowed : ∀ violation ∈ rules.allowedViolations text, violation.IsRule := by
    unfold allowedViolations
    grind [Violation.IsRule]
  have format : ∀ violation ∈ rules.formatViolations text, violation.IsRule := by
    unfold formatViolations
    grind [Violation.IsRule]
  unfold textViolations
  grind [Violation.IsRule]

theorem Rules.numberViolations_isRule (rules : Rules) (x : Binary64) :
    ∀ violation ∈ rules.numberViolations x, violation.IsRule := by
  unfold numberViolations
  grind [Violation.IsRule]

/-- A rule of the place has found this, at the place itself or at a required field. -/
structure Visit.Raises (visit : Visit) (finding : Finding) : Prop where
  isRule : finding.violation.IsRule
  place : finding.path = visit.location.path ∨
    ∃ name ∈ visit.node.rules.required, finding.path = (visit.location.field name).path

theorem Visit.raises_map {visit : Visit} {violations : List Violation}
    (rules : ∀ violation ∈ violations, violation.IsRule) :
    ∀ finding ∈ violations.map (Finding.mk visit.location.path), visit.Raises finding := by
  intro finding member
  obtain ⟨violation, inside, rfl⟩ := List.mem_map.mp member
  exact ⟨rules violation inside, .inl rfl⟩

theorem Visit.raises_kindFindings (visit : Visit) (kind : Kind) (content : Value) :
    ∀ finding ∈ visit.kindFindings kind content, visit.Raises finding := by
  have numbers (n : Json.Number) := visit.raises_map
    (visit.node.rules.numberViolations_isRule n.toBinary64)
  intro finding member
  unfold kindFindings at member
  split at member
  · obtain ⟨name, missing, rfl⟩ := List.mem_map.mp member
    exact ⟨trivial, .inr ⟨name, (List.mem_filter.mp missing).1, rfl⟩⟩
  · exact raises_map (visit.node.rules.textViolations_isRule _) finding member
  · exact numbers _ finding member
  · exact numbers _ finding member
  · cases member

theorem Visit.raises_reports {visit : Visit} (unchecked : visit.node.rules.customValidator = none)
    (phase : Phase) : ∀ finding ∈ visit.reports settings registry phase, visit.Raises finding := by
  have silent (content : Value) :
      visit.node.rules.customFindings registry visit.location content = [] := by
    rw [Rules.customFindings, Rules.customViolations, unchecked]
    rfl
  have alone (violation : Violation) (rule : violation.IsRule) :
      ∀ finding ∈ [Finding.mk visit.location.path violation], visit.Raises finding := by
    rintro finding member
    obtain rfl := List.mem_singleton.mp member
    exact ⟨rule, .inl rfl⟩
  intro finding member
  cases phase with
  | opening =>
    unfold reports at member
    dsimp only at member
    split at member
    · exact alone (.tooDeep _) trivial finding member
    · split at member
      · cases member
      · split at member
        · exact visit.raises_kindFindings _ _ finding member
        · exact alone (.notOfKind _) trivial finding member
  | closing =>
    unfold reports at member
    grind

theorem nodeFindings_raises {node : Node} (unchecked : node.checkNames = []) {value : Value} :
    ∀ finding ∈ Reference.nodeFindings settings registry node .root value,
      ∃ visit, Visit.Visited settings.maxDepth ⟨[], node, value⟩ visit ∧ visit.Raises finding := by
  intro finding member
  have places : Reference.nodeFindings settings registry node .root value = _ :=
    nodeFindings_reports node [] value
  rw [places] at member
  obtain ⟨⟨visit, phase⟩, event, reported⟩ := List.mem_flatMap.mp member
  have visited := (mem_nodeEvents node [] value visit phase).mp event
  have own : visit.node.rules.customValidator = none := by
    cases asked : visit.node.rules.customValidator with
    | none => rfl
    | some name =>
      have inner : name ∈ visit.node.checkNames := by
        obtain ⟨_, ⟨_, _, _⟩, _⟩ := visit
        exact Node.mem_checkNames_own asked
      have outer := visited.checkNames inner
      rw [unchecked] at outer
      cases outer
  exact ⟨visit, visited, visit.raises_reports own phase finding reported⟩

theorem nodeFindings_solid {node : Node} (solid : node.Solid) (unchecked : node.checkNames = [])
    {value : Value} :
    ∀ finding ∈ Reference.nodeFindings settings registry node .root value,
      ' ' ∉ (displayPath finding.path).toList := by
  intro finding member
  obtain ⟨visit, visited, _, place⟩ := nodeFindings_raises unchecked finding member
  have atRoot : ' ' ∉ Location.root.path.toList := by decide
  obtain ⟨names, here⟩ := visited.solid solid atRoot
  have path : ' ' ∉ finding.path.toList := by
    rcases place with same | ⟨name, asked, same⟩
    · rwa [same]
    · rw [same]
      exact Location.field_solid here (names.required name asked)
  rw [displayPath]
  split
  · decide
  · exact path

end Findings

namespace Validator

variable {settings : ValidationSettings} {registry : Registry} {validator : Validator}

/-- Without custom validators, either engine reports an error at a path exactly when some finding
can pass for one there. So it never misses the path of a finding, and where neither the names of
the schema nor the path hold a blank, it reports errors at the paths of findings only. -/
theorem Ready.hasErrorAt_iff (ready : validator.Ready settings registry) {schema : Schema}
    (unchecked : schema.node.checkNames = []) (value : Value) (path : String) :
    let findings := Reference.nodeFindings settings registry schema.node .root value
    let result := ValidationResult.ofFindings findings
    (∃ next, validator.validate schema value = some (result, next)) ∧
    (result.hasErrorAt path = true ↔ ∃ finding ∈ findings, finding.Answers path) ∧
    ((∃ finding ∈ findings, displayPath finding.path = path) → result.hasErrorAt path = true) ∧
    (schema.node.Solid → ' ' ∉ path.toList →
      (result.hasErrorAt path = true ↔
        ∃ finding ∈ findings, displayPath finding.path = path)) := by
  intro findings result
  obtain ⟨next, ran, _⟩ := ready.validate_eq schema value
  have rules : ∀ finding ∈ findings, finding.violation.IsRule := by
    intro finding member
    obtain ⟨_, _, raised⟩ := nodeFindings_raises unchecked finding member
    exact raised.isRule
  have answered : result.hasErrorAt path = true ↔ ∃ finding ∈ findings, finding.Answers path :=
    ValidationResult.hasErrorAt_answers rules path
  refine ⟨⟨next, ran⟩, answered, ?_, fun solid whole => ?_⟩
  · rintro ⟨finding, member, same⟩
    exact answered.mpr ⟨finding, member, .exact same⟩
  · rw [answered]
    refine exists_congr fun finding => and_congr_right fun member => ⟨fun answers => ?_, .exact⟩
    cases answers with
    | exact same => exact same
    | inside rest shown =>
      have noBlank := nodeFindings_solid solid unchecked finding member
      rw [shown] at noBlank
      exact absurd (by simp) noBlank
    | beyond said rest asked _ =>
      rw [asked] at whole
      exact absurd (by simp) whole

/-- An absent field and a part of its name. -/
theorem Ready.hasErrorAt_iff_part :
    let person := Node.mk { kind := some .object, required := ["name"] } none
      [("age", { rules := { kind := some .integer } })]
    let schema := Schema.ofNode person
    let findings := Reference.nodeFindings {} .standard person .root (.object [])
    person.checkNames = [] ∧ person.Solid ∧ ' ' ∉ "name".toList ∧ ' ' ∉ "nam".toList ∧
    ∀ engine, (create engine {}).Ready {} .standard ∧
      (∃ next, (create engine {}).validate schema (.object []) =
        some (.ofFindings findings, next)) ∧
      (ValidationResult.ofFindings findings).hasErrorAt "name" = true ∧
      (ValidationResult.ofFindings findings).hasErrorAt "nam" = false := by
  intro person schema findings
  have unchecked : person.checkNames = [] := by decide
  have solid : person.Solid := by
    refine .intro (by decide) (by decide) (fun _ given => nomatch given) ?_
    intro entry member
    obtain rfl := List.mem_singleton.mp member
    exact .intro (by decide) (by decide) (fun _ given => nomatch given)
      (fun _ given => nomatch given)
  have alsoUnchecked : schema.node.checkNames = [] := unchecked
  have whole : ' ' ∉ "name".toList := by decide
  have also : ' ' ∉ "nam".toList := by decide
  refine ⟨unchecked, solid, whole, also, fun engine => ?_⟩
  have ready := create_ready engine {}
  obtain ⟨ran, _, _, named⟩ :=
    ready.hasErrorAt_iff alsoUnchecked (.object []) "name"
  obtain ⟨_, _, _, part⟩ := ready.hasErrorAt_iff alsoUnchecked (.object []) "nam"
  have found : ∃ finding ∈ findings, displayPath finding.path = "name" := by decide +kernel
  have nothing : ¬∃ finding ∈ findings, displayPath finding.path = "nam" := by decide +kernel
  refine ⟨ready, ran, (named solid whole).mpr found, ?_⟩
  rw [← Bool.not_eq_true]
  exact fun answered => nothing ((part solid also).mp answered)

/-- Of a name with a blank the part in front of the blank passes for a path as well. -/
theorem hasErrorAt_inexact :
    let person := Node.mk { kind := some .object, required := ["first name"] } none []
    let findings := Reference.nodeFindings {} .standard person .root (.object [])
    person.checkNames = [] ∧ (∀ finding ∈ findings, displayPath finding.path ≠ "first") ∧
    ∀ engine, ∃ result next,
      (create engine {}).validate (.ofNode person) (.object []) = some (result, next) ∧
      result.hasErrorAt "first" = true := by
  intro person findings
  refine ⟨by decide, by decide +kernel, fun engine => ?_⟩
  have ready := create_ready engine {}
  obtain ⟨next, ran, _⟩ := ready.validate_eq (.ofNode person) (.object [])
  exact ⟨_, next, ran, by decide +kernel⟩

end Validator

end SchemaCheck
