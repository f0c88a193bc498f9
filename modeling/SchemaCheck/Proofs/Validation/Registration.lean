import Mathlib.Data.List.Basic
import SchemaCheck.Proofs.Validation.Engine
import SchemaCheck.Proofs.Validation.Traversal

/-!
Registered checks. Of several that are registered under one name the last one counts
(`lookup_registerAll`), and a validation asks for no other names than those of its schema
(`Visit.Visited.checkNames`). So two registries that agree on these names, however they have come
about, lead to the same results with both engines (`results_by_names`).
-/

namespace SchemaCheck

open Json (Value)
open Reference

namespace Registry

def registerAll (registry : Registry) (calls : List (String × CustomCheck)) : Registry :=
  calls.foldl (fun registry call => registry.register call.1 call.2) registry

theorem lookup_register (registry : Registry) (name other : String) (check : CustomCheck) :
    (registry.register other check).lookup name =
      if name = other then some check else registry.lookup name :=
  Fields.get?_insert name other check registry.entries

theorem registerAll_append (registry : Registry) (calls later : List (String × CustomCheck)) :
    registry.registerAll (calls ++ later) = (registry.registerAll calls).registerAll later :=
  List.foldl_append

/-- The last check that is registered under a name counts, and without any the earlier registry. -/
theorem lookup_registerAll (registry : Registry) (calls : List (String × CustomCheck))
    (name : String) :
    (registry.registerAll calls).lookup name =
      (calls.reverse.lookup name).or (registry.lookup name) := by
  induction calls generalizing registry with
  | nil => rfl
  | cons call rest ih =>
    obtain ⟨other, check⟩ := call
    have shorter : registry.registerAll ((other, check) :: rest) =
        (registry.register other check).registerAll rest := rfl
    rw [shorter, ih, lookup_register, List.reverse_cons, List.lookup_append, Option.or_assoc]
    congr 1
    by_cases same : name = other
    · simp [same]
    · simp only [if_neg same, List.lookup_cons, beq_false_of_ne same, List.lookup_nil,
        Option.none_or]

theorem standard_eq : standard = registerAll {} CustomCheck.standard := rfl

theorem lookup_registerAll_foreign (registry : Registry) {name other : String}
    (foreign : name ≠ other) (check : CustomCheck) (earlier later : List (String × CustomCheck)) :
    (registry.registerAll (earlier ++ (other, check) :: later)).lookup name =
      (registry.registerAll (earlier ++ later)).lookup name := by
  have different : (name == other) = false := beq_false_of_ne foreign
  simp only [lookup_registerAll, List.reverse_append, List.reverse_cons, List.lookup_append,
    List.lookup_cons, List.lookup_nil, different, Option.or_none]

/-- The two registries give the same check, or none, for each of the names. -/
def AgreeOn (names : List String) (registry other : Registry) : Prop :=
  ∀ name ∈ names, registry.lookup name = other.lookup name

end Registry

section Findings

variable {settings : ValidationSettings} {registry other : Registry}

/-- Descent asks for no names but those of the node that it starts from. -/
theorem Visit.Visited.checkNames {maxDepth : Nat} {start visit : Visit}
    (visited : Visit.Visited maxDepth start visit) {name : String}
    (asked : name ∈ visit.node.checkNames) : name ∈ start.node.checkNames := by
  induction visited with
  | refl => exact asked
  | tail _ step ih =>
    apply ih
    cases step with
    | @field _ node _ _ _ _ _ _ declared _ =>
      cases node
      exact Node.mem_checkNames_property declared asked
    | @element _ node _ _ _ _ _ _ shape _ =>
      cases node
      exact Node.mem_checkNames_item shape asked

theorem Visit.reports_congr {visit : Visit}
    (agree : Registry.AgreeOn visit.node.rules.customValidator.toList registry other)
    (phase : Phase) :
    visit.reports settings registry phase = visit.reports settings other phase := by
  have custom (content : Value) :
      visit.node.rules.customFindings registry visit.location content =
        visit.node.rules.customFindings other visit.location content := by
    unfold Rules.customFindings Rules.customViolations
    cases asked : visit.node.rules.customValidator with
    | none => rfl
    | some name =>
      have same := agree name (by simp [asked])
      simp only [same]
  cases phase with
  | opening => rfl
  | closing => simp only [reports, custom]

theorem nodeFindings_congr {node : Node} (agree : Registry.AgreeOn node.checkNames registry other)
    (value : Value) :
    nodeFindings settings registry node .root value =
      nodeFindings settings other node .root value := by
  have places (registry : Registry) :
      nodeFindings settings registry node .root value = _ := nodeFindings_reports node [] value
  -- Both traversals meet the same events, so only what each of them reports is compared.
  rw [places, places]
  refine List.flatMap_congr fun event member => Visit.reports_congr ?_ event.2
  have visited := (mem_nodeEvents node [] value event.1 event.2).mp member
  intro name asked
  apply agree name
  apply visited.checkNames
  cases here : event.1.node with
  | mk rules items properties =>
    rw [here] at asked
    exact Node.mem_checkNames_own (Option.mem_toList.mp asked)

end Findings

namespace Session

def registrations (actions : List Action) : List (String × CustomCheck) :=
  actions.filterMap fun
    | .register name check => some (name, check)
    | _ => none

theorem step_registry {session next : Session} {action : Action}
    (clean : session.validator.pool.Clean) (stepped : session.step action = some next) :
    next.validator.registry = session.validator.registry.registerAll (registrations [action]) := by
  cases action with
  | validate schema value =>
    obtain ⟨validator, ran, _, same, _⟩ := OptimizedValidator.validate_eq clean schema value
    simp only [step, ran, Option.map_some, Option.some.injEq] at stepped
    exact stepped ▸ same
  | validateText schema text =>
    obtain ⟨validator, ran, _, same, _⟩ := OptimizedValidator.validateText_eq clean schema text
    simp only [step, ran, Option.map_some, Option.some.injEq] at stepped
    exact stepped ▸ same
  | validateDocument schema document =>
    obtain ⟨validator, ran, _, same, _⟩ :=
      OptimizedValidator.validateDocument_eq clean schema document
    simp only [step, ran, Option.map_some, Option.some.injEq] at stepped
    exact stepped ▸ same
  | release serial =>
    simp only [step] at stepped
    split at stepped
    · exact Option.some.inj stepped ▸ rfl
    · exact Option.some.inj stepped ▸ rfl
  | _ => exact Option.some.inj stepped ▸ rfl

variable {settings : ValidationSettings}

theorem run_registry {session : Session} (sound : Sound settings session) (actions : List Action) :
    ∃ next, session.run actions = some next ∧ Sound settings next ∧
      next.validator.registry = session.validator.registry.registerAll (registrations actions) := by
  induction actions generalizing session with
  | nil => exact ⟨session, rfl, sound, rfl⟩
  | cons action rest ih =>
    obtain ⟨next, stepped, after⟩ := step_sound sound action
    obtain ⟨last, ran, ended, registry⟩ := ih after
    have split : registrations (action :: rest) = registrations [action] ++ registrations rest := by
      rw [registrations, ← List.singleton_append, List.filterMap_append]
      rfl
    refine ⟨last, ?_, ended, ?_⟩
    · rw [run, List.foldlM_cons, stepped]
      exact ran
    · rw [registry, step_registry sound.pool stepped, split, Registry.registerAll_append]

/-- Both engines say the same about a schema, each with the checks of either session. -/
structure SaySame (settings : ValidationSettings) (schema : Schema) (session other : Session) :
    Prop where
  values : ∀ value, ∃ next last result, session.validator.validate schema value =
      some (result, next) ∧ other.validator.validate schema value = some (result, last) ∧
    Reference.validate settings session.validator.registry schema value = result ∧
    Reference.validate settings other.validator.registry schema value = result
  texts : ∀ text, ∃ next last result, session.validator.validateText schema text =
      some (result, next) ∧ other.validator.validateText schema text = some (result, last) ∧
    Reference.validateText settings session.validator.registry schema text = result ∧
    Reference.validateText settings other.validator.registry schema text = result
  documents : ∀ document, ∃ next last result, session.validator.validateDocument schema document =
      some (result, next) ∧ other.validator.validateDocument schema document = some (result, last) ∧
    Reference.validateDocument settings session.validator.registry schema document = result ∧
    Reference.validateDocument settings other.validator.registry schema document = result

theorem saySame_of_agree {schema : Schema} {session other : Session}
    (sound : Sound settings session) (otherSound : Sound settings other)
    (agree : Registry.AgreeOn schema.node.checkNames session.validator.registry
      other.validator.registry) : SaySame settings schema session other := by
  obtain ⟨clean, rfl⟩ := sound
  obtain ⟨otherClean, sameSettings⟩ := otherSound
  have values (value : Value) :
      Reference.validate session.validator.settings session.validator.registry schema value =
        Reference.validate session.validator.settings other.validator.registry schema value := by
    rw [Reference.validate, Reference.validate, nodeFindings_congr agree]
  have texts (text : String) :
      Reference.validateText session.validator.settings session.validator.registry schema text =
        Reference.validateText session.validator.settings other.validator.registry schema text := by
    simp only [Reference.validateText, values]
  have documents (document : Document) :
      Reference.validateDocument session.validator.settings session.validator.registry schema
          document =
        Reference.validateDocument session.validator.settings other.validator.registry schema
          document := by
    simp only [Reference.validateDocument, texts]
  refine ⟨fun value => ?_, fun text => ?_, fun document => ?_⟩
  · obtain ⟨next, ran, _⟩ := OptimizedValidator.validate_eq clean schema value
    obtain ⟨last, reran, _⟩ := OptimizedValidator.validate_eq otherClean schema value
    rw [sameSettings, ← values] at reran
    exact ⟨next, last, _, ran, reran, rfl, (values value).symm⟩
  · obtain ⟨next, ran, _⟩ := OptimizedValidator.validateText_eq clean schema text
    obtain ⟨last, reran, _⟩ := OptimizedValidator.validateText_eq otherClean schema text
    rw [sameSettings, ← texts] at reran
    exact ⟨next, last, _, ran, reran, rfl, (texts text).symm⟩
  · obtain ⟨next, ran, _⟩ := OptimizedValidator.validateDocument_eq clean schema document
    obtain ⟨last, reran, _⟩ := OptimizedValidator.validateDocument_eq otherClean schema document
    rw [sameSettings, ← documents] at reran
    exact ⟨next, last, _, ran, reran, rfl, (documents document).symm⟩

/-- Two sessions may have come about in any way. Where their registries agree on the names that a
schema uses, both engines say the same about the schema with either of them. So a registration under
another name, wherever it comes between the validations of a session, changes no later result for
the schema. -/
theorem results_by_names (settings : ValidationSettings) (schema : Schema) :
    (∀ (registry other : Registry) (retained otherRetained : Nat) (actions others : List Action),
      Registry.AgreeOn schema.node.checkNames (registry.registerAll (registrations actions))
        (other.registerAll (registrations others)) →
      ∃ session second, (start settings registry retained).run actions = some session ∧
        (start settings other otherRetained).run others = some second ∧
        SaySame settings schema session second) ∧
    ∀ (registry : Registry) (retained : Nat) (earlier later : List Action) (name : String)
      (check : CustomCheck), name ∉ schema.node.checkNames →
      ∃ session second, (start settings registry retained).run (earlier ++ later) = some session ∧
        (start settings registry retained).run (earlier ++ .register name check :: later) =
          some second ∧
        SaySame settings schema session second := by
  have reached (registry other : Registry) (retained otherRetained : Nat)
      (actions others : List Action)
      (agree : Registry.AgreeOn schema.node.checkNames
        (registry.registerAll (registrations actions))
        (other.registerAll (registrations others))) :
      ∃ session second, (start settings registry retained).run actions = some session ∧
        (start settings other otherRetained).run others = some second ∧
        SaySame settings schema session second := by
    obtain ⟨session, ran, sound, checks⟩ :=
      run_registry (start_sound settings registry retained) actions
    obtain ⟨second, reran, secondSound, secondChecks⟩ :=
      run_registry (start_sound settings other otherRetained) others
    refine ⟨session, second, ran, reran, saySame_of_agree sound secondSound ?_⟩
    rw [checks, secondChecks]
    exact agree
  refine ⟨reached, fun registry retained earlier later name check foreign => ?_⟩
  apply reached
  intro used asked
  have different : used ≠ name := fun same => foreign (same ▸ asked)
  have joined : registrations (earlier ++ later) = registrations earlier ++ registrations later :=
    List.filterMap_append
  have between : registrations (earlier ++ .register name check :: later) =
      registrations earlier ++ (name, check) :: registrations later := List.filterMap_append
  rw [joined, between]
  exact (registry.lookup_registerAll_foreign different check _ _).symm

/-- An age is checked alike with the standard checks beside a further one, and with a registry that
holds nothing else than its own check, which has come after another one of that name. The further
one may also come between two validations. -/
theorem results_by_names_age :
    let schema := Schema.ofNode ((Node.ofKind .object).withProperty "age"
      { rules := { kind := some .integer, customValidator := some "positive" } })
    let silent : CustomCheck := fun _ _ => []
    let value := Value.object [("age", .number (.integer (-3) (by decide) (by decide)))]
    let actions := [.register "even" silent, .validate schema value]
    let others := [.register "positive" silent, .validate schema value,
      .register "positive" CustomCheck.positive]
    let once := [.validate schema value]
    Registry.AgreeOn schema.node.checkNames (Registry.standard.registerAll (registrations actions))
        (Registry.registerAll {} (registrations others)) ∧
    (∃ session second, (start {} .standard 4).run actions = some session ∧
      (start {} {} 4).run others = some second ∧ SaySame {} schema session second) ∧
    "even" ∉ schema.node.checkNames ∧
    ∃ session second, (start {} .standard 4).run (once ++ once) = some session ∧
      (start {} .standard 4).run (once ++ .register "even" silent :: once) = some second ∧
      SaySame {} schema session second := by
  intro schema silent value actions others once
  have agree : Registry.AgreeOn schema.node.checkNames
      (Registry.standard.registerAll (registrations actions))
      (Registry.registerAll {} (registrations others)) := by
    intro name asked
    obtain rfl : name = "positive" := List.mem_singleton.mp asked
    rw [Registry.standard_eq, Registry.lookup_registerAll, Registry.lookup_registerAll,
      Registry.lookup_registerAll]
    rfl
  have foreign : "even" ∉ schema.node.checkNames := fun asked =>
    absurd (List.mem_singleton.mp asked) (by decide)
  obtain ⟨alike, between⟩ := results_by_names {} schema
  exact ⟨agree, alike .standard {} 4 4 actions others agree, foreign,
    between .standard 4 once once "even" silent foreign⟩

end Session

end SchemaCheck
