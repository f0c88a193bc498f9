import SchemaCheck.Proofs.Validation.Session
import SchemaCheck.Validation.Validator

/-!
Validators of either engine, and their three ways in: by value, by text, and by document. A
validator that is ready, in any state in which validations leave it, gives the result of the plain
descent (`Ready.validate_eq`), so that what holds of the plain descent holds of both engines.
-/

namespace SchemaCheck

open Json (Value)

namespace Validator

variable {settings : ValidationSettings} {registry : Registry} {validator : Validator}

def validateText (validator : Validator) (schema : Schema) (text : String) :
    Option (Except InputError ValidationResult × Validator) :=
  match validator with
  | reference settings registry =>
    some (Reference.validateText settings registry schema text, validator)
  | optimized inner =>
    (inner.validateText schema text).map fun (result, inner) => (result, optimized inner)

def validateDocument (validator : Validator) (schema : Schema) (document : Document) :
    Option (Except InputError ValidationResult × Validator) :=
  match validator with
  | reference settings registry =>
    some (Reference.validateDocument settings registry schema document, validator)
  | optimized inner =>
    (inner.validateDocument schema document).map fun (result, inner) => (result, optimized inner)

/-- The validator has these settings and checks, and its idle buffers are empty. -/
inductive Ready (settings : ValidationSettings) (registry : Registry) : Validator → Prop where
  | reference : Ready settings registry (.reference settings registry)
  | optimized {inner : OptimizedValidator} (sameSettings : inner.settings = settings)
    (sameRegistry : inner.registry = registry) (clean : inner.pool.Clean) :
    Ready settings registry (.optimized inner)

theorem create_ready (engine : Engine) (settings : ValidationSettings) :
    (create engine settings).Ready settings .standard := by
  cases engine with
  | reference => exact .reference
  | optimized => exact .optimized rfl rfl fun _ member => (nomatch member)

namespace Ready

/-- Either engine gives the result of the plain descent and is ready again. -/
theorem validate_eq (ready : validator.Ready settings registry) (schema : Schema) (value : Value) :
    ∃ next, validator.validate schema value =
      some (Reference.validate settings registry schema value, next) ∧
        next.Ready settings registry := by
  cases ready with
  | reference => exact ⟨_, rfl, .reference⟩
  | optimized sameSettings sameRegistry clean =>
    subst sameSettings sameRegistry
    obtain ⟨next, ran, keptSettings, keptRegistry, pool⟩ :=
      OptimizedValidator.validate_eq clean schema value
    refine ⟨.optimized next, ?_,
      .optimized keptSettings keptRegistry (pool ▸ ScratchPool.recycle_clean clean)⟩
    simp only [validate, ran, Option.map_some]

theorem validateText_eq (ready : validator.Ready settings registry) (schema : Schema)
    (text : String) :
    ∃ next, validator.validateText schema text =
      some (Reference.validateText settings registry schema text, next) ∧
        next.Ready settings registry := by
  cases ready with
  | reference => exact ⟨_, rfl, .reference⟩
  | optimized sameSettings sameRegistry clean =>
    subst sameSettings sameRegistry
    obtain ⟨next, ran, keptSettings, keptRegistry, pool⟩ :=
      OptimizedValidator.validateText_eq clean schema text
    refine ⟨.optimized next, ?_,
      .optimized keptSettings keptRegistry (pool ▸ ScratchPool.recycle_clean clean)⟩
    simp only [validateText, ran, Option.map_some]

theorem validateDocument_eq (ready : validator.Ready settings registry) (schema : Schema)
    (document : Document) :
    ∃ next, validator.validateDocument schema document =
      some (Reference.validateDocument settings registry schema document, next) ∧
        next.Ready settings registry := by
  cases ready with
  | reference => exact ⟨_, rfl, .reference⟩
  | optimized sameSettings sameRegistry clean =>
    subst sameSettings sameRegistry
    obtain ⟨next, ran, keptSettings, keptRegistry, pool⟩ :=
      OptimizedValidator.validateDocument_eq clean schema document
    refine ⟨.optimized next, ?_,
      .optimized keptSettings keptRegistry (pool ▸ ScratchPool.recycle_clean_if clean _)⟩
    simp only [validateDocument, ran, Option.map_some]

end Ready

end Validator

end SchemaCheck
