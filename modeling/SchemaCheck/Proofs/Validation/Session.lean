import SchemaCheck.Proofs.Validation.Descent
import SchemaCheck.Validation.Input

/-!
A validator of the optimized engine in use: between validations its patterns are asked for, its
buffers are borrowed, written to and returned, and checks are registered. Idle buffers stay empty
through all of this (`run_sound`), and an empty buffer is all that a validation needs for the result
of the plain descent, so the two engines always agree (`engines_agree`).
-/

namespace SchemaCheck

open Json (Value)

structure Scratch.Clean (scratch : Scratch) : Prop where
  errors : scratch.errors = []
  path : scratch.path = ""

theorem Scratch.reset_clean (scratch : Scratch) : scratch.reset.Clean := ⟨rfl, rfl⟩

namespace ScratchPool

def Clean (pool : ScratchPool) : Prop := ∀ scratch ∈ pool.idle, scratch.Clean

theorem acquire_clean {pool : ScratchPool} (clean : pool.Clean) :
    pool.acquire.1.Clean ∧ pool.acquire.2.Clean := by
  unfold acquire
  split
  next scratch rest idle =>
    have waiting : ∀ other ∈ scratch :: rest, other.Clean := idle ▸ clean
    exact ⟨waiting scratch List.mem_cons_self,
      fun other member => waiting other (List.mem_cons_of_mem _ member)⟩
  next idle => exact ⟨⟨rfl, rfl⟩, clean⟩

theorem release_clean {pool : ScratchPool} (clean : pool.Clean) (scratch : Scratch) :
    (pool.release scratch).Clean := by
  unfold release
  split
  next room =>
    intro other member
    cases member with
    | head => exact scratch.reset_clean
    | tail _ waiting => exact clean other waiting
  next full => exact clean

/-- The pool behind a validation: the buffer that it takes is released again. -/
def recycle (pool : ScratchPool) : ScratchPool := pool.acquire.2.release pool.acquire.1

theorem recycle_clean {pool : ScratchPool} (clean : pool.Clean) : pool.recycle.Clean :=
  release_clean (acquire_clean clean).2 _

theorem recycle_clean_if {pool : ScratchPool} (clean : pool.Clean) (taken : Bool) :
    (if taken then pool.recycle else pool).Clean := by
  split
  · exact recycle_clean clean
  · exact clean

end ScratchPool

namespace OptimizedValidator

/-- A validation adds what the plain descent finds behind the path of its buffer, asks for the
patterns of the value, and releases the buffer. -/
theorem run_eq (validator : OptimizedValidator) (schema : Schema) (value : Value)
    (scratch : Scratch) :
    validator.run schema value scratch = some
      (.ofErrors (scratch.errors ++ (Reference.nodeFindings validator.settings validator.registry
        schema.node ⟨scratch.path, 0⟩ value).map Finding.message),
      { validator with
        cache := validator.cache.requestAll (nodeRequests validator.settings schema.node 0 value)
        pool := validator.pool.release scratch }) := by
  have checked := Optimized.checkNode_reports validator.settings validator.registry schema.node
    ⟨scratch.path, 0⟩ value ⟨scratch, validator.cache⟩ rfl
  simp only [run, checked, Option.bind_eq_bind, Option.bind_some, Optimized.Progress.after,
    Scratch.takeErrors, Scratch.pushAll]
  rfl

theorem run_clean (validator : OptimizedValidator) (schema : Schema) (value : Value)
    {scratch : Scratch} (clean : scratch.Clean) :
    validator.run schema value scratch = some
      (Reference.validate validator.settings validator.registry schema value,
      { validator with
        cache := validator.cache.requestAll (nodeRequests validator.settings schema.node 0 value)
        pool := validator.pool.release scratch }) := by
  rw [run_eq, clean.errors, clean.path]
  rfl

theorem validate_eq {validator : OptimizedValidator} (clean : validator.pool.Clean)
    (schema : Schema) (value : Value) : ∃ next,
      validator.validate schema value = some
        (Reference.validate validator.settings validator.registry schema value, next) ∧
      next.settings = validator.settings ∧ next.registry = validator.registry ∧
        next.pool = validator.pool.recycle := by
  obtain ⟨buffer, _⟩ := ScratchPool.acquire_clean clean
  exact ⟨_, run_clean { validator with pool := validator.pool.acquire.2 } schema value buffer, rfl,
    rfl, rfl⟩

theorem validateText_eq {validator : OptimizedValidator} (clean : validator.pool.Clean)
    (schema : Schema) (text : String) : ∃ next,
      validator.validateText schema text = some
        (Reference.validateText validator.settings validator.registry schema text, next) ∧
      next.settings = validator.settings ∧ next.registry = validator.registry ∧
        next.pool = validator.pool.recycle := by
  obtain ⟨buffer, _⟩ := ScratchPool.acquire_clean clean
  cases read : Json.parse text with
  | error fault =>
    refine ⟨{ validator with pool := validator.pool.recycle }, ?_, rfl, rfl, rfl⟩
    simp only [validateText, Reference.validateText, read]
    rfl
  | ok value =>
    have ran := run_clean { validator with pool := validator.pool.acquire.2 } schema value buffer
    refine ⟨{ validator with
      cache := validator.cache.requestAll (nodeRequests validator.settings schema.node 0 value)
      pool := validator.pool.recycle }, ?_, rfl, rfl, rfl⟩
    simp only [validateText, Reference.validateText, read, ran, Option.map_some]
    rfl

/-- A document that cannot be encoded is turned down before a buffer is taken. -/
theorem validateDocument_eq {validator : OptimizedValidator} (clean : validator.pool.Clean)
    (schema : Schema) (document : Document) : ∃ next,
      validator.validateDocument schema document = some
        (Reference.validateDocument validator.settings validator.registry schema document, next) ∧
      next.settings = validator.settings ∧ next.registry = validator.registry ∧
        next.pool = if document.encode?.isSome then validator.pool.recycle else validator.pool := by
  unfold validateDocument Reference.validateDocument
  cases document.encode? with
  | none => exact ⟨validator, rfl, rfl, rfl, rfl⟩
  | some value => exact validateText_eq clean schema value.compact

end OptimizedValidator

/-- A validator in use, and the buffers of its pool that are on loan. -/
structure Session where
  validator : OptimizedValidator
  held : List Scratch := []

namespace Session

/-- What can happen to a validator between two validations, and the validations themselves. -/
inductive Action where
  | validate (schema : Schema) (value : Value)
  | validateText (schema : Schema) (text : String)
  | validateDocument (schema : Schema) (document : Document)
  | compile (pattern : String)
  | acquire
  | pushError (serial : Nat) (error : String)
  | extendPath (serial : Nat) (text : String)
  | takeErrors (serial : Nat)
  | release (serial : Nat)
  | register (name : String) (check : CustomCheck)

def start (settings : ValidationSettings) (registry : Registry) (maxRetained : Nat) : Session :=
  { validator := { settings, registry, pool := { maxRetained } } }

def edit (session : Session) (serial : Nat) (change : Scratch → Scratch) : Session :=
  { session with held := session.held.map fun scratch =>
      if scratch.serial = serial then change scratch else scratch }

/-- One action. There is no next session only where a validation ends without a result. -/
def step (session : Session) : Action → Option Session
  | .validate schema value =>
    (session.validator.validate schema value).map fun (_, validator) => { session with validator }
  | .validateText schema text =>
    (session.validator.validateText schema text).map fun (_, validator) =>
      { session with validator }
  | .validateDocument schema document =>
    (session.validator.validateDocument schema document).map fun (_, validator) =>
      { session with validator }
  | .compile pattern =>
    let (_, cache) := session.validator.cache.request pattern
    some { session with validator := { session.validator with cache } }
  | .acquire =>
    let (scratch, pool) := session.validator.pool.acquire
    some ⟨{ session.validator with pool }, scratch :: session.held⟩
  | .pushError serial error => some (session.edit serial (·.push error))
  | .extendPath serial text => some (session.edit serial (·.extend text))
  | .takeErrors serial => some (session.edit serial (·.takeErrors.2))
  | .release serial =>
    match session.held.find? (·.serial = serial) with
    | none => some session
    | some scratch =>
      some ⟨{ session.validator with pool := session.validator.pool.release scratch },
        session.held.filter (·.serial ≠ serial)⟩
  | .register name check =>
    let registry := session.validator.registry.register name check
    some { session with validator := { session.validator with registry } }

def run (session : Session) (actions : List Action) : Option Session :=
  actions.foldlM step session

/-- The idle buffers are empty, and the settings are those of the beginning. -/
structure Sound (settings : ValidationSettings) (session : Session) : Prop where
  pool : session.validator.pool.Clean
  settings : session.validator.settings = settings

variable {settings : ValidationSettings}

theorem start_sound (settings : ValidationSettings) (registry : Registry) (maxRetained : Nat) :
    Sound settings (start settings registry maxRetained) :=
  ⟨fun _ member => (nomatch member), rfl⟩

theorem step_sound {session : Session} (sound : Sound settings session) (action : Action) :
    ∃ next, session.step action = some next ∧ Sound settings next := by
  obtain ⟨clean, same⟩ := sound
  cases action with
  | validate schema value =>
    obtain ⟨next, ran, kept, _, pool⟩ := OptimizedValidator.validate_eq clean schema value
    exact ⟨{ session with validator := next }, by simp only [step, ran, Option.map_some],
      pool ▸ ScratchPool.recycle_clean clean, kept.trans same⟩
  | validateText schema text =>
    obtain ⟨next, ran, kept, _, pool⟩ := OptimizedValidator.validateText_eq clean schema text
    exact ⟨{ session with validator := next }, by simp only [step, ran, Option.map_some],
      pool ▸ ScratchPool.recycle_clean clean, kept.trans same⟩
  | validateDocument schema document =>
    obtain ⟨next, ran, kept, _, pool⟩ :=
      OptimizedValidator.validateDocument_eq clean schema document
    exact ⟨{ session with validator := next }, by simp only [step, ran, Option.map_some],
      pool ▸ ScratchPool.recycle_clean_if clean _, kept.trans same⟩
  | compile pattern => exact ⟨_, rfl, clean, same⟩
  | acquire => exact ⟨_, rfl, (ScratchPool.acquire_clean clean).2, same⟩
  | pushError serial error => exact ⟨_, rfl, clean, same⟩
  | extendPath serial text => exact ⟨_, rfl, clean, same⟩
  | takeErrors serial => exact ⟨_, rfl, clean, same⟩
  | release serial =>
    cases found : session.held.find? (·.serial = serial) with
    | none => exact ⟨session, by simp only [step, found], clean, same⟩
    | some scratch =>
      refine ⟨⟨{ session.validator with pool := session.validator.pool.release scratch },
        session.held.filter (·.serial ≠ serial)⟩, ?_, ScratchPool.release_clean clean scratch, same⟩
      simp only [step, found]
  | register name check => exact ⟨_, rfl, clean, same⟩

/-- No run of actions gets stuck, and none leaves anything in an idle buffer. -/
theorem run_sound {session : Session} (sound : Sound settings session) (actions : List Action) :
    ∃ next, session.run actions = some next ∧ Sound settings next := by
  induction actions generalizing session with
  | nil => exact ⟨session, rfl, sound⟩
  | cons action rest ih =>
    obtain ⟨next, stepped, after⟩ := step_sound sound action
    obtain ⟨last, ran, ended⟩ := ih after
    refine ⟨last, ?_, ended⟩
    rw [run, List.foldlM_cons, stepped]
    exact ran

/-- After any run of actions both engines, with the checks that are registered by then, say the
same about every value and about every text. -/
theorem engines_agree (settings : ValidationSettings) (registry : Registry) (maxRetained : Nat)
    (actions : List Action) :
    ∃ session, (start settings registry maxRetained).run actions = some session ∧
      (∀ schema value, ∃ next, session.validator.validate schema value =
        some (Reference.validate settings session.validator.registry schema value, next)) ∧
      (∀ schema text, ∃ next, session.validator.validateText schema text =
        some (Reference.validateText settings session.validator.registry schema text, next)) := by
  obtain ⟨session, ran, clean, same⟩ :=
    run_sound (start_sound settings registry maxRetained) actions
  refine ⟨session, ran, fun schema value => ?_, fun schema text => ?_⟩
  · obtain ⟨next, validated, _⟩ := OptimizedValidator.validate_eq clean schema value
    exact ⟨next, same ▸ validated⟩
  · obtain ⟨next, validated, _⟩ := OptimizedValidator.validateText_eq clean schema text
    exact ⟨next, same ▸ validated⟩

end Session

end SchemaCheck
