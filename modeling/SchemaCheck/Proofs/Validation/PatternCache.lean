import Mathlib.Data.List.Dedup
import SchemaCheck.Proofs.Validation.Session

/-!
A pattern cache in use by any number of validators, which ask it for the patterns of what they
validate, while it is asked for patterns directly as well. What it holds and counts is told by the
list of all requests (`PatternCache.Accounts`): one request keeps this so (`request_accounts`), a
validation comes to its requests one by one (`use_eq`), and so it holds behind every run of uses
(`compiles_once`).
-/

namespace SchemaCheck

open Json (Value)

namespace PatternCache

def texts (cache : PatternCache) : List String := cache.entries.map CompiledPattern.text

section Request

variable {cache : PatternCache} {requested : List String} {text : String}

theorem contains_iff : cache.contains text = true ↔ text ∈ cache.texts := by
  simp [contains, find?, texts]

theorem compiles_of_cached (cached : text ∈ cache.texts) : Pattern.compiles text = true := by
  obtain ⟨entry, _, rfl⟩ := List.mem_map.mp cached
  exact Pattern.compiles_of_some entry.compiled

variable (cache text) in
/-- All that a request can do to a cache: count a hit, nothing, or compile and keep the pattern. -/
theorem request_cases :
    (text ∈ cache.texts ∧ (cache.request text).2 = { cache with hits := cache.hits + 1 }) ∨
    (Pattern.compiles text = false ∧ (cache.request text).2 = cache) ∨
    (text ∉ cache.texts ∧ ∃ pattern, ∃ compiled : Pattern.ofText? text = some pattern,
      (cache.request text).2 =
        { cache with
          entries := ⟨text, pattern, compiled⟩ :: cache.entries
          compilations := cache.compilations + 1 }) := by
  have cached : (cache.find? text).isSome = true ↔ text ∈ cache.texts := contains_iff
  unfold request
  split
  next entry found => exact .inl ⟨cached.mp (Option.isSome_of_eq_some found), rfl⟩
  next absent =>
    have missing : text ∉ cache.texts := fun present => by
      simpa [absent] using cached.mpr present
    split
    next broken => exact .inr (.inl ⟨by rw [Pattern.compiles, broken, Option.isSome_none], rfl⟩)
    next pattern compiled => exact .inr (.inr ⟨missing, pattern, compiled, rfl⟩)

theorem request_broken (broken : Pattern.ofText? text = none) :
    cache.request text = (none, cache) := by
  have failed : (cache.request text).1 = none := (request_fst cache text).trans broken
  rcases request_cases cache text with ⟨cached, _⟩ | ⟨_, same⟩ | ⟨_, pattern, compiled, _⟩
  · have compiles := compiles_of_cached cached
    rw [Pattern.compiles, broken] at compiles
    cases compiles
  · exact Prod.ext failed same
  · rw [broken] at compiled
    cases compiled

/-- What a cache holds and counts behind some requests. -/
structure Accounts (requested : List String) (cache : PatternCache) : Prop where
  /-- The cached texts are the patterns among the requested texts. -/
  keys : ∀ text, text ∈ cache.texts ↔ text ∈ requested ∧ Pattern.compiles text = true
  /-- Each of them is cached once. -/
  distinct : cache.texts.Nodup
  /-- Each of them has been compiled once. -/
  compilations : cache.compilations = cache.size
  /-- For each request that succeeded a hit or a compilation has been counted. -/
  successes : cache.hits + cache.compilations = requested.countP Pattern.compiles

theorem new_accounts : Accounts [] {} := ⟨by simp [texts], List.nodup_nil, rfl, rfl⟩

theorem request_accounts (accounts : cache.Accounts requested) (text : String) :
    (cache.request text).2.Accounts (requested ++ [text]) := by
  obtain ⟨keys, distinct, compilations, successes⟩ := accounts
  have asked (other : String) : other ∈ requested ++ [text] ∧ Pattern.compiles other = true ↔
      other ∈ cache.texts ∨ (other = text ∧ Pattern.compiles text = true) := by
    rw [keys, List.mem_append, List.mem_singleton, or_and_right]
    exact or_congr_right (and_congr_right fun same => by rw [same])
  have counted : (requested ++ [text]).countP Pattern.compiles =
      cache.hits + cache.compilations + if Pattern.compiles text then 1 else 0 := by
    rw [List.countP_append, List.countP_singleton, successes]
  rcases request_cases cache text with
    ⟨cached, next⟩ | ⟨broken, next⟩ | ⟨missing, pattern, compiled, next⟩
  · have compiles := compiles_of_cached cached
    rw [next]
    refine ⟨fun other => ?_, distinct, compilations, ?_⟩
    · have known : other = text → other ∈ cache.texts := fun same => same ▸ cached
      rw [asked, compiles]
      exact ⟨.inl, fun either => either.elim id fun same => known same.1⟩
    · rw [counted, compiles, if_pos rfl]
      exact Nat.add_right_comm _ _ _
  · rw [next]
    refine ⟨fun other => ?_, distinct, compilations, ?_⟩
    · rw [asked, broken]
      simp
    · rw [counted, broken]
      rfl
  · have compiles := Pattern.compiles_of_some compiled
    rw [next]
    refine ⟨fun other => ?_, List.nodup_cons.mpr ⟨missing, distinct⟩, ?_, ?_⟩
    · rw [asked, compiles, or_comm]
      simp [texts]
    · rw [size, List.length_cons, compilations]
      rfl
    · rw [counted, compiles, if_pos rfl]
      rfl

theorem requestAll_accounts (accounts : cache.Accounts requested) (more : List String) :
    (cache.requestAll more).Accounts (requested ++ more) := by
  induction more generalizing cache requested with
  | nil => rwa [List.append_nil]
  | cons text rest ih =>
    have later := ih (request_accounts accounts text)
    rwa [List.append_assoc] at later

theorem Accounts.size_eq (accounts : cache.Accounts requested) :
    cache.size = (requested.filter Pattern.compiles).dedup.length := by
  have same : cache.texts.Perm (requested.filter Pattern.compiles).dedup := by
    refine (List.perm_ext_iff_of_nodup accounts.distinct (List.nodup_dedup _)).mpr fun text => ?_
    rw [accounts.keys, List.mem_dedup, List.mem_filter]
  rw [← same.length_eq, texts, List.length_map, size]

theorem Accounts.repeated (accounts : cache.Accounts requested) {again : List String}
    (before : ∀ text ∈ again, text ∈ requested) :
    (cache.requestAll again).entries = cache.entries ∧
      (cache.requestAll again).compilations = cache.compilations := by
  induction again generalizing cache requested with
  | nil => exact ⟨rfl, rfl⟩
  | cons text rest ih =>
    have next := request_accounts accounts text
    have later := ih next fun other member =>
      List.mem_append_left _ (before other (List.mem_cons_of_mem _ member))
    have here := before text List.mem_cons_self
    change ((cache.request text).2.requestAll rest).entries = _ ∧
      ((cache.request text).2.requestAll rest).compilations = _
    rw [later.1, later.2]
    rcases request_cases cache text with ⟨_, same⟩ | ⟨_, same⟩ | ⟨missing, pattern, compiled, _⟩
    · rw [same]
      exact ⟨rfl, rfl⟩
    · rw [same]
      exact ⟨rfl, rfl⟩
    · have compiles := Pattern.compiles_of_some compiled
      exact absurd ((accounts.keys text).mpr ⟨here, compiles⟩) missing

end Request

end PatternCache

section Requests

def inputRequests (settings : ValidationSettings) (schema : Schema) (text : String) : List String :=
  match Json.parse text with
  | .ok value => nodeRequests settings schema.node 0 value
  | .error _ => []

namespace OptimizedValidator

variable (validator : OptimizedValidator) (schema : Schema)

/-- The validator with a cache in the place of its own. -/
def withCache (cache : PatternCache) : OptimizedValidator := { validator with cache }

theorem validate_cache (value : Value) :
    (validator.validate schema value).map (·.2.cache) =
      some (validator.cache.requestAll (nodeRequests validator.settings schema.node 0 value)) := by
  simp only [validate, run_eq, Option.map_some]

theorem validateText_cache (text : String) :
    (validator.validateText schema text).map (·.2.cache) =
      some (validator.cache.requestAll (inputRequests validator.settings schema text)) := by
  cases read : Json.parse text with
  | error fault =>
    simp only [validateText, inputRequests, read, Option.map_some, PatternCache.requestAll_nil]
  | ok value => simp only [validateText, inputRequests, read, run_eq, Option.map_some]

end OptimizedValidator

end Requests

namespace PatternCache

/-- A use of a cache: it is asked for a pattern, or a validator works with it. -/
inductive Use where
  | compile (text : String)
  | validate (user : OptimizedValidator) (schema : Schema) (value : Value)
  | validateText (user : OptimizedValidator) (schema : Schema) (text : String)
  | validateDocument (user : OptimizedValidator) (schema : Schema) (document : Document)

def Use.requests : Use → List String
  | .compile text => [text]
  | .validate user schema value => nodeRequests user.settings schema.node 0 value
  | .validateText user schema text => inputRequests user.settings schema text
  | .validateDocument user schema document =>
    match document.encode? with
    | some value => inputRequests user.settings schema value.compact
    | none => []

/-- The cache behind a use. There is none only where a validation ends without a result. -/
def use (cache : PatternCache) : Use → Option PatternCache
  | .compile text => some (cache.request text).2
  | .validate user schema value => ((user.withCache cache).validate schema value).map (·.2.cache)
  | .validateText user schema text =>
    ((user.withCache cache).validateText schema text).map (·.2.cache)
  | .validateDocument user schema document =>
    ((user.withCache cache).validateDocument schema document).map (·.2.cache)

def run (cache : PatternCache) (uses : List Use) : Option PatternCache := uses.foldlM use cache

theorem use_eq (cache : PatternCache) (use : Use) :
    cache.use use = some (cache.requestAll use.requests) := by
  cases use with
  | compile text => rfl
  | validate user schema value => exact (user.withCache cache).validate_cache schema value
  | validateText user schema text => exact (user.withCache cache).validateText_cache schema text
  | validateDocument user schema document =>
    cases encoded : document.encode? with
    | none =>
      simp only [PatternCache.use, OptimizedValidator.validateDocument, Use.requests, encoded]
      rfl
    | some value =>
      simp only [PatternCache.use, OptimizedValidator.validateDocument, Use.requests, encoded]
      exact (user.withCache cache).validateText_cache schema value.compact

theorem run_eq (cache : PatternCache) (uses : List Use) :
    cache.run uses = some (cache.requestAll (uses.flatMap Use.requests)) := by
  induction uses generalizing cache with
  | nil => rfl
  | cons use rest ih =>
    have next := use_eq cache use
    rw [run, List.foldlM_cons, next, Option.bind_eq_bind, Option.bind_some]
    exact (ih _).trans (by rw [requestAll_requestAll, List.flatMap_cons])

/-- Validators may share a new cache with each other and with requests of any other kind. Behind
each run of uses the cache holds the different patterns that were asked for and has compiled each of
them once; all other requests that succeeded were hits. A request is answered with the pattern of
its very text; for a text that is no pattern it fails and leaves the cache as it is. What has been
validated before is validated again, by any validator with the same settings, without anything being
cached or compiled. -/
theorem compiles_once (uses : List Use) :
    ∃ cache, run {} uses = some cache ∧ cache.Accounts (uses.flatMap Use.requests) ∧
      cache.size = ((uses.flatMap Use.requests).filter Pattern.compiles).dedup.length ∧
      (∀ text, (cache.request text).1 = Pattern.ofText? text) ∧
      (∀ text, Pattern.ofText? text = none → cache.request text = (none, cache)) ∧
      ∀ user schema value, .validate user schema value ∈ uses →
        ∀ again : OptimizedValidator, again.settings = user.settings →
          ∃ next, cache.use (.validate again schema value) = some next ∧
            next.entries = cache.entries ∧ next.compilations = cache.compilations := by
  have accounts : (requestAll {} (uses.flatMap Use.requests)).Accounts
      (uses.flatMap Use.requests) := requestAll_accounts new_accounts _
  refine ⟨_, run_eq {} uses, accounts, accounts.size_eq, request_fst _,
    fun _ => request_broken, fun user schema value used again same => ?_⟩
  refine ⟨_, use_eq _ _, accounts.repeated fun text asked => List.mem_flatMap.mpr ⟨_, used, ?_⟩⟩
  rw [Use.requests, same] at asked
  exact asked

end PatternCache

end SchemaCheck
