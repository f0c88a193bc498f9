import SchemaCheck.Number.Arithmetic
import SchemaCheck.Pattern.Parser

/-!
A cache of compiled patterns. It keeps what compiles under its text for ever, and counts how often
it had to compile and how often it did not. A text that is no pattern leaves no trace.
-/

namespace SchemaCheck

structure CompiledPattern where
  text : String
  pattern : Pattern
  compiled : Pattern.ofText? text = some pattern

/-- Compiled patterns, the latest first. -/
structure PatternCache where
  entries : List CompiledPattern := []
  compilations : Nat := 0
  hits : Nat := 0

namespace PatternCache

def find? (cache : PatternCache) (text : String) : Option CompiledPattern :=
  cache.entries.find? fun entry => entry.text == text

def contains (cache : PatternCache) (text : String) : Bool := (cache.find? text).isSome

def size (cache : PatternCache) : Nat := cache.entries.length

def isEmpty (cache : PatternCache) : Bool := cache.entries.isEmpty

/-- The pattern of a text, from the cache or else compiled and put there. -/
def request (cache : PatternCache) (text : String) : Option Pattern × PatternCache :=
  match cache.find? text with
  | some entry => (some entry.pattern, { cache with hits := cache.hits + 1 })
  | none =>
    match h : Pattern.ofText? text with
    | none => (none, cache)
    | some pattern =>
      (some pattern,
        { cache with
          entries := ⟨text, pattern, h⟩ :: cache.entries
          compilations := cache.compilations + 1 })

/-- How many of the successful requests were answered from the cache, in percent. -/
def hitRate (cache : PatternCache) : Binary64 :=
  let total := cache.hits + cache.compilations
  if total = 0 then .finite .zero
  else
    match Binary64.ofInt cache.hits, Binary64.ofInt total, Binary64.ofInt 100 with
    | .finite hits, .finite total, .finite hundred =>
      match hits.div total with
      | .finite share => share.mul hundred
      | other => other
    | _, _, _ => .nan

end PatternCache

end SchemaCheck
