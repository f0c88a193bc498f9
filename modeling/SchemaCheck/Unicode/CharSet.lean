import SchemaCheck.Unicode.CaseFolding
import SchemaCheck.Unicode.Ranges

/-!
Sets of characters as expressions over ranges. A set is asked about one code point at a time, so
no operation has to work out the ranges of its result.
-/

namespace SchemaCheck.Unicode

inductive CharSet where
  | ranges (table : Ranges)
  | union (a b : CharSet)
  | inter (a b : CharSet)
  | diff (a b : CharSet)
  | complement (a : CharSet)
  /-- The characters that differ from one of the set in case only. -/
  | folded (a : CharSet)
deriving Inhabited

namespace CharSet

def contains : CharSet → Nat → Bool
  | ranges table, n => table.contains n
  | union a b, n => a.contains n || b.contains n
  | inter a b, n => a.contains n && b.contains n
  | diff a b, n => a.contains n && !b.contains n
  | complement a, n => !a.contains n
  | folded a, n => (caseVariants n).any a.contains

def empty : CharSet := ranges []

def single (n : Nat) : CharSet := ranges [(n, n)]

def range (low high : Nat) : CharSet := ranges [(low, high)]

def symmDiff (a b : CharSet) : CharSet := union (diff a b) (diff b a)

def unions (sets : List CharSet) : CharSet := sets.foldr union empty

def all : CharSet := complement empty

instance : Coe Ranges CharSet := ⟨ranges⟩

end CharSet

end SchemaCheck.Unicode
