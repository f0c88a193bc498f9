import SchemaCheck.Number.Power
import SchemaCheck.Unicode.CharSet

/-!
Patterns, the regular expressions of schemas, as trees. What a pattern captures is never asked for,
so groups leave no trace, and neither does the choice between short and long repetitions.
-/

namespace SchemaCheck

open Unicode (CharSet)

inductive WordClass where
  | unicode
  | ascii
deriving DecidableEq

/-- A condition on the characters around a place. -/
inductive Look where
  | textStart
  | textEnd
  | lineStart
  | lineEnd
  /-- Lines end in a carriage return, a line feed, or both. -/
  | anyLineStart
  | anyLineEnd
  | wordBoundary (words : WordClass)
  | noWordBoundary (words : WordClass)
  | wordStart (words : WordClass)
  | wordEnd (words : WordClass)
  /-- No word character in front. -/
  | wordStartHalf (words : WordClass)
  /-- No word character behind. -/
  | wordEndHalf (words : WordClass)
deriving DecidableEq

inductive Pattern where
  | empty
  | char (set : CharSet)
  | look (test : Look)
  | cat (p q : Pattern)
  | alt (p q : Pattern)
  /-- At least `least` times the same pattern, and at most `most` times if that is bounded. -/
  | times (p : Pattern) (least : Nat) (most : Option Nat)
deriving Inhabited

namespace Pattern

def cats : List Pattern → Pattern
  | [] => empty
  | [p] => p
  | p :: rest => cat p (cats rest)

def alts : List Pattern → Pattern
  | [] => empty
  | [p] => p
  | p :: rest => alt p (alts rest)

end Pattern

def Unicode.CharSet.weight : CharSet → Nat
  | ranges table => table.length
  | union a b | inter a b | diff a b => a.weight + b.weight
  | complement a => a.weight + 1
  | folded a => 2 * a.weight

def Unicode.CharSet.staysAscii : CharSet → Bool
  | ranges table => table.all fun range => range.2 < 128
  | union a b => a.staysAscii && b.staysAscii
  | inter a b => a.staysAscii || b.staysAscii
  | diff a _ => a.staysAscii
  | complement _ | folded _ => false

namespace Pattern

def instructionSize : Nat := 32

def sizeLimit : Nat := 10 * twoTo 20

/-- The size of the program that a pattern stands for: an instruction for each test and each
choice, and a copy of the repeated program for each repetition that is counted. -/
def programSize : Pattern → Nat
  | empty | look _ => instructionSize
  | char set =>
    if set.staysAscii then instructionSize + 8 * set.weight
    else 3 * instructionSize + 24 * set.weight
  | cat p q => p.programSize + q.programSize
  | alt p q => p.programSize + q.programSize + instructionSize
  | times p least none => (least + 1) * p.programSize + instructionSize
  | times p least (some most) =>
    least * p.programSize + (most - least) * (p.programSize + instructionSize + 8)

end Pattern

end SchemaCheck
