import SchemaCheck.Text.Ascii

/-!
Sets of code points as ascending ranges, and their written form: the ends in hexadecimal, a single
code point once, blanks in between.
-/

namespace SchemaCheck.Unicode

/-- Ranges of code points with both ends included, ascending and apart from one another. -/
abbrev Ranges := List (Nat × Nat)

namespace Ranges

def contains : Ranges → Nat → Bool
  | [], _ => false
  | (low, high) :: rest, n => if n < low then false else n ≤ high || contains rest n

/-- Reads ranges: digits go to the end that is being written, a dash starts the second end, and a
blank finishes the range. -/
def read : Option Nat → Nat → List Char → Ranges
  | low, n, [] => [(low.getD n, n)]
  | low, n, c :: rest =>
    if c = '-' then read (some n) 0 rest
    else if c = ' ' then (low.getD n, n) :: read none 0 rest
    else read low (n * 16 + (Text.hexDigit? c).getD 0) rest

def ofLines (lines : List String) : Ranges := lines.flatMap fun line => read none 0 line.toList

end Ranges

end SchemaCheck.Unicode
