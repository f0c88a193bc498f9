import SchemaCheck.Pattern.Basic
import SchemaCheck.Text.Blank
import SchemaCheck.Unicode.Property

/-!
Which texts a pattern matches. A pattern takes the places of a text where it may start to the
places where it may end; places are kept in order and without repetition, so the work stays within
the number of places times the size of the pattern.
-/

namespace SchemaCheck

/-- A place in a text: how many characters lie in front of it, the last of them, and those
behind it. -/
structure Place where
  index : Nat
  before : Option Char
  after : List Char

namespace Place

def onward (index : Nat) (before : Option Char) : List Char → List Place
  | [] => [⟨index, before, []⟩]
  | c :: rest => ⟨index, before, c :: rest⟩ :: onward (index + 1) (some c) rest

def all (text : List Char) : List Place := onward 0 none text

def step? (set : Unicode.CharSet) (place : Place) : Option Place :=
  match place.after with
  | [] => none
  | c :: rest =>
    if set.contains c.toNat then some ⟨place.index + 1, some c, rest⟩ else none

/-- Goes on with the merge of two lists in front of whose first one a place stands. -/
def mergeBehind (place : Place) (rest : List Place) (merge : List Place → List Place) :
    List Place → List Place
  | [] => place :: rest
  | other :: others =>
    if place.index < other.index then place :: merge (other :: others)
    else if place.index = other.index then place :: merge others
    else other :: mergeBehind place rest merge others

def merge : List Place → List Place → List Place
  | [], others => others
  | place :: rest, others => mergeBehind place rest (merge rest) others

def isAmong (place : Place) : List Place → Bool
  | [] => false
  | other :: others =>
    if other.index < place.index then isAmong place others else other.index == place.index

def without (places others : List Place) : List Place :=
  places.filter fun place => !place.isAmong others

end Place

def isAsciiWord (c : Char) : Bool := c.isAlphanum || c == '_'

def WordClass.contains : WordClass → Char → Bool
  | unicode, c => if c.toNat < 128 then isAsciiWord c else Unicode.isWordChar c
  | ascii, c => isAsciiWord c

namespace Look

def wordSides (words : WordClass) (place : Place) : Bool × Bool :=
  (place.before.any words.contains, place.after.head?.any words.contains)

def holds (place : Place) : Look → Bool
  | textStart => place.before.isNone
  | textEnd => place.after.isEmpty
  | lineStart => place.before.isNone || place.before == some '\n'
  | lineEnd => place.after.isEmpty || place.after.head? == some '\n'
  | anyLineStart =>
    place.before.isNone || place.before == some '\n' ||
      (place.before == some '\r' && place.after.head? != some '\n')
  | anyLineEnd =>
    place.after.isEmpty || place.after.head? == some '\r' ||
      (place.after.head? == some '\n' && place.before != some '\r')
  | wordBoundary words => let (front, back) := wordSides words place; front != back
  | noWordBoundary words => let (front, back) := wordSides words place; front == back
  | wordStart words => let (front, back) := wordSides words place; !front && back
  | wordEnd words => let (front, back) := wordSides words place; front && !back
  | wordStartHalf words => !(wordSides words place).1
  | wordEndHalf words => !(wordSides words place).2

end Look

namespace Pattern

def reach : List Place → Nat
  | [] => 0
  | place :: _ => place.after.length

def iterate (step : List Place → List Place) : Nat → List Place → List Place
  | 0, places => places
  | _ + 1, [] => []
  | count + 1, place :: rest => iterate step count (step (place :: rest))

/-- The places that at most `count` steps lead to. `found` holds those that are known, and
`latest` those that the last step has added. -/
def closure (step : List Place → List Place) : Nat → List Place → List Place → List Place
  | 0, found, _ => found
  | count + 1, found, latest =>
    match Place.without (step latest) found with
    | [] => found
    | fresh => closure step count (Place.merge found fresh) fresh

/-- How many steps can still lead to new places. -/
def stepBound (least : Nat) (most : Option Nat) (places : List Place) : Nat :=
  match most with
  | none => reach places
  | some most => min (most - least) (reach places)

/-- The places where the pattern may end when it starts at one of the given places. -/
def advance : Pattern → List Place → List Place
  | empty, places => places
  | char set, places => places.filterMap (Place.step? set)
  | look test, places => places.filter fun place => test.holds place
  | cat p q, places => q.advance (p.advance places)
  | alt p q, places => Place.merge (p.advance places) (q.advance places)
  | times p least most, places =>
    let start := iterate p.advance least places
    closure p.advance (stepBound least most start) start start

def isMatch (p : Pattern) (text : String) : Bool := !(p.advance (Place.all text.toList)).isEmpty

end Pattern

end SchemaCheck
