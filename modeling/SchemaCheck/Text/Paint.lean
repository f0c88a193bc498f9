/-!
Text in colour for terminals. A painted text starts with its codes and ends with a reset; behind a
reset within it the codes are given again.
-/

namespace SchemaCheck.Text

structure Paint where
  codes : String
deriving DecidableEq

namespace Paint

def red : Paint := ⟨"31"⟩
def green : Paint := ⟨"32"⟩
def yellow : Paint := ⟨"33"⟩
def blue : Paint := ⟨"34"⟩
def brightBlue : Paint := ⟨"94"⟩
def dimmed : Paint := ⟨"2"⟩

def bold (paint : Paint) : Paint := ⟨if paint.codes.isEmpty then "1" else "1;" ++ paint.codes⟩

def strong : Paint := bold ⟨""⟩

def sequence (codes : String) : List Char := '\x1b' :: '[' :: (codes.toList ++ ['m'])

def reset : List Char := sequence "0"

/-- Puts the opening sequence behind every reset; `skip` characters belong to one seen before. -/
def reopen (opening : List Char) : Nat → List Char → List Char
  | _, [] => []
  | 0, c :: rest =>
    if reset.isPrefixOf (c :: rest) then c :: reopen opening (reset.length - 1) rest
    else c :: reopen opening 0 rest
  | 1, c :: rest => c :: (opening ++ reopen opening 0 rest)
  | skip + 2, c :: rest => c :: reopen opening (skip + 1) rest

def apply (paint : Paint) (text : String) : String :=
  let opening := sequence paint.codes
  String.ofList (opening ++ reopen opening 0 text.toList ++ reset)

end Paint

end SchemaCheck.Text
