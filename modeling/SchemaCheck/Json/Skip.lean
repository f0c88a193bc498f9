import SchemaCheck.Json.Reader

/-!
Passing over JSON values that do not matter. They must be well formed, but numbers may be too
large, halves of pairs may stand alone, and nesting has no limit.
-/

namespace SchemaCheck.Json

inductive SkipState where
  | plain
  | escaped
  | hex (left : Nat)

def skipChars : SkipState → List Char → Except (Stop Fault) (List Char)
  | _, [] => .error ⟨.unfinishedString, 0⟩
  | .plain, c :: rest =>
    if c = '"' then .ok rest
    else if c = '\\' then skipChars .escaped rest
    else if c.toNat < 0x20 then .error ⟨.controlCharacter, bytes (c :: rest)⟩
    else skipChars .plain rest
  | .escaped, c :: rest =>
    if (simpleEscape? c).isSome then skipChars .plain rest
    else if c ≠ 'u' then .error ⟨.badEscape, bytes (c :: rest) - 1⟩
    else if bytes rest < 4 then .error ⟨.unfinishedString, 0⟩
    else skipChars (.hex 4) rest
  | .hex left, c :: rest =>
    match Text.hexDigit? c with
    | none => .error ⟨.badEscape, bytes (c :: rest) - left⟩
    | some _ => if left > 1 then skipChars (.hex (left - 1)) rest else skipChars .plain rest

def skipDigits (text : List Char) : Except (Stop Fault) (List Char) :=
  match text with
  | c :: _ =>
    if c.isDigit then .ok (text.dropWhile Char.isDigit)
    else .error ⟨.badNumber, bytes text - 1⟩
  | [] => .error ⟨.badNumber, 0⟩

def skipExponent (text : List Char) : Except (Stop Fault) (List Char) :=
  match text with
  | c :: rest =>
    if c = 'e' ∨ c = 'E' then
      match rest with
      | '+' :: digits | '-' :: digits => skipDigits digits
      | _ => skipDigits rest
    else .ok text
  | [] => .ok []

def skipNumber (text : List Char) : Except (Stop Fault) (List Char) := do
  let behind ←
    match text with
    | '0' :: rest =>
      if (rest.head?.any Char.isDigit) then .error ⟨.badNumber, bytes rest - 1⟩ else .ok rest
    | _ => skipDigits text
  match behind with
  | '.' :: fraction => skipExponent (← skipDigits fraction)
  | _ => skipExponent behind

def skipScalar (text : List Char) : Except (Stop Fault) (List Char) :=
  match text with
  | [] => .error ⟨.unfinishedValue, 0⟩
  | 'n' :: rest => (readWord "ull".toList rest).map Prod.snd
  | 't' :: rest => (readWord "rue".toList rest).map Prod.snd
  | 'f' :: rest => (readWord "alse".toList rest).map Prod.snd
  | '-' :: rest => skipNumber rest
  | '"' :: rest => skipChars .plain rest
  | c :: _ => if c.isDigit then skipNumber text else .error ⟨.missingValue, bytes text - 1⟩

def skipKey (text : List Char) : Except (Stop Fault) (List Char) :=
  match skipSpace text with
  | '"' :: rest => do
    let behind ← skipChars .plain rest
    return (← readColon behind).2
  | [] => .error ⟨.unfinishedObject, 0⟩
  | other => .error ⟨.keyNotString, bytes other - 1⟩

mutual

def skipValue : Nat → List Char → Except (Stop Fault) (List Char)
  | 0, text => .error ⟨.tooDeep, bytes text⟩
  | fuel + 1, text =>
    match skipSpace text with
    | '[' :: rest => skipItems fuel true rest
    | '\x7b' :: rest => skipFields fuel true rest
    | other => skipScalar other

def skipItems : Nat → (first : Bool) → List Char → Except (Stop Fault) (List Char)
  | 0, _, text => .error ⟨.tooDeep, bytes text⟩
  | fuel + 1, first, text =>
    match skipSpace text with
    | [] => .error ⟨.unfinishedList, 0⟩
    | ']' :: rest => .ok rest
    | c :: rest =>
      if first then do skipItems fuel false (← skipValue fuel (c :: rest))
      else if c = ',' then do skipItems fuel false (← skipValue fuel rest)
      else .error ⟨.missingListSeparator, bytes (c :: rest) - 1⟩

def skipFields : Nat → (first : Bool) → List Char → Except (Stop Fault) (List Char)
  | 0, _, text => .error ⟨.tooDeep, bytes text⟩
  | fuel + 1, first, text =>
    match skipSpace text with
    | [] => .error ⟨.unfinishedObject, 0⟩
    | '\x7d' :: rest => .ok rest
    | c :: rest =>
      if first then do skipFields fuel false (← skipValue fuel (← skipKey (c :: rest)))
      else if c = ',' then do skipFields fuel false (← skipValue fuel (← skipKey rest))
      else .error ⟨.missingObjectSeparator, bytes (c :: rest) - 1⟩

end

end SchemaCheck.Json
