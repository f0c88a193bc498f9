import SchemaCheck.Json.Value
import SchemaCheck.Number.Decimal
import SchemaCheck.Text.Ascii

/-!
JSON text of a value: on one line, or with one entry a line and two spaces for each level.
-/

namespace SchemaCheck.Json

def escapeChar (c : Char) : List Char :=
  if c = '"' then ['\\', '"']
  else if c = '\\' then ['\\', '\\']
  else if c = '\n' then ['\\', 'n']
  else if c = '\r' then ['\\', 'r']
  else if c = '\t' then ['\\', 't']
  else if c = Char.ofNat 8 then ['\\', 'b']
  else if c = Char.ofNat 12 then ['\\', 'f']
  else if c.toNat < 0x20 then
    ['\\', 'u', '0', '0', Text.hexDigit (c.toNat / 16), Text.hexDigit (c.toNat % 16)]
  else [c]

def quoted (text : String) : List Char :=
  '"' :: (text.toList.flatMap escapeChar ++ ['"'])

def Number.render : Number → List Char
  | .integer n _ _ => Text.decimal n
  | .real x => Decimal.Layout.json.render x

namespace Value

mutual

def compactChars : Value → List Char
  | .null => "null".toList
  | .bool b => (if b then "true" else "false").toList
  | .number n => n.render
  | .string text => quoted text
  | .array items => '[' :: (compactItems items ++ [']'])
  | .object fields => '\x7b' :: (compactFields fields ++ ['\x7d'])

def compactItems : List Value → List Char
  | [] => []
  | [value] => value.compactChars
  | value :: rest => value.compactChars ++ ',' :: compactItems rest

def compactFields : List (String × Value) → List Char
  | [] => []
  | [(name, value)] => quoted name ++ ':' :: value.compactChars
  | (name, value) :: rest => quoted name ++ ':' :: (value.compactChars ++ ',' :: compactFields rest)

end

def compact (value : Value) : String := String.ofList value.compactChars

def newLine (level : Nat) : List Char := '\n' :: List.replicate (2 * level) ' '

mutual

def prettyChars (level : Nat) : Value → List Char
  | .null => "null".toList
  | .bool b => (if b then "true" else "false").toList
  | .number n => n.render
  | .string text => quoted text
  | .array [] => ['[', ']']
  | .array (value :: rest) =>
    '[' :: (newLine (level + 1) ++ value.prettyChars (level + 1) ++
      prettyItems (level + 1) rest ++ newLine level ++ [']'])
  | .object [] => ['\x7b', '\x7d']
  | .object ((name, value) :: rest) =>
    '\x7b' :: (newLine (level + 1) ++ quoted name ++ [':', ' '] ++ value.prettyChars (level + 1) ++
      prettyFields (level + 1) rest ++ newLine level ++ ['\x7d'])

def prettyItems (level : Nat) : List Value → List Char
  | [] => []
  | value :: rest => ',' :: (newLine level ++ value.prettyChars level ++ prettyItems level rest)

def prettyFields (level : Nat) : List (String × Value) → List Char
  | [] => []
  | (name, value) :: rest =>
    ',' :: (newLine level ++ quoted name ++ [':', ' '] ++ value.prettyChars level ++
      prettyFields level rest)

end

def pretty (value : Value) : String := String.ofList (value.prettyChars 0)

end Value

end SchemaCheck.Json
