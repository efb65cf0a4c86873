import AccountSync.Encoding.Hex
import AccountSync.Json.Basic
import AccountSync.Json.Real

/-!
The text of a document, either without blanks (`compact`) or with one member or item a line, indented
by two blanks a level (`pretty`). Both write the same strings and numbers.
-/

set_option autoImplicit false
set_option relaxedAutoImplicit false

namespace AccountSync.Json

def escape (c : Char) : List Char :=
  if c = '"' then ['\\', '"']
  else if c = '\\' then ['\\', '\\']
  else if c = '\n' then ['\\', 'n']
  else if c = '\r' then ['\\', 'r']
  else if c = '\t' then ['\\', 't']
  else if c = '\x08' then ['\\', 'b']
  else if c = '\x0c' then ['\\', 'f']
  else if c.toNat < 32 then
    ['\\', 'u', '0', '0', Encoding.Hex.digit (c.toNat / 16), Encoding.Hex.digit (c.toNat % 16)]
  else [c]

def quote (s : String) : List Char :=
  '"' :: s.toList.flatMap escape ++ ['"']

def Number.text : Number → List Char
  | .whole n => (toString n).toList
  | .real bits => (Real.text bits).toList

mutual

def compactChars : Json → List Char
  | .null => "null".toList
  | .bool true => "true".toList
  | .bool false => "false".toList
  | .number n => n.text
  | .string s => quote s
  | .array [] => ['[', ']']
  | .array (j :: js) => '[' :: compactChars j ++ compactItems js
  | .object [] => ['\x7b', '\x7d']
  | .object ((name, j) :: ms) => '\x7b' :: quote name ++ ':' :: compactChars j ++ compactMembers ms

/-- The items after the first, and the closing bracket. -/
def compactItems : List Json → List Char
  | [] => [']']
  | j :: js => ',' :: compactChars j ++ compactItems js

/-- The members after the first, and the closing brace. -/
def compactMembers : List (String × Json) → List Char
  | [] => ['\x7d']
  | (name, j) :: ms => ',' :: quote name ++ ':' :: compactChars j ++ compactMembers ms

end

def compact (j : Json) : String :=
  String.ofList (compactChars j)

/-- A line break and the blanks of a level. -/
def newline (level : Nat) : List Char :=
  '\n' :: List.replicate (2 * level) ' '

mutual

/-- The text of a document whose first character stands on a line of the given level. -/
def prettyChars (level : Nat) : Json → List Char
  | .null => "null".toList
  | .bool true => "true".toList
  | .bool false => "false".toList
  | .number n => n.text
  | .string s => quote s
  | .array [] => ['[', ']']
  | .array (j :: js) =>
    '[' :: newline (level + 1) ++ prettyChars (level + 1) j ++ prettyItems level js
  | .object [] => ['\x7b', '\x7d']
  | .object ((name, j) :: ms) =>
    '\x7b' :: newline (level + 1) ++ quote name ++ ':' :: ' ' :: prettyChars (level + 1) j
      ++ prettyMembers level ms

def prettyItems (level : Nat) : List Json → List Char
  | [] => newline level ++ [']']
  | j :: js => ',' :: newline (level + 1) ++ prettyChars (level + 1) j ++ prettyItems level js

def prettyMembers (level : Nat) : List (String × Json) → List Char
  | [] => newline level ++ ['\x7d']
  | (name, j) :: ms =>
    ',' :: newline (level + 1) ++ quote name ++ ':' :: ' ' :: prettyChars (level + 1) j
      ++ prettyMembers level ms

end

def pretty (j : Json) : String :=
  String.ofList (prettyChars 0 j)

end AccountSync.Json
