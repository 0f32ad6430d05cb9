import Lexicon.Json.Basic

/-!
# Printing JSON

Values are printed over several lines: each element and each field has a line of its own, two
blanks further in than the bracket that holds it. In strings only the quote, the backslash and
control characters below the blank are escaped; every other character stands for itself.
-/

namespace Lexicon.Json

/-- The two hexadecimal digits of a number below 256. -/
def hexPair (n : Nat) : List Char := [Nat.digitChar (n / 16), Nat.digitChar (n % 16)]

/-- A character as it is written inside a string. -/
def escape (c : Char) : List Char :=
  if c = '"' then ['\\', '"']
  else if c = '\\' then ['\\', '\\']
  else if c = '\n' then ['\\', 'n']
  else if c = '\r' then ['\\', 'r']
  else if c = '\t' then ['\\', 't']
  else if c = '\x08' then ['\\', 'b']
  else if c = '\x0c' then ['\\', 'f']
  else if c.toNat < 32 then ['\\', 'u', '0', '0'] ++ hexPair c.toNat
  else [c]

/-- A string between quotes. -/
def quote (text : String) : List Char := '"' :: text.toList.flatMap escape ++ ['"']

/-- The start of a line at a depth. -/
def line (depth : Nat) : List Char := '\n' :: List.replicate (2 * depth) ' '

mutual

/-- The text of a value whose brackets stand at a depth. -/
def write (depth : Nat) : Json → List Char
  | .null => "null".toList
  | .bool true => "true".toList
  | .bool false => "false".toList
  | .number value => (toString value).toList
  | .string text => quote text
  | .array [] => ['[', ']']
  | .array (element :: elements) =>
    '[' :: line (depth + 1) ++ write (depth + 1) element ++ writeElements (depth + 1) elements ++
      line depth ++ [']']
  | .object [] => ['\x7b', '\x7d']
  | .object ((name, value) :: fields) =>
    '\x7b' :: line (depth + 1) ++ quote name ++ [':', ' '] ++ write (depth + 1) value ++
      writeFields (depth + 1) fields ++ line depth ++ ['\x7d']

/-- The elements after the first one. -/
def writeElements (depth : Nat) : List Json → List Char
  | [] => []
  | element :: elements =>
    ',' :: line depth ++ write depth element ++ writeElements depth elements

/-- The fields after the first one. -/
def writeFields (depth : Nat) : List (String × Json) → List Char
  | [] => []
  | (name, value) :: fields =>
    ',' :: line depth ++ quote name ++ [':', ' '] ++ write depth value ++ writeFields depth fields

end

/-- The text of a value. -/
def render (value : Json) : String := String.ofList (write 0 value)

end Lexicon.Json
