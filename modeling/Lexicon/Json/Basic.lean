/-!
# JSON values

The values that commands print. Numbers are natural numbers, which is all that commands need.
-/

namespace Lexicon

inductive Json where
  | null
  | bool (value : Bool)
  | number (value : Nat)
  | string (text : String)
  | array (elements : List Json)
  /-- Fields in the order in which they are written. -/
  | object (fields : List (String × Json))

namespace Json

/-- Puts a field into its place among fields sorted by name, instead of one of the same name. -/
def insertField (name : String) (value : Json) : List (String × Json) → List (String × Json)
  | [] => [(name, value)]
  | (other, old) :: fields =>
    if name < other then (name, value) :: (other, old) :: fields
    else if name = other then (name, value) :: fields
    else (other, old) :: insertField name value fields

/-- The object of some fields, sorted by name. -/
def ofFields (fields : List (String × Json)) : Json :=
  .object (fields.foldl (fun sorted (name, value) => insertField name value sorted) [])

/-- The text, or null if there is none. -/
def ofText? : Option String → Json
  | none => .null
  | some text => .string text

/-- The texts, as an array. -/
def ofTexts (texts : List String) : Json := .array (texts.map .string)

end Json

end Lexicon
