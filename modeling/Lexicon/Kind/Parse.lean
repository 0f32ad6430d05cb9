import Lexicon.Decimal
import Lexicon.Kind.Name

/-!
# Reading a kind

A kind is written as its name or as its code. A text that is neither is unknown; a numeral within
the code range that belongs to no kind is reported as such.
-/

namespace Lexicon

/-- Why a text denotes no kind. -/
inductive KindError where
  /-- Neither a name nor a numeral within the code range. -/
  | unknownName (text : String)
  /-- A code in a gap between blocks. -/
  | unassignedCode (code : Nat)
  deriving DecidableEq

def KindError.message : KindError → String
  | unknownName text => "unknown syntax kind `" ++ text ++ "`"
  | unassignedCode code => "no syntax kind has discriminant " ++ toString code

namespace Kind

/-- Largest number that can be a code: codes are two bytes wide. -/
def maxCode : Nat := 65535

/-- The kind that a text denotes by name or, failing that, by code. -/
def parse (text : String) : Except KindError Kind :=
  match ofName? text with
  | some kind => .ok kind
  | none =>
    match Decimal.read? maxCode text with
    | none => .error (.unknownName text)
    | some code =>
      match ofCode? code with
      | some kind => .ok kind
      | none => .error (.unassignedCode code)

end Kind

end Lexicon
