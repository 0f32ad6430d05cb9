import Lexicon.Kind.Basic
import Lexicon.Sorted

/-!
# Names of operator methods

A user-defined operator becomes a method with a well-known name. Some names are those of operators
that other languages have; they are known but belong to no token. A token may have two names, one
for its unary and one for its binary use.
-/

namespace Lexicon

/-- How an operator method is declared. -/
inductive Fixity where
  | unary | binary
  /-- An implicit or explicit conversion. -/
  | conversion
  deriving DecidableEq

namespace Fixity

/-- Name of a fixity in listings. -/
def name : Fixity → String
  | unary => "Unary"
  | binary => "Binary"
  | conversion => "Conversion"

/-- Name of a fixity within a sentence. -/
def lowerName : Fixity → String
  | unary => "unary"
  | binary => "binary"
  | conversion => "conversion"

end Fixity

/-- A well-known method name. -/
structure MethodName where
  name : String
  /-- The token that declares the operator, if there is one. -/
  token : Option Kind
  fixity : Fixity
  deriving DecidableEq

namespace MethodName

/-- Every well-known method name, sorted by name. -/
def all : List MethodName :=
  [⟨"op_Addition", some .plusToken, .binary⟩,
   ⟨"op_BitwiseAnd", some .ampersandToken, .binary⟩,
   ⟨"op_BitwiseOr", some .barToken, .binary⟩,
   ⟨"op_Concatenate", none, .binary⟩,
   ⟨"op_Decrement", some .minusMinusToken, .unary⟩,
   ⟨"op_Division", some .slashToken, .binary⟩,
   ⟨"op_Equality", some .equalsEqualsToken, .binary⟩,
   ⟨"op_ExclusiveOr", some .caretToken, .binary⟩,
   ⟨"op_Explicit", some .explicitKeyword, .conversion⟩,
   ⟨"op_Exponent", none, .binary⟩,
   ⟨"op_False", some .falseKeyword, .unary⟩,
   ⟨"op_GreaterThan", some .greaterThanToken, .binary⟩,
   ⟨"op_GreaterThanOrEqual", some .greaterThanEqualsToken, .binary⟩,
   ⟨"op_Implicit", some .implicitKeyword, .conversion⟩,
   ⟨"op_Increment", some .plusPlusToken, .unary⟩,
   ⟨"op_Inequality", some .exclamationEqualsToken, .binary⟩,
   ⟨"op_IntegerDivision", none, .binary⟩,
   ⟨"op_LeftShift", some .lessThanLessThanToken, .binary⟩,
   ⟨"op_LessThan", some .lessThanToken, .binary⟩,
   ⟨"op_LessThanOrEqual", some .lessThanEqualsToken, .binary⟩,
   ⟨"op_Like", none, .binary⟩,
   ⟨"op_LogicalNot", some .exclamationToken, .unary⟩,
   ⟨"op_Modulus", some .percentToken, .binary⟩,
   ⟨"op_Multiply", some .asteriskToken, .binary⟩,
   ⟨"op_OnesComplement", some .tildeToken, .unary⟩,
   ⟨"op_RightShift", some .greaterThanGreaterThanToken, .binary⟩,
   ⟨"op_Subtraction", some .minusToken, .binary⟩,
   ⟨"op_True", some .trueKeyword, .unary⟩,
   ⟨"op_UnaryNegation", some .minusToken, .unary⟩,
   ⟨"op_UnaryPlus", some .plusToken, .unary⟩]

/-- The well-known method name that a text is. -/
def find? (name : String) : Option MethodName :=
  Sorted.search (fun method => compare method.name name) all

/-- The token that declares the operator of a method name. -/
def token? (name : String) : Option Kind := (find? name).bind (·.token)

/-- The name of the method that a token declares. -/
def ofToken? (token : Kind) (fixity : Fixity) : Option String :=
  (all.find? fun method => method.token = some token ∧ method.fixity = fixity).map (·.name)

/-- Every name of a method that a token declares, sorted. -/
def namesOf (token : Kind) : List String :=
  (all.filter fun method => method.token = some token).map (·.name)

end MethodName

end Lexicon
