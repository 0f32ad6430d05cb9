import Lexicon.Expression.Form

/-!
# Overloadable operators

The tokens whose operators a type may define. Which of them have to be defined in pairs is not
decided here.
-/

namespace Lexicon.Kind

/-- Tokens of unary operators that a type may define. -/
def overloadableUnary : List Kind :=
  [plusToken, minusToken, tildeToken, exclamationToken, plusPlusToken, minusMinusToken,
    trueKeyword, falseKeyword]

/-- Tokens of binary operators that a type may define. -/
def overloadableBinary : List Kind :=
  [plusToken, minusToken, asteriskToken, slashToken, percentToken, caretToken, ampersandToken,
    barToken, equalsEqualsToken, lessThanToken, lessThanEqualsToken, lessThanLessThanToken,
    greaterThanToken, greaterThanEqualsToken, greaterThanGreaterThanToken,
    exclamationEqualsToken]

def isOverloadableUnary (kind : Kind) : Bool := kind ∈ overloadableUnary

def isOverloadableBinary (kind : Kind) : Bool := kind ∈ overloadableBinary

def isOverloadable (kind : Kind) : Bool := kind.isOverloadableBinary || kind.isOverloadableUnary

/-- The token may follow the keyword that opens the declaration of a unary operator. -/
def declaresUnaryOperator (token : Kind) : Bool :=
  token.heads .prefixUnary || token ∈ [trueKeyword, falseKeyword]

/-- A type may define the operator that the token is in a form. -/
def isOverloadableAs (token : Kind) : ExpressionForm → Bool
  | .prefixUnary | .postfixUnary => token.isOverloadableUnary
  | .binary => token.isOverloadableBinary
  | _ => false

end Lexicon.Kind
