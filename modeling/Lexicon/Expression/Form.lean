import Lexicon.Kind.Category

/-!
# Expression forms

A token that can head an expression determines the kind of the node it reduces to, once it is known
in which form it stands: the plus sign is a prefix operator in one and a binary operator in another.
One table per form gives the nodes.
-/

namespace Lexicon

/-- One row of a table: `token` reduces to a node of kind `result`. -/
structure Derivation where
  token : Kind
  result : Kind
  deriving DecidableEq

/-- The forms of expression that a token can head. -/
inductive ExpressionForm where
  | prefixUnary | postfixUnary | binary | assignment | literal | instanceAccess | primaryFunction
  deriving DecidableEq

namespace ExpressionForm

def all : List ExpressionForm :=
  [.prefixUnary, .postfixUnary, .binary, .assignment, .literal, .instanceAccess, .primaryFunction]

/-- Name of a form in messages about the tables. -/
def name : ExpressionForm → String
  | prefixUnary => "PrefixUnary"
  | postfixUnary => "PostfixUnary"
  | binary => "Binary"
  | assignment => "Assignment"
  | literal => "Literal"
  | instanceAccess => "Instance"
  | primaryFunction => "PrimaryFunction"

/-- Name of a form in listings. -/
def label : ExpressionForm → String
  | prefixUnary => "prefix unary"
  | postfixUnary => "postfix unary"
  | binary => "binary"
  | assignment => "assignment"
  | literal => "literal"
  | instanceAccess => "instance"
  | primaryFunction => "primary function"

/-- The block in which the nodes of a form lie. -/
def bounds : ExpressionForm → Interval
  | prefixUnary => Category.prefixUnaryExpression.bounds
  | postfixUnary => Category.postfixUnaryExpression.bounds
  | binary => Category.binaryExpression.bounds
  | assignment => Category.assignmentExpression.bounds
  | literal => Category.literalExpression.bounds
  | instanceAccess => Category.instanceExpression.bounds
  | primaryFunction => Category.primaryFunctionExpression.bounds

/-- The tokens of a form and the nodes they reduce to. -/
def table : ExpressionForm → List Derivation
  | prefixUnary =>
    [⟨.plusToken, .unaryPlusExpression⟩,
     ⟨.minusToken, .unaryMinusExpression⟩,
     ⟨.tildeToken, .bitwiseNotExpression⟩,
     ⟨.exclamationToken, .logicalNotExpression⟩,
     ⟨.plusPlusToken, .preIncrementExpression⟩,
     ⟨.minusMinusToken, .preDecrementExpression⟩,
     ⟨.ampersandToken, .addressOfExpression⟩,
     ⟨.asteriskToken, .pointerIndirectionExpression⟩]
  | postfixUnary =>
    [⟨.plusPlusToken, .postIncrementExpression⟩,
     ⟨.minusMinusToken, .postDecrementExpression⟩]
  | binary =>
    [⟨.questionQuestionToken, .coalesceExpression⟩,
     ⟨.isKeyword, .isExpression⟩,
     ⟨.asKeyword, .asExpression⟩,
     ⟨.barToken, .bitwiseOrExpression⟩,
     ⟨.caretToken, .exclusiveOrExpression⟩,
     ⟨.ampersandToken, .bitwiseAndExpression⟩,
     ⟨.equalsEqualsToken, .equalsExpression⟩,
     ⟨.exclamationEqualsToken, .notEqualsExpression⟩,
     ⟨.lessThanToken, .lessThanExpression⟩,
     ⟨.lessThanEqualsToken, .lessThanOrEqualExpression⟩,
     ⟨.greaterThanToken, .greaterThanExpression⟩,
     ⟨.greaterThanEqualsToken, .greaterThanOrEqualExpression⟩,
     ⟨.lessThanLessThanToken, .leftShiftExpression⟩,
     ⟨.greaterThanGreaterThanToken, .rightShiftExpression⟩,
     ⟨.plusToken, .addExpression⟩,
     ⟨.minusToken, .subtractExpression⟩,
     ⟨.asteriskToken, .multiplyExpression⟩,
     ⟨.slashToken, .divideExpression⟩,
     ⟨.percentToken, .moduloExpression⟩,
     ⟨.ampersandAmpersandToken, .logicalAndExpression⟩,
     ⟨.barBarToken, .logicalOrExpression⟩]
  | assignment =>
    [⟨.barEqualsToken, .orAssignmentExpression⟩,
     ⟨.ampersandEqualsToken, .andAssignmentExpression⟩,
     ⟨.caretEqualsToken, .exclusiveOrAssignmentExpression⟩,
     ⟨.lessThanLessThanEqualsToken, .leftShiftAssignmentExpression⟩,
     ⟨.greaterThanGreaterThanEqualsToken, .rightShiftAssignmentExpression⟩,
     ⟨.plusEqualsToken, .addAssignmentExpression⟩,
     ⟨.minusEqualsToken, .subtractAssignmentExpression⟩,
     ⟨.asteriskEqualsToken, .multiplyAssignmentExpression⟩,
     ⟨.slashEqualsToken, .divideAssignmentExpression⟩,
     ⟨.percentEqualsToken, .moduloAssignmentExpression⟩,
     ⟨.equalsToken, .simpleAssignmentExpression⟩]
  | literal =>
    [⟨.stringLiteralToken, .stringLiteralExpression⟩,
     ⟨.characterLiteralToken, .characterLiteralExpression⟩,
     ⟨.numericLiteralToken, .numericLiteralExpression⟩,
     ⟨.nullKeyword, .nullLiteralExpression⟩,
     ⟨.trueKeyword, .trueLiteralExpression⟩,
     ⟨.falseKeyword, .falseLiteralExpression⟩,
     ⟨.argListKeyword, .argListExpression⟩]
  | instanceAccess =>
    [⟨.thisKeyword, .thisExpression⟩,
     ⟨.baseKeyword, .baseExpression⟩]
  | primaryFunction =>
    [⟨.makeRefKeyword, .makeRefExpression⟩,
     ⟨.refTypeKeyword, .refTypeExpression⟩,
     ⟨.refValueKeyword, .refValueExpression⟩,
     ⟨.checkedKeyword, .checkedExpression⟩,
     ⟨.uncheckedKeyword, .uncheckedExpression⟩,
     ⟨.defaultKeyword, .defaultExpression⟩,
     ⟨.typeOfKeyword, .typeOfExpression⟩,
     ⟨.sizeOfKeyword, .sizeOfExpression⟩]

/-- The node that a token reduces to in a form. -/
def derive (form : ExpressionForm) (token : Kind) : Option Kind :=
  (form.table.find? fun row => row.token = token).map (·.result)

/-- The form whose block holds a node. -/
def ofNode? (node : Kind) : Option ExpressionForm :=
  all.find? fun form => node ∈ form.bounds

end ExpressionForm

namespace Kind

/-- Every node that a token reduces to, with the form, in the order of the forms. -/
def derivations (token : Kind) : List (ExpressionForm × Kind) :=
  ExpressionForm.all.filterMap fun form =>
    (form.derive token).map fun result => (form, result)

/-- The token heads an expression of that form. -/
def heads (token : Kind) (form : ExpressionForm) : Bool := (form.derive token).isSome

/-- The token is a prefix or a postfix operator. -/
def headsUnary (token : Kind) : Bool := token.heads .prefixUnary || token.heads .postfixUnary

def isIncrementOrDecrement (token : Kind) : Bool := token ∈ [plusPlusToken, minusMinusToken]

end Kind

end Lexicon
