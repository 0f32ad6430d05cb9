import Lexicon.Kind.Interval

/-!
# Categories

The kind space is divided into blocks, one per category. Blocks are disjoint and listed in ascending
order, and every kind lies in one of them.
-/

namespace Lexicon

/-- The blocks of the kind space, in ascending order. -/
inductive Category where
  | sentinel | simplePunctuation | compoundPunctuation | reservedKeyword | preprocessorKeyword
  | contextualKeyword | structuralToken | literalToken | interpolatedToken | trivia
  | directiveTrivia | nameNode | typeNode | prefixUnaryExpression | postfixUnaryExpression
  | binaryExpression | assignmentExpression | literalExpression | instanceExpression
  | primaryFunctionExpression | statement | switchLabel | memberDeclaration
  | accessorDeclaration
  deriving DecidableEq

namespace Category

/-- Every category, in the order of their blocks. -/
def all : List Category :=
  [.sentinel, .simplePunctuation, .compoundPunctuation, .reservedKeyword, .preprocessorKeyword,
   .contextualKeyword, .structuralToken, .literalToken, .interpolatedToken, .trivia,
   .directiveTrivia, .nameNode, .typeNode, .prefixUnaryExpression, .postfixUnaryExpression,
   .binaryExpression, .assignmentExpression, .literalExpression, .instanceExpression,
   .primaryFunctionExpression, .statement, .switchLabel, .memberDeclaration,
   .accessorDeclaration]

/-- Name of a category in messages about the layout. -/
def name : Category → String
  | sentinel => "Sentinel"
  | simplePunctuation => "SimplePunctuation"
  | compoundPunctuation => "CompoundPunctuation"
  | reservedKeyword => "ReservedKeyword"
  | preprocessorKeyword => "PreprocessorKeyword"
  | contextualKeyword => "ContextualKeyword"
  | structuralToken => "StructuralToken"
  | literalToken => "LiteralToken"
  | interpolatedToken => "InterpolatedToken"
  | trivia => "Trivia"
  | directiveTrivia => "DirectiveTrivia"
  | nameNode => "Name"
  | typeNode => "Type"
  | prefixUnaryExpression => "PrefixUnaryExpression"
  | postfixUnaryExpression => "PostfixUnaryExpression"
  | binaryExpression => "BinaryExpression"
  | assignmentExpression => "AssignmentExpression"
  | literalExpression => "LiteralExpression"
  | instanceExpression => "InstanceExpression"
  | primaryFunctionExpression => "PrimaryFunctionExpression"
  | statement => "Statement"
  | switchLabel => "SwitchLabel"
  | memberDeclaration => "MemberDeclaration"
  | accessorDeclaration => "AccessorDeclaration"

/-- Name of a category in listings. -/
def label : Category → String
  | sentinel => "sentinel"
  | simplePunctuation => "simple punctuation"
  | compoundPunctuation => "compound punctuation"
  | reservedKeyword => "reserved keyword"
  | preprocessorKeyword => "preprocessor keyword"
  | contextualKeyword => "contextual keyword"
  | structuralToken => "structural token"
  | literalToken => "literal token"
  | interpolatedToken => "interpolated string token"
  | trivia => "trivia"
  | directiveTrivia => "directive trivia"
  | nameNode => "name"
  | typeNode => "type"
  | prefixUnaryExpression => "prefix unary expression"
  | postfixUnaryExpression => "postfix unary expression"
  | binaryExpression => "binary expression"
  | assignmentExpression => "assignment expression"
  | literalExpression => "literal expression"
  | instanceExpression => "instance expression"
  | primaryFunctionExpression => "primary function expression"
  | statement => "statement"
  | switchLabel => "switch label"
  | memberDeclaration => "member declaration"
  | accessorDeclaration => "accessor declaration"

/-- The block of a category. -/
def bounds : Category → Interval
  | sentinel => ⟨.noKind, .list⟩
  | simplePunctuation => ⟨.tildeToken, .xmlProcessingInstructionEndToken⟩
  | compoundPunctuation => ⟨.barBarToken, .percentEqualsToken⟩
  | reservedKeyword => ⟨.boolKeyword, .implicitKeyword⟩
  | preprocessorKeyword => ⟨.elifKeyword, .loadKeyword⟩
  | contextualKeyword => ⟨.yieldKeyword, .underscoreToken⟩
  | structuralToken => ⟨.endOfDirectiveToken, .badToken⟩
  | literalToken => ⟨.identifierToken, .xmlTextLiteralNewLineToken⟩
  | interpolatedToken => ⟨.interpolatedStringStartToken, .interpolatedStringToken⟩
  | trivia => ⟨.endOfLineTrivia, .conflictMarkerTrivia⟩
  | directiveTrivia => ⟨.ifDirectiveTrivia, .shebangDirectiveTrivia⟩
  | nameNode => ⟨.identifierName, .aliasQualifiedName⟩
  | typeNode => ⟨.predefinedType, .tupleType⟩
  | prefixUnaryExpression => ⟨.unaryPlusExpression, .pointerIndirectionExpression⟩
  | postfixUnaryExpression => ⟨.postIncrementExpression, .postDecrementExpression⟩
  | binaryExpression => ⟨.addExpression, .coalesceExpression⟩
  | assignmentExpression => ⟨.simpleAssignmentExpression, .rightShiftAssignmentExpression⟩
  | literalExpression => ⟨.argListExpression, .nullLiteralExpression⟩
  | instanceExpression => ⟨.thisExpression, .baseExpression⟩
  | primaryFunctionExpression => ⟨.makeRefExpression, .sizeOfExpression⟩
  | statement => ⟨.checkedStatement, .uncheckedStatement⟩
  | switchLabel => ⟨.caseSwitchLabel, .defaultSwitchLabel⟩
  | memberDeclaration => ⟨.namespaceDeclaration, .eventDeclaration⟩
  | accessorDeclaration => ⟨.getAccessorDeclaration, .removeAccessorDeclaration⟩

/-- The blocks with their categories, in ascending order. -/
def layout : List (Category × Interval) :=
  all.map fun category => (category, category.bounds)

end Category

/-- The category in whose block a kind lies. -/
def Kind.category? (kind : Kind) : Option Category :=
  Category.all.find? fun category => kind ∈ category.bounds

end Lexicon
