import Lexicon.Kind.Basic
import Lexicon.Sorted

/-!
# Names of kinds

A kind has one name, in which it is printed and by which it can be found again.
-/

namespace Lexicon.Kind

/-- Name under which a kind is printed. -/
def name : Kind → String
  | noKind => "None" | list => "List"
  | tildeToken => "TildeToken" | exclamationToken => "ExclamationToken"
  | dollarToken => "DollarToken" | percentToken => "PercentToken" | caretToken => "CaretToken"
  | ampersandToken => "AmpersandToken" | asteriskToken => "AsteriskToken"
  | openParenToken => "OpenParenToken" | closeParenToken => "CloseParenToken"
  | minusToken => "MinusToken" | plusToken => "PlusToken" | equalsToken => "EqualsToken"
  | openBraceToken => "OpenBraceToken" | closeBraceToken => "CloseBraceToken"
  | openBracketToken => "OpenBracketToken" | closeBracketToken => "CloseBracketToken"
  | barToken => "BarToken" | backslashToken => "BackslashToken" | colonToken => "ColonToken"
  | semicolonToken => "SemicolonToken" | doubleQuoteToken => "DoubleQuoteToken"
  | singleQuoteToken => "SingleQuoteToken" | lessThanToken => "LessThanToken"
  | commaToken => "CommaToken" | greaterThanToken => "GreaterThanToken" | dotToken => "DotToken"
  | questionToken => "QuestionToken" | hashToken => "HashToken" | slashToken => "SlashToken"
  | slashGreaterThanToken => "SlashGreaterThanToken"
  | lessThanSlashToken => "LessThanSlashToken" | xmlCommentStartToken => "XmlCommentStartToken"
  | xmlCommentEndToken => "XmlCommentEndToken" | xmlCDataStartToken => "XmlCDataStartToken"
  | xmlCDataEndToken => "XmlCDataEndToken"
  | xmlProcessingInstructionStartToken => "XmlProcessingInstructionStartToken"
  | xmlProcessingInstructionEndToken => "XmlProcessingInstructionEndToken"
  | barBarToken => "BarBarToken" | ampersandAmpersandToken => "AmpersandAmpersandToken"
  | minusMinusToken => "MinusMinusToken" | plusPlusToken => "PlusPlusToken"
  | colonColonToken => "ColonColonToken" | questionQuestionToken => "QuestionQuestionToken"
  | minusGreaterThanToken => "MinusGreaterThanToken"
  | exclamationEqualsToken => "ExclamationEqualsToken"
  | equalsEqualsToken => "EqualsEqualsToken"
  | equalsGreaterThanToken => "EqualsGreaterThanToken"
  | lessThanEqualsToken => "LessThanEqualsToken"
  | lessThanLessThanToken => "LessThanLessThanToken"
  | lessThanLessThanEqualsToken => "LessThanLessThanEqualsToken"
  | greaterThanEqualsToken => "GreaterThanEqualsToken"
  | greaterThanGreaterThanToken => "GreaterThanGreaterThanToken"
  | greaterThanGreaterThanEqualsToken => "GreaterThanGreaterThanEqualsToken"
  | slashEqualsToken => "SlashEqualsToken" | asteriskEqualsToken => "AsteriskEqualsToken"
  | barEqualsToken => "BarEqualsToken" | ampersandEqualsToken => "AmpersandEqualsToken"
  | plusEqualsToken => "PlusEqualsToken" | minusEqualsToken => "MinusEqualsToken"
  | caretEqualsToken => "CaretEqualsToken" | percentEqualsToken => "PercentEqualsToken"
  | boolKeyword => "BoolKeyword" | byteKeyword => "ByteKeyword" | sByteKeyword => "SByteKeyword"
  | shortKeyword => "ShortKeyword" | uShortKeyword => "UShortKeyword"
  | intKeyword => "IntKeyword" | uIntKeyword => "UIntKeyword" | longKeyword => "LongKeyword"
  | uLongKeyword => "ULongKeyword" | doubleKeyword => "DoubleKeyword"
  | floatKeyword => "FloatKeyword" | decimalKeyword => "DecimalKeyword"
  | stringKeyword => "StringKeyword" | charKeyword => "CharKeyword"
  | voidKeyword => "VoidKeyword" | objectKeyword => "ObjectKeyword"
  | typeOfKeyword => "TypeOfKeyword" | sizeOfKeyword => "SizeOfKeyword"
  | nullKeyword => "NullKeyword" | trueKeyword => "TrueKeyword" | falseKeyword => "FalseKeyword"
  | ifKeyword => "IfKeyword" | elseKeyword => "ElseKeyword" | whileKeyword => "WhileKeyword"
  | forKeyword => "ForKeyword" | forEachKeyword => "ForEachKeyword" | doKeyword => "DoKeyword"
  | switchKeyword => "SwitchKeyword" | caseKeyword => "CaseKeyword"
  | defaultKeyword => "DefaultKeyword" | tryKeyword => "TryKeyword"
  | catchKeyword => "CatchKeyword" | finallyKeyword => "FinallyKeyword"
  | lockKeyword => "LockKeyword" | gotoKeyword => "GotoKeyword" | breakKeyword => "BreakKeyword"
  | continueKeyword => "ContinueKeyword" | returnKeyword => "ReturnKeyword"
  | throwKeyword => "ThrowKeyword" | publicKeyword => "PublicKeyword"
  | privateKeyword => "PrivateKeyword" | internalKeyword => "InternalKeyword"
  | protectedKeyword => "ProtectedKeyword" | staticKeyword => "StaticKeyword"
  | readOnlyKeyword => "ReadOnlyKeyword" | sealedKeyword => "SealedKeyword"
  | constKeyword => "ConstKeyword" | fixedKeyword => "FixedKeyword"
  | stackAllocKeyword => "StackAllocKeyword" | volatileKeyword => "VolatileKeyword"
  | newKeyword => "NewKeyword" | overrideKeyword => "OverrideKeyword"
  | abstractKeyword => "AbstractKeyword" | virtualKeyword => "VirtualKeyword"
  | eventKeyword => "EventKeyword" | externKeyword => "ExternKeyword"
  | refKeyword => "RefKeyword" | outKeyword => "OutKeyword" | inKeyword => "InKeyword"
  | isKeyword => "IsKeyword" | asKeyword => "AsKeyword" | paramsKeyword => "ParamsKeyword"
  | argListKeyword => "ArgListKeyword" | makeRefKeyword => "MakeRefKeyword"
  | refTypeKeyword => "RefTypeKeyword" | refValueKeyword => "RefValueKeyword"
  | thisKeyword => "ThisKeyword" | baseKeyword => "BaseKeyword"
  | namespaceKeyword => "NamespaceKeyword" | usingKeyword => "UsingKeyword"
  | classKeyword => "ClassKeyword" | structKeyword => "StructKeyword"
  | interfaceKeyword => "InterfaceKeyword" | enumKeyword => "EnumKeyword"
  | delegateKeyword => "DelegateKeyword" | checkedKeyword => "CheckedKeyword"
  | uncheckedKeyword => "UncheckedKeyword" | unsafeKeyword => "UnsafeKeyword"
  | operatorKeyword => "OperatorKeyword" | explicitKeyword => "ExplicitKeyword"
  | implicitKeyword => "ImplicitKeyword"
  | elifKeyword => "ElifKeyword" | endIfKeyword => "EndIfKeyword"
  | regionKeyword => "RegionKeyword" | endRegionKeyword => "EndRegionKeyword"
  | defineKeyword => "DefineKeyword" | undefKeyword => "UndefKeyword"
  | warningKeyword => "WarningKeyword" | errorKeyword => "ErrorKeyword"
  | lineKeyword => "LineKeyword" | pragmaKeyword => "PragmaKeyword"
  | hiddenKeyword => "HiddenKeyword" | checksumKeyword => "ChecksumKeyword"
  | disableKeyword => "DisableKeyword" | restoreKeyword => "RestoreKeyword"
  | referenceKeyword => "ReferenceKeyword" | loadKeyword => "LoadKeyword"
  | yieldKeyword => "YieldKeyword" | partialKeyword => "PartialKeyword"
  | aliasKeyword => "AliasKeyword" | globalKeyword => "GlobalKeyword"
  | assemblyKeyword => "AssemblyKeyword" | moduleKeyword => "ModuleKeyword"
  | typeKeyword => "TypeKeyword" | fieldKeyword => "FieldKeyword"
  | methodKeyword => "MethodKeyword" | paramKeyword => "ParamKeyword"
  | propertyKeyword => "PropertyKeyword" | typeVarKeyword => "TypeVarKeyword"
  | getKeyword => "GetKeyword" | setKeyword => "SetKeyword" | addKeyword => "AddKeyword"
  | removeKeyword => "RemoveKeyword" | whereKeyword => "WhereKeyword"
  | fromKeyword => "FromKeyword" | groupKeyword => "GroupKeyword" | joinKeyword => "JoinKeyword"
  | intoKeyword => "IntoKeyword" | letKeyword => "LetKeyword" | byKeyword => "ByKeyword"
  | selectKeyword => "SelectKeyword" | orderByKeyword => "OrderByKeyword"
  | onKeyword => "OnKeyword" | equalsKeyword => "EqualsKeyword"
  | ascendingKeyword => "AscendingKeyword" | descendingKeyword => "DescendingKeyword"
  | nameOfKeyword => "NameOfKeyword" | asyncKeyword => "AsyncKeyword"
  | awaitKeyword => "AwaitKeyword" | whenKeyword => "WhenKeyword"
  | underscoreToken => "UnderscoreToken"
  | endOfDirectiveToken => "EndOfDirectiveToken"
  | endOfDocumentationCommentToken => "EndOfDocumentationCommentToken"
  | endOfFileToken => "EndOfFileToken" | badToken => "BadToken"
  | identifierToken => "IdentifierToken" | numericLiteralToken => "NumericLiteralToken"
  | characterLiteralToken => "CharacterLiteralToken"
  | stringLiteralToken => "StringLiteralToken"
  | xmlEntityLiteralToken => "XmlEntityLiteralToken"
  | xmlTextLiteralToken => "XmlTextLiteralToken"
  | xmlTextLiteralNewLineToken => "XmlTextLiteralNewLineToken"
  | interpolatedStringStartToken => "InterpolatedStringStartToken"
  | interpolatedVerbatimStringStartToken => "InterpolatedVerbatimStringStartToken"
  | interpolatedStringTextToken => "InterpolatedStringTextToken"
  | interpolatedStringEndToken => "InterpolatedStringEndToken"
  | interpolatedStringToken => "InterpolatedStringToken"
  | endOfLineTrivia => "EndOfLineTrivia" | whitespaceTrivia => "WhitespaceTrivia"
  | singleLineCommentTrivia => "SingleLineCommentTrivia"
  | multiLineCommentTrivia => "MultiLineCommentTrivia"
  | documentationCommentExteriorTrivia => "DocumentationCommentExteriorTrivia"
  | singleLineDocumentationCommentTrivia => "SingleLineDocumentationCommentTrivia"
  | multiLineDocumentationCommentTrivia => "MultiLineDocumentationCommentTrivia"
  | disabledTextTrivia => "DisabledTextTrivia" | conflictMarkerTrivia => "ConflictMarkerTrivia"
  | ifDirectiveTrivia => "IfDirectiveTrivia" | elifDirectiveTrivia => "ElifDirectiveTrivia"
  | elseDirectiveTrivia => "ElseDirectiveTrivia"
  | endIfDirectiveTrivia => "EndIfDirectiveTrivia"
  | regionDirectiveTrivia => "RegionDirectiveTrivia"
  | endRegionDirectiveTrivia => "EndRegionDirectiveTrivia"
  | defineDirectiveTrivia => "DefineDirectiveTrivia"
  | undefDirectiveTrivia => "UndefDirectiveTrivia"
  | errorDirectiveTrivia => "ErrorDirectiveTrivia"
  | warningDirectiveTrivia => "WarningDirectiveTrivia"
  | lineDirectiveTrivia => "LineDirectiveTrivia"
  | pragmaWarningDirectiveTrivia => "PragmaWarningDirectiveTrivia"
  | pragmaChecksumDirectiveTrivia => "PragmaChecksumDirectiveTrivia"
  | referenceDirectiveTrivia => "ReferenceDirectiveTrivia"
  | loadDirectiveTrivia => "LoadDirectiveTrivia" | badDirectiveTrivia => "BadDirectiveTrivia"
  | shebangDirectiveTrivia => "ShebangDirectiveTrivia"
  | identifierName => "IdentifierName" | qualifiedName => "QualifiedName"
  | genericName => "GenericName" | aliasQualifiedName => "AliasQualifiedName"
  | predefinedType => "PredefinedType" | arrayType => "ArrayType" | pointerType => "PointerType"
  | nullableType => "NullableType" | tupleType => "TupleType"
  | unaryPlusExpression => "UnaryPlusExpression"
  | unaryMinusExpression => "UnaryMinusExpression"
  | bitwiseNotExpression => "BitwiseNotExpression"
  | logicalNotExpression => "LogicalNotExpression"
  | preIncrementExpression => "PreIncrementExpression"
  | preDecrementExpression => "PreDecrementExpression"
  | addressOfExpression => "AddressOfExpression"
  | pointerIndirectionExpression => "PointerIndirectionExpression"
  | postIncrementExpression => "PostIncrementExpression"
  | postDecrementExpression => "PostDecrementExpression"
  | addExpression => "AddExpression" | subtractExpression => "SubtractExpression"
  | multiplyExpression => "MultiplyExpression" | divideExpression => "DivideExpression"
  | moduloExpression => "ModuloExpression" | leftShiftExpression => "LeftShiftExpression"
  | rightShiftExpression => "RightShiftExpression"
  | logicalOrExpression => "LogicalOrExpression"
  | logicalAndExpression => "LogicalAndExpression"
  | bitwiseOrExpression => "BitwiseOrExpression"
  | bitwiseAndExpression => "BitwiseAndExpression"
  | exclusiveOrExpression => "ExclusiveOrExpression" | equalsExpression => "EqualsExpression"
  | notEqualsExpression => "NotEqualsExpression" | lessThanExpression => "LessThanExpression"
  | lessThanOrEqualExpression => "LessThanOrEqualExpression"
  | greaterThanExpression => "GreaterThanExpression"
  | greaterThanOrEqualExpression => "GreaterThanOrEqualExpression"
  | isExpression => "IsExpression" | asExpression => "AsExpression"
  | coalesceExpression => "CoalesceExpression"
  | simpleAssignmentExpression => "SimpleAssignmentExpression"
  | addAssignmentExpression => "AddAssignmentExpression"
  | subtractAssignmentExpression => "SubtractAssignmentExpression"
  | multiplyAssignmentExpression => "MultiplyAssignmentExpression"
  | divideAssignmentExpression => "DivideAssignmentExpression"
  | moduloAssignmentExpression => "ModuloAssignmentExpression"
  | andAssignmentExpression => "AndAssignmentExpression"
  | exclusiveOrAssignmentExpression => "ExclusiveOrAssignmentExpression"
  | orAssignmentExpression => "OrAssignmentExpression"
  | leftShiftAssignmentExpression => "LeftShiftAssignmentExpression"
  | rightShiftAssignmentExpression => "RightShiftAssignmentExpression"
  | argListExpression => "ArgListExpression"
  | numericLiteralExpression => "NumericLiteralExpression"
  | stringLiteralExpression => "StringLiteralExpression"
  | characterLiteralExpression => "CharacterLiteralExpression"
  | trueLiteralExpression => "TrueLiteralExpression"
  | falseLiteralExpression => "FalseLiteralExpression"
  | nullLiteralExpression => "NullLiteralExpression"
  | thisExpression => "ThisExpression" | baseExpression => "BaseExpression"
  | makeRefExpression => "MakeRefExpression" | refTypeExpression => "RefTypeExpression"
  | refValueExpression => "RefValueExpression" | checkedExpression => "CheckedExpression"
  | uncheckedExpression => "UncheckedExpression" | defaultExpression => "DefaultExpression"
  | typeOfExpression => "TypeOfExpression" | sizeOfExpression => "SizeOfExpression"
  | checkedStatement => "CheckedStatement" | uncheckedStatement => "UncheckedStatement"
  | caseSwitchLabel => "CaseSwitchLabel" | defaultSwitchLabel => "DefaultSwitchLabel"
  | namespaceDeclaration => "NamespaceDeclaration" | classDeclaration => "ClassDeclaration"
  | structDeclaration => "StructDeclaration" | interfaceDeclaration => "InterfaceDeclaration"
  | enumDeclaration => "EnumDeclaration" | delegateDeclaration => "DelegateDeclaration"
  | globalStatement => "GlobalStatement" | fieldDeclaration => "FieldDeclaration"
  | eventFieldDeclaration => "EventFieldDeclaration" | methodDeclaration => "MethodDeclaration"
  | propertyDeclaration => "PropertyDeclaration" | eventDeclaration => "EventDeclaration"
  | getAccessorDeclaration => "GetAccessorDeclaration"
  | setAccessorDeclaration => "SetAccessorDeclaration"
  | addAccessorDeclaration => "AddAccessorDeclaration"
  | removeAccessorDeclaration => "RemoveAccessorDeclaration"

/-- The kind of that name; upper and lower case differ. -/
def ofName? (name : String) : Option Kind :=
  all.find? fun kind => kind.name = name

/-- The kind of that code, if the code is assigned. -/
def ofCode? (code : Nat) : Option Kind :=
  Sorted.search (fun kind => compare kind.code code) all

end Lexicon.Kind
