import Lexicon.Kind.Category

/-!
# Families of kinds

Families that a grammar asks about: most are intervals, either the block of one category or the
union of adjacent blocks, and a few are short lists.
-/

namespace Lexicon

namespace Interval

/-- Simple and compound punctuation. -/
def punctuation : Interval :=
  ⟨Category.simplePunctuation.bounds.first, Category.compoundPunctuation.bounds.last⟩

/-- Punctuation, every keyword, and the tokens that end a directive, a comment or a file. -/
def punctuationOrKeyword : Interval := ⟨punctuation.first, .endOfFileToken⟩

/-- Plain trivia and directives. -/
def anyTrivia : Interval := ⟨Category.trivia.bounds.first, Category.directiveTrivia.bounds.last⟩

/-- Every block of tokens. -/
def anyToken : Interval :=
  ⟨Category.simplePunctuation.bounds.first, Category.interpolatedToken.bounds.last⟩

/-- Keywords that name a built-in type. -/
def predefinedTypeKeywords : Interval := ⟨.boolKeyword, .objectKeyword⟩

/-- Nodes that may stand where a type is expected. -/
def typeSyntax : Interval := ⟨Category.nameNode.bounds.first, Category.typeNode.bounds.last⟩

def typeDeclarations : Interval := ⟨.classDeclaration, .delegateDeclaration⟩

def namespaceMemberDeclarations : Interval := ⟨.namespaceDeclaration, .delegateDeclaration⟩

def globalMemberDeclarations : Interval := ⟨.globalStatement, .eventDeclaration⟩

end Interval

namespace Kind

/-! ### Keywords -/

def isReservedKeyword (kind : Kind) : Bool := kind ∈ Category.reservedKeyword.bounds

def isContextualKeyword (kind : Kind) : Bool := kind ∈ Category.contextualKeyword.bounds

/-- Reserved or contextual; keywords of directives alone are neither. -/
def isAnyKeyword (kind : Kind) : Bool := kind.isReservedKeyword || kind.isContextualKeyword

/-- Keyword of a built-in type, `void` included. -/
def isPredefinedType (kind : Kind) : Bool := kind ∈ Interval.predefinedTypeKeywords

def isAccessibilityModifier (kind : Kind) : Bool :=
  kind ∈ [publicKeyword, privateKeyword, internalKeyword, protectedKeyword]

/-- Target of an attribute that applies to a whole program. -/
def isAttributeTargetSpecifier (kind : Kind) : Bool := kind ∈ [assemblyKeyword, moduleKeyword]

/-- Contextual keyword that acts as one inside a query only. -/
def isQueryContextualKeyword (kind : Kind) : Bool :=
  kind ∈ [fromKeyword, whereKeyword, selectKeyword, groupKeyword, intoKeyword, orderByKeyword,
    joinKeyword, letKeyword, onKeyword, equalsKeyword, byKeyword, ascendingKeyword,
    descendingKeyword]

def isTypeParameterVarianceKeyword (kind : Kind) : Bool := kind ∈ [inKeyword, outKeyword]

def isAccessorDeclarationKeyword (kind : Kind) : Bool :=
  kind ∈ [getKeyword, setKeyword, addKeyword, removeKeyword]

/-! ### Keywords of directives -/

/-- Reserved keywords that are also keywords of directives. -/
def sharedWithDirectives : List Kind :=
  [trueKeyword, falseKeyword, defaultKeyword, ifKeyword, elseKeyword]

/-- Keywords of directives that are not contextual to a directive line. -/
def notDirectiveContextual : List Kind :=
  [trueKeyword, falseKeyword, defaultKeyword, hiddenKeyword, checksumKeyword, disableKeyword,
    restoreKeyword]

/-- Valid after the mark that opens a directive. -/
def isDirectiveKeyword (kind : Kind) : Bool :=
  kind ∈ Category.preprocessorKeyword.bounds || kind ∈ sharedWithDirectives

/-- Valid after the mark that opens a directive, and contextual there. -/
def isDirectiveContextualKeyword (kind : Kind) : Bool :=
  !(kind ∈ notDirectiveContextual) && kind.isDirectiveKeyword

/-! ### Punctuation -/

def isPunctuation (kind : Kind) : Bool := kind ∈ Interval.punctuation

def isCompoundPunctuation (kind : Kind) : Bool := kind ∈ Category.compoundPunctuation.bounds

def isPunctuationOrKeyword (kind : Kind) : Bool := kind ∈ Interval.punctuationOrKeyword

/-- The sign that only a debugger's expressions give a meaning. -/
def isDebuggerPunctuation (kind : Kind) : Bool := kind = dollarToken

/-- Punctuation of ordinary source text. -/
def isLanguagePunctuation (kind : Kind) : Bool :=
  kind.isPunctuation && !kind.isDebuggerPunctuation

/-- The mark that opens a directive. -/
def isDirectivePunctuation (kind : Kind) : Bool := kind = hashToken

/-! ### Trivia and other tokens -/

def isTrivia (kind : Kind) : Bool := kind ∈ Interval.anyTrivia

def isDirective (kind : Kind) : Bool := kind ∈ Category.directiveTrivia.bounds

def isDocumentationComment (kind : Kind) : Bool :=
  kind ∈ [singleLineDocumentationCommentTrivia, multiLineDocumentationCommentTrivia]

/-- Token whose text is not fixed by its kind: an identifier or a literal. -/
def isLiteral (kind : Kind) : Bool := kind ∈ Category.literalToken.bounds

def isToken (kind : Kind) : Bool := kind ∈ Interval.anyToken

/-! ### Nodes -/

def isName (kind : Kind) : Bool := kind ∈ Category.nameNode.bounds

def isTypeSyntax (kind : Kind) : Bool := kind ∈ Interval.typeSyntax

def isAssignment (kind : Kind) : Bool := kind ∈ Category.assignmentExpression.bounds

def isTypeDeclaration (kind : Kind) : Bool := kind ∈ Interval.typeDeclarations

def isNamespaceMemberDeclaration (kind : Kind) : Bool :=
  kind ∈ Interval.namespaceMemberDeclarations

def isGlobalMemberDeclaration (kind : Kind) : Bool := kind ∈ Interval.globalMemberDeclarations

def isAccessorDeclaration (kind : Kind) : Bool := kind ∈ Category.accessorDeclaration.bounds

end Kind

end Lexicon
