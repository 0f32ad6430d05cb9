import Lexicon.Kind.Category
import Lexicon.Spelling.Index

/-!
# Punctuation

Two tables cover punctuation: single signs with the delimiters of documentation comments, and
operators of several signs with the compound assignments. A look-up is exact and does not cut
source text into tokens. Punctuation has no synonyms.
-/

namespace Lexicon

/-- What a punctuation token is used for. -/
inductive PunctuationGroup where
  /-- Brackets, braces, parentheses and quotes. -/
  | delimiter
  | separator
  /-- Marks of access and of paths. -/
  | access
  /-- Arithmetic, logical, bitwise, relational and shift operators. -/
  | operator
  /-- The assignment sign and the compound assignments. -/
  | assignment
  | marker
  /-- Delimiters that occur in documentation comments only. -/
  | xml
  deriving DecidableEq

/-- Name of a group in listings. -/
def PunctuationGroup.name : PunctuationGroup → String
  | delimiter => "Delimiter"
  | separator => "Separator"
  | access => "Access"
  | operator => "Operator"
  | assignment => "Assignment"
  | marker => "Marker"
  | xml => "Xml"

namespace Punctuation

/-- Single signs, in the order of their kinds. -/
def simple : Registry PunctuationGroup where
  label := "simple punctuation"
  block := Category.simplePunctuation.bounds
  entries := [
    ⟨.tildeToken, "~", [], .operator⟩,
    ⟨.exclamationToken, "!", [], .operator⟩,
    ⟨.dollarToken, "$", [], .marker⟩,
    ⟨.percentToken, "%", [], .operator⟩,
    ⟨.caretToken, "^", [], .operator⟩,
    ⟨.ampersandToken, "&", [], .operator⟩,
    ⟨.asteriskToken, "*", [], .operator⟩,
    ⟨.openParenToken, "(", [], .delimiter⟩,
    ⟨.closeParenToken, ")", [], .delimiter⟩,
    ⟨.minusToken, "-", [], .operator⟩,
    ⟨.plusToken, "+", [], .operator⟩,
    ⟨.equalsToken, "=", [], .assignment⟩,
    ⟨.openBraceToken, "\x7b", [], .delimiter⟩,
    ⟨.closeBraceToken, "\x7d", [], .delimiter⟩,
    ⟨.openBracketToken, "[", [], .delimiter⟩,
    ⟨.closeBracketToken, "]", [], .delimiter⟩,
    ⟨.barToken, "|", [], .operator⟩,
    ⟨.backslashToken, "\\", [], .marker⟩,
    ⟨.colonToken, ":", [], .separator⟩,
    ⟨.semicolonToken, ";", [], .separator⟩,
    ⟨.doubleQuoteToken, "\"", [], .delimiter⟩,
    ⟨.singleQuoteToken, "'", [], .delimiter⟩,
    ⟨.lessThanToken, "<", [], .operator⟩,
    ⟨.commaToken, ",", [], .separator⟩,
    ⟨.greaterThanToken, ">", [], .operator⟩,
    ⟨.dotToken, ".", [], .access⟩,
    ⟨.questionToken, "?", [], .marker⟩,
    ⟨.hashToken, "#", [], .marker⟩,
    ⟨.slashToken, "/", [], .operator⟩,
    ⟨.slashGreaterThanToken, "/>", [], .xml⟩,
    ⟨.lessThanSlashToken, "</", [], .xml⟩,
    ⟨.xmlCommentStartToken, "<!--", [], .xml⟩,
    ⟨.xmlCommentEndToken, "-->", [], .xml⟩,
    ⟨.xmlCDataStartToken, "<![CDATA[", [], .xml⟩,
    ⟨.xmlCDataEndToken, "]]>", [], .xml⟩,
    ⟨.xmlProcessingInstructionStartToken, "<?", [], .xml⟩,
    ⟨.xmlProcessingInstructionEndToken, "?>", [], .xml⟩]

/-- Operators of several signs, in the order of their kinds. -/
def compound : Registry PunctuationGroup where
  label := "compound punctuation"
  block := Category.compoundPunctuation.bounds
  entries := [
    ⟨.barBarToken, "||", [], .operator⟩,
    ⟨.ampersandAmpersandToken, "&&", [], .operator⟩,
    ⟨.minusMinusToken, "--", [], .operator⟩,
    ⟨.plusPlusToken, "++", [], .operator⟩,
    ⟨.colonColonToken, "::", [], .access⟩,
    ⟨.questionQuestionToken, "??", [], .operator⟩,
    ⟨.minusGreaterThanToken, "->", [], .access⟩,
    ⟨.exclamationEqualsToken, "!=", [], .operator⟩,
    ⟨.equalsEqualsToken, "==", [], .operator⟩,
    ⟨.equalsGreaterThanToken, "=>", [], .marker⟩,
    ⟨.lessThanEqualsToken, "<=", [], .operator⟩,
    ⟨.lessThanLessThanToken, "<<", [], .operator⟩,
    ⟨.lessThanLessThanEqualsToken, "<<=", [], .assignment⟩,
    ⟨.greaterThanEqualsToken, ">=", [], .operator⟩,
    ⟨.greaterThanGreaterThanToken, ">>", [], .operator⟩,
    ⟨.greaterThanGreaterThanEqualsToken, ">>=", [], .assignment⟩,
    ⟨.slashEqualsToken, "/=", [], .assignment⟩,
    ⟨.asteriskEqualsToken, "*=", [], .assignment⟩,
    ⟨.barEqualsToken, "|=", [], .assignment⟩,
    ⟨.ampersandEqualsToken, "&=", [], .assignment⟩,
    ⟨.plusEqualsToken, "+=", [], .assignment⟩,
    ⟨.minusEqualsToken, "-=", [], .assignment⟩,
    ⟨.caretEqualsToken, "^=", [], .assignment⟩,
    ⟨.percentEqualsToken, "%=", [], .assignment⟩]

def index : SpellingIndex := .ofEntries false [simple.entries, compound.entries]

/-- The punctuation token of a spelling. -/
def resolve (spelling : String) : Option Kind := index.find? spelling

def find? (kind : Kind) : Option (Entry PunctuationGroup) :=
  (simple.find? kind).or (compound.find? kind)

def canonical? (kind : Kind) : Option String := (find? kind).map (·.canonical)

def group? (kind : Kind) : Option PunctuationGroup := (find? kind).map (·.group)

end Punctuation

end Lexicon
