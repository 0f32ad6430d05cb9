import Lexicon.Directive
import Lexicon.Punctuation

/-!
# Fixed text

The text of a token is fixed by its kind for punctuation, keywords and the delimiters of
interpolated strings. Every other kind has the empty text, which means that there is none.
-/

namespace Lexicon.Kind

/-- The delimiters of an interpolated string. -/
def interpolationText? : Kind → Option String
  | interpolatedStringStartToken => some "$\""
  | interpolatedVerbatimStringStartToken => some "$@\""
  | interpolatedStringEndToken => some "\""
  | _ => none

/-- The fixed text of a kind, from the table of its block. -/
def text? (kind : Kind) : Option String :=
  match kind.category? with
  | some .simplePunctuation | some .compoundPunctuation => Punctuation.canonical? kind
  | some .reservedKeyword | some .contextualKeyword => Keyword.canonical? kind
  | some .preprocessorKeyword => Directive.canonical? kind
  | some .interpolatedToken => kind.interpolationText?
  | _ => none

/-- The fixed text of a kind, empty if there is none. -/
def text (kind : Kind) : String := kind.text?.getD ""

def hasFixedText (kind : Kind) : Bool := !kind.text.isEmpty

/-- The fixed text, or a remark that there is none. -/
def textOrRemark (kind : Kind) : String :=
  if kind.text.isEmpty then "(no fixed text)" else kind.text

end Lexicon.Kind
