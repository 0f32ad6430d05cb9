import Lexicon.Directive
import Lexicon.Json.Basic
import Lexicon.Kind.Name
import Lexicon.Marker
import Lexicon.Punctuation

/-!
# Classifying spellings

One spelling is looked up everywhere at once: among keywords, among the keywords of directives, in
the tables of punctuation and among the markers. A spelling that is found nowhere is an identifier.
-/

namespace Lexicon

/-- What a spelling is to each of the look-ups. -/
structure Classification where
  spelling : String
  /-- A reserved or contextual keyword. -/
  keyword : Option Kind
  /-- A keyword when it follows the mark of a directive. -/
  directive : Option Kind
  punctuation : Option Kind
  marker : Option Marker
  deriving DecidableEq

/-- The keyword of a spelling; without synonyms only of the canonical spelling. -/
def Keyword.accept (synonyms : Bool) (spelling : String) : Option Kind :=
  (Keyword.resolve spelling).filter fun kind =>
    synonyms || Keyword.canonical? kind = some spelling

/-- The marker of a spelling; without synonyms that of an implicit type has its canonical spelling
only. -/
def Marker.accept (synonyms : Bool) (spelling : String) : Option Marker :=
  if Marker.implicitType.IsSpelledBy spelling ∧
      (synonyms ∨ spelling = Marker.implicitType.canonical) then
    some .implicitType
  else if Marker.unmanaged.IsSpelledBy spelling then
    some .unmanaged
  else
    none

/-- Looks a spelling up everywhere. -/
def classify (synonyms : Bool) (spelling : String) : Classification where
  spelling := spelling
  keyword := Keyword.accept synonyms spelling
  directive := Directive.resolve spelling
  punctuation := Punctuation.resolve spelling
  marker := Marker.accept synonyms spelling

namespace Classification

/-- No look-up has found anything. -/
def isIdentifier (c : Classification) : Bool :=
  c.keyword.isNone && c.directive.isNone && c.punctuation.isNone && c.marker.isNone

/-- A remark on a spelling that is not the canonical one. -/
def synonymRemark (spelling canonical : String) : String :=
  if canonical = spelling then "" else " (synonym of `" ++ canonical ++ "`)"

/-- What is said about a keyword. -/
def keywordPart (spelling : String) (kind : Kind) : String :=
  (kind.category?.map Category.label).getD "keyword" ++ " " ++ kind.name ++
    ((Keyword.canonical? kind).map (synonymRemark spelling)).getD ""

/-- What is said about a marker. -/
def markerPart (spelling : String) (marker : Marker) : String :=
  "pseudo-keyword " ++ marker.canonical ++ synonymRemark spelling marker.canonical

/-- What each look-up has found. -/
def parts (c : Classification) : List String :=
  (c.keyword.map (keywordPart c.spelling)).toList ++
  (c.directive.map fun kind => "directive keyword " ++ kind.name).toList ++
  (c.punctuation.map fun kind => "punctuation " ++ kind.name).toList ++
  (c.marker.map (markerPart c.spelling)).toList

/-- The spelling and what it is, on one line. -/
def line (c : Classification) : String :=
  c.spelling ++ ": " ++ (if c.parts.isEmpty then "identifier" else "; ".intercalate c.parts)

/-- What is known of a keyword. -/
def keywordJson (kind : Kind) : Json :=
  .ofFields
    [("kind", .string kind.name), ("block", .ofText? (kind.category?.map Category.label)),
      ("canonical", .ofText? (Keyword.canonical? kind)),
      ("category", .ofText? ((Keyword.group? kind).map KeywordGroup.label))]

def json (c : Classification) : Json :=
  .ofFields
    [("spelling", .string c.spelling), ("keyword", (c.keyword.map keywordJson).getD .null),
      ("directive", .ofText? (c.directive.map Kind.name)),
      ("punctuation", .ofText? (c.punctuation.map Kind.name)),
      ("pseudo", .ofText? (c.marker.map Marker.canonical)),
      ("identifier", .bool c.isIdentifier)]

end Classification

end Lexicon
