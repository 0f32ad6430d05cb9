import Lexicon.Keyword.Reserved
import Lexicon.Keyword.Contextual
import Lexicon.Spelling.Index

/-!
# Looking keywords up

From a spelling to its keyword, by an index, and from a keyword to its entry, by its place in the
block. Reserved keywords come before contextual ones in both directions.
-/

namespace Lexicon.Keyword

def reservedIndex : SpellingIndex := .ofEntries true [reserved.entries]

def contextualIndex : SpellingIndex := .ofEntries true [contextual.entries]

/-- The reserved keyword of a spelling. -/
def resolveReserved (spelling : String) : Option Kind := reservedIndex.find? spelling

/-- The contextual keyword of a spelling. -/
def resolveContextual (spelling : String) : Option Kind := contextualIndex.find? spelling

/-- The keyword of a spelling, canonical or synonym. -/
def resolve (spelling : String) : Option Kind :=
  (resolveReserved spelling).or (resolveContextual spelling)

/-- The entry of a reserved or contextual keyword. -/
def find? (kind : Kind) : Option (Entry KeywordGroup) :=
  (reserved.find? kind).or (contextual.find? kind)

def canonical? (kind : Kind) : Option String := (find? kind).map (·.canonical)

/-- The synonyms of a keyword; none for a kind that is no keyword. -/
def synonyms (kind : Kind) : List String := ((find? kind).map (·.synonyms)).getD []

def group? (kind : Kind) : Option KeywordGroup := (find? kind).map (·.group)

end Lexicon.Keyword
