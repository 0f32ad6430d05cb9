import Std.Data.TreeMap.Basic
import Lexicon.Spelling.Registry

/-!
# Spelling indexes

An index finds the kind of a spelling. It is filled from claims, a spelling with its kind each, and
the first claim on a spelling stands whatever is claimed later.
-/

namespace Lexicon

/-- Kinds by spelling, in the order of the spellings. -/
abbrev SpellingIndex := Std.TreeMap String Kind

namespace SpellingIndex

/-- Adds claims in order; a spelling that is already there keeps its kind. -/
def claim (index : SpellingIndex) (claims : List (String × Kind)) : SpellingIndex :=
  claims.foldl (fun index (spelling, kind) => index.insertIfNew spelling kind) index

/-- The index of a list of claims. -/
def ofClaims (claims : List (String × Kind)) : SpellingIndex := claim ∅ claims

/-- The index of several lists of entries, those of the first list before those of the second. -/
def ofEntries {γ : Type} (withSynonyms : Bool) (tables : List (List (Entry γ))) : SpellingIndex :=
  ofClaims (tables.flatten.flatMap (Entry.claims withSynonyms))

/-- The kind of a spelling. -/
def find? (index : SpellingIndex) (spelling : String) : Option Kind := index[spelling]?

/-- Every spelling with its kind, in the order of the spellings. -/
def toList (index : SpellingIndex) : List (String × Kind) := Std.TreeMap.toList index

end SpellingIndex

end Lexicon
