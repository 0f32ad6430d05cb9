import Lexicon.Kind.Interval

/-!
# Registries

A registry lists the spellings of the kinds of one block, one entry per kind in block order, so the
place of an entry is the distance of its kind from the start of the block. Nothing here requires a
registry to be in order: one that is not answers for fewer kinds, never for a wrong one.
-/

namespace Lexicon

/-- The spellings of one kind, and the group it is listed under. -/
structure Entry (γ : Type) where
  kind : Kind
  /-- The spelling that is printed. -/
  canonical : String
  /-- Further spellings that are accepted. -/
  synonyms : List String
  group : γ

namespace Entry

variable {γ : Type}

/-- The canonical spelling and the synonyms after it. -/
def spellings (entry : Entry γ) : List String := entry.canonical :: entry.synonyms

/-- The spellings that an entry lays claim to, each with its kind. -/
def claims (withSynonyms : Bool) (entry : Entry γ) : List (String × Kind) :=
  (if withSynonyms then entry.spellings else [entry.canonical]).map fun spelling =>
    (spelling, entry.kind)

end Entry

/-- A named table of spellings for the kinds of a block. -/
structure Registry (γ : Type) where
  label : String
  block : Interval
  entries : List (Entry γ)

namespace Registry

variable {γ : Type}

/-- The entry of a kind, found by the distance of the kind from the start of the block. -/
def find? (registry : Registry γ) (kind : Kind) : Option (Entry γ) :=
  if kind ∈ registry.block then
    registry.entries[kind.code - registry.block.first.code]?.filter fun entry => entry.kind = kind
  else
    none

/-- The spellings that the entries lay claim to, in order. -/
def claims (withSynonyms : Bool) (registry : Registry γ) : List (String × Kind) :=
  registry.entries.flatMap (Entry.claims withSynonyms)

end Registry

end Lexicon
