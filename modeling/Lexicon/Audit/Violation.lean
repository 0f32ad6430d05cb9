import Lexicon.Expression.Form
import Lexicon.Kind.Name

/-!
# Violations

What can be wrong with the tables of the vocabulary. Every violation carries what its message says
and nothing else.
-/

namespace Lexicon

/-- One fault of the kind table, the layout, a registry, a derivation table or the spellings. -/
inductive Violation where
  /-- `next` comes after `previous` in the kind table and does not sort after it. -/
  | unordered (previous next : Kind)
  /-- The kind lies in no block. -/
  | uncategorized (kind : Kind)
  /-- The second block starts before the first one has ended. -/
  | overlappingBlocks (first second : Category)
  /-- The registry has too many or too few entries. -/
  | registryLength (registry : String) (expected found : Nat)
  /-- The registry has an entry for a kind of another block. -/
  | entryOutOfBounds (registry : String) (kind : Kind)
  /-- The registry has the entry of a kind of its block in the place of another. -/
  | entryMisplaced (registry : String) (expected found : Kind)
  /-- A table leads out of the block of its form. -/
  | derivedOutOfBounds (form : ExpressionForm) (token result : Kind)
  /-- Two kinds lay claim to one spelling. -/
  | sharedSpelling (spelling : String) (first second : Kind)
  deriving DecidableEq

namespace Violation

/-- A text between backticks. -/
def quoted (text : String) : String := "`" ++ text ++ "`"

def message : Violation → String
  | unordered previous next =>
    quoted next.name ++ " follows " ++ quoted previous.name ++
      " in the kind table but does not sort after it"
  | uncategorized kind => quoted kind.name ++ " lies outside every category block"
  | overlappingBlocks first second =>
    "block " ++ second.name ++ " does not start after block " ++ first.name ++ " ends"
  | registryLength registry expected found =>
    "registry " ++ quoted registry ++ " has " ++ toString found ++ " entries for a block of " ++
      toString expected ++ " kinds"
  | entryOutOfBounds registry kind =>
    "registry " ++ quoted registry ++ " entry " ++ quoted kind.name ++ " lies outside its block"
  | entryMisplaced registry expected found =>
    "registry " ++ quoted registry ++ " has " ++ quoted found.name ++ " where " ++
      quoted expected.name ++ " belongs"
  | derivedOutOfBounds form token result =>
    form.name ++ " mapping " ++ quoted token.name ++ " -> " ++ quoted result.name ++
      " lies outside the category block"
  | sharedSpelling spelling first second =>
    "spelling " ++ quoted spelling ++ " is claimed by both " ++ quoted first.name ++ " and " ++
      quoted second.name

end Violation

end Lexicon
