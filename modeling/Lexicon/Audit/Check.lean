import Lexicon.Audit.Violation
import Lexicon.Spelling.Index

/-!
# Checks

Each check takes the table that it looks at, so it can be run on any table and not only on those of
the vocabulary, and lists every fault in the order of the table.
-/

namespace Lexicon.Audit

/-- Every element with the one after it. -/
def adjacent {α : Type} (elements : List α) : List (α × α) := elements.zip elements.tail

/-- Each kind of a table sorts after the one before it. -/
def ordering (kinds : List Kind) : List Violation :=
  (adjacent kinds).filterMap fun (previous, next) =>
    if next ≤ previous then some (.unordered previous next) else none

/-- Each kind lies in a block. -/
def categorized (kinds : List Kind) : List Violation :=
  kinds.filterMap fun kind =>
    if kind.category?.isNone then some (.uncategorized kind) else none

/-- Each block starts after the one before it has ended. -/
def blocks (layout : List (Category × Interval)) : List Violation :=
  (adjacent layout).filterMap fun ((first, a), (second, b)) =>
    if b.first ≤ a.last then some (.overlappingBlocks first second) else none

/-- A registry has as many entries as its block has kinds, and each in its place. -/
def registry {γ : Type} (registry : Registry γ) : List Violation :=
  let kinds := registry.block.kinds
  let length :=
    if registry.entries.length ≠ kinds.length then
      [Violation.registryLength registry.label kinds.length registry.entries.length]
    else
      []
  length ++ (registry.entries.zip kinds).filterMap fun (entry, kind) =>
    if entry.kind ∉ registry.block then
      some (.entryOutOfBounds registry.label entry.kind)
    else if entry.kind ≠ kind then
      some (.entryMisplaced registry.label kind entry.kind)
    else
      none

/-- The rows of a table lead into the block of their form. -/
def derivations (form : ExpressionForm) (table : List Derivation) (bounds : Interval) :
    List Violation :=
  table.filterMap fun row =>
    if row.result ∉ bounds then some (.derivedOutOfBounds form row.token row.result) else none

/-- No claim is for another kind than the first claim on its spelling; `claimed` holds the first
claims that were made before. -/
def spellingsAfter (claimed : SpellingIndex) : List (String × Kind) → List Violation
  | [] => []
  | (spelling, kind) :: claims =>
    match claimed.find? spelling with
    | none => spellingsAfter (claimed.claim [(spelling, kind)]) claims
    | some first =>
      if first ≠ kind then
        .sharedSpelling spelling first kind :: spellingsAfter claimed claims
      else
        spellingsAfter claimed claims

/-- No spelling is claimed for two kinds. -/
def spellings (claims : List (String × Kind)) : List Violation := spellingsAfter ∅ claims

end Lexicon.Audit
