import Lexicon.Audit.Violation

/-!
# Audit reports

A report gives each violation a stable code and advice, under a heading that counts them. It is laid
out without colours, so that logs can be compared.
-/

namespace Lexicon

namespace Violation

/-- Stable code of a violation. -/
def code : Violation → String
  | unordered .. => "sharpkind::unordered"
  | uncategorized .. => "sharpkind::uncategorized"
  | overlappingBlocks .. => "sharpkind::overlapping_blocks"
  | registryLength .. => "sharpkind::registry_length"
  | entryOutOfBounds .. => "sharpkind::entry_out_of_bounds"
  | entryMisplaced .. => "sharpkind::entry_misplaced"
  | derivedOutOfBounds .. => "sharpkind::derived_out_of_bounds"
  | sharedSpelling .. => "sharpkind::shared_spelling"

/-- Advice on how to mend a violation. -/
def help : Violation → String
  | unordered .. => "keep `SyntaxKind::ALL` in ascending discriminant order"
  | uncategorized .. => "add the kind to a block or widen a bound in `CATEGORY_BOUNDS`"
  | overlappingBlocks .. => "blocks must be listed in ascending order without overlap"
  | registryLength .. | entryOutOfBounds .. | entryMisplaced .. =>
    "registries list every kind of their block, in kind order"
  | derivedOutOfBounds .. => "point the mapping at a kind inside the category block"
  | sharedSpelling .. => "a spelling may resolve to one kind only; drop one of the claims"

end Violation

namespace Audit

/-- One titled paragraph of a report. -/
structure Diagnostic where
  code : String
  help : String
  message : String
  deriving DecidableEq

namespace Diagnostic

/-- A line without the blanks at its end. -/
def trimmed (line : List Char) : List Char := (line.reverse.dropWhile (· = ' ')).reverse

/-- The lines of a message: a cross marks the first one, a bar each of the others. -/
def messageLines (message : String) : List (List Char) :=
  match message.toList.splitOn '\n' with
  | [] => []
  | first :: more =>
    ("  × ".toList ++ trimmed first) :: more.map fun line => "  │ ".toList ++ trimmed line

/-- Code, message and advice, as they are printed. -/
def render (diagnostic : Diagnostic) : String :=
  diagnostic.code ++ "\n\n" ++
    "\n".intercalate ((messageLines diagnostic.message).map String.ofList) ++
    "\n  help: " ++ diagnostic.help ++ "\n"

end Diagnostic

/-- The paragraph on one violation. -/
def diagnostic (violation : Violation) : Diagnostic :=
  ⟨violation.code, violation.help, violation.message⟩

/-- The heading of a report on a number of violations. -/
def heading (count : Nat) : String :=
  "kind space has " ++ toString count ++ " invariant violation(s)"

/-- A report on violations: a summary and a paragraph for each of them. -/
structure Report where
  violations : List Violation

namespace Report

/-- The paragraph that counts the violations. -/
def summary (report : Report) : Diagnostic where
  code := "sharpkind::kind_space"
  help := "a kind, block bound, registry, or derivation table is out of step; " ++
    "fix the tables in sharpkind_core"
  message := heading report.violations.length

/-- The paragraphs on the violations, in order. -/
def related (report : Report) : List Diagnostic := report.violations.map diagnostic

def render (report : Report) : String :=
  report.summary.render ++
    String.join (report.related.map fun diagnostic => "\nError: " ++ diagnostic.render)

end Report

end Audit

end Lexicon
