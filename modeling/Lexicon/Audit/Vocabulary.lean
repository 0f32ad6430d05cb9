import Lexicon.Audit.Check
import Lexicon.Directive
import Lexicon.Punctuation

/-!
# The audit of the vocabulary

All checks on all tables that look-ups rely on. Nothing is found unless a table was edited wrongly.
-/

namespace Lexicon.Audit

/-- Every fault of the vocabulary, table by table. -/
def vocabulary : List Violation :=
  ordering Kind.all ++ categorized Kind.all ++ blocks Category.layout ++
  registry Keyword.reserved ++ registry Keyword.contextual ++ registry Directive.keywords ++
  registry Punctuation.simple ++ registry Punctuation.compound ++
  ExpressionForm.all.flatMap (fun form => derivations form form.table form.bounds) ++
  spellings (Keyword.reserved.claims true ++ Keyword.contextual.claims true) ++
  spellings (Directive.keywords.claims false ++ Directive.sharedClaims) ++
  spellings (Punctuation.simple.claims false ++ Punctuation.compound.claims false)

end Lexicon.Audit
