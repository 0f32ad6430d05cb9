import Lexicon.Audit.Vocabulary
import Lexicon.Proofs.Audit.Check
import Lexicon.Proofs.Canonical

/-!
# The audit finds nothing

The tables are in order and no spelling stands for two kinds, so no check of the vocabulary has
anything to report.
-/

namespace Lexicon.Audit

theorem registry_eq_nil_of_complete {γ : Type} {table : Registry γ} (complete : table.Complete) :
    registry table = [] :=
  registry_eq_nil_iff.mpr complete.inOrder

theorem spellings_eq_nil_of_subset {claims : List (String × Kind)} {withSynonyms : Bool}
    (sub : claims ⊆ Vocabulary.claims withSynonyms) : spellings claims = [] := by
  refine spellings_eq_nil_iff.mpr ?_
  cases withSynonyms with
  | false => exact Vocabulary.unambiguous_canonical.mono sub
  | true => exact Vocabulary.unambiguous_claims.mono sub

theorem vocabulary_eq_nil : vocabulary = [] := by
  have ascending : ordering Kind.all = [] := by decide +kernel
  have covered : categorized Kind.all = [] := by decide +kernel
  have apart : blocks Category.layout = [] := by decide +kernel
  have derived : ExpressionForm.all.flatMap
      (fun form => derivations form form.table form.bounds) = [] := by decide +kernel
  simp only [vocabulary, ascending, covered, apart, derived,
    registry_eq_nil_of_complete Vocabulary.keyword_paired.left,
    registry_eq_nil_of_complete Vocabulary.keyword_paired.right,
    registry_eq_nil_of_complete Vocabulary.directive_complete,
    registry_eq_nil_of_complete Vocabulary.punctuation_paired.left,
    registry_eq_nil_of_complete Vocabulary.punctuation_paired.right,
    spellings_eq_nil_of_subset (Vocabulary.keywords_subset true),
    spellings_eq_nil_of_subset Directive.claims_subset,
    spellings_eq_nil_of_subset (Vocabulary.punctuation_subset false), List.append_nil]

end Lexicon.Audit
