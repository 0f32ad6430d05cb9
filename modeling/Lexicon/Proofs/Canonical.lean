import Lexicon.Proofs.Keyword

/-!
# Canonical look-ups

Directives and punctuation are looked up by canonical spelling alone, and there the look-up and the
fixed text are inverse to each other. Each look-up is inverse on its own family only: a delimiter of
interpolated strings has the text of a punctuation token.

## Main statements

* `Directive.resolve_eq_some_iff`, `Punctuation.resolve_eq_some_iff`: the look-up finds the kinds of
  its family by their fixed text.
* `Kind.resolve_eq_some_iff_text`: both, and that the family cannot be left out.
-/

namespace Lexicon

variable {spelling : String} {kind : Kind}

/-! ## Directives -/

namespace Directive

theorem mem_claims_iff : (spelling, kind) ∈ keywords.claims false ↔
    kind ∈ Category.preprocessorKeyword.bounds ∧ kind.text = spelling := by
  constructor
  · intro mem
    have inside : kind ∈ Category.preprocessorKeyword.bounds :=
      Vocabulary.directive_complete.inOrder.mem_block_of_mem_claims
        (Registry.claims_false_subset _ mem)
    exact ⟨inside, (Kind.text_eq_iff_of_mem_preprocessorKeyword inside).mpr mem⟩
  · rintro ⟨inside, own⟩
    exact (Kind.text_eq_iff_of_mem_preprocessorKeyword inside).mp own

theorem isAnyKeyword_of_mem_shared (mem : kind ∈ Kind.sharedWithDirectives) :
    kind.isAnyKeyword := by
  simp only [Kind.sharedWithDirectives, List.mem_cons, List.not_mem_nil, or_false] at mem
  rcases mem with rfl | rfl | rfl | rfl | rfl <;> decide

theorem mem_sharedClaims_iff : (spelling, kind) ∈ sharedClaims ↔
    kind ∈ Kind.sharedWithDirectives ∧ kind.text = spelling := by
  have listed : (spelling, kind) ∈ sharedClaims ↔
      kind ∈ Kind.sharedWithDirectives ∧ Keyword.canonical? kind = some spelling := by
    simp [sharedClaims]
  rw [listed]
  refine and_congr_right fun mem => ?_
  rw [Kind.text_eq_iff_of_isAnyKeyword (isAnyKeyword_of_mem_shared mem),
    Keyword.mem_claims_false_iff]

/-- The claims of directives are among those of the vocabulary, each shared one as a claim of the
keywords. -/
theorem claims_subset : keywords.claims false ++ sharedClaims ⊆ Vocabulary.claims false := by
  refine List.append_subset.mpr ⟨Vocabulary.directives_subset false, ?_⟩
  rintro ⟨spelling, kind⟩ mem
  obtain ⟨shared, own⟩ := mem_sharedClaims_iff.mp mem
  have keyword := isAnyKeyword_of_mem_shared shared
  exact Vocabulary.keywords_subset false ((Kind.text_eq_iff_of_isAnyKeyword keyword).mp own)

theorem resolve_eq_some_iff_mem : resolve spelling = some kind ↔
    (spelling, kind) ∈ keywords.claims false ++ sharedClaims := by
  have unambiguous := Vocabulary.unambiguous_canonical.mono claims_subset
  rw [resolve, index, Registry.ofEntries_singleton, SpellingIndex.claim_ofClaims,
    SpellingIndex.find?_ofClaims_eq_some_iff _ unambiguous]

theorem resolve_eq_some_iff : resolve spelling = some kind ↔
    kind.isDirectiveKeyword ∧ kind.text = spelling := by
  rw [resolve_eq_some_iff_mem, List.mem_append, mem_claims_iff, mem_sharedClaims_iff,
    ← or_and_right]
  simp [Kind.isDirectiveKeyword]

end Directive

/-! ## Punctuation -/

namespace Punctuation

theorem mem_claims_iff : (spelling, kind) ∈ simple.claims false ++ compound.claims false ↔
    kind.isPunctuation ∧ kind.text = spelling := by
  constructor
  · intro mem
    have family : kind.isPunctuation := by
      rw [Kind.isPunctuation_iff]
      exact (List.mem_append.mp mem).imp
        (fun mem => Vocabulary.punctuation_paired.left.inOrder.mem_block_of_mem_claims
          (Registry.claims_false_subset _ mem))
        (fun mem => Vocabulary.punctuation_paired.right.inOrder.mem_block_of_mem_claims
          (Registry.claims_false_subset _ mem))
    exact ⟨family, (Kind.text_eq_iff_of_isPunctuation family).mpr mem⟩
  · rintro ⟨family, own⟩
    exact (Kind.text_eq_iff_of_isPunctuation family).mp own

theorem resolve_eq_some_iff : resolve spelling = some kind ↔
    kind.isPunctuation ∧ kind.text = spelling := by
  have unambiguous := Vocabulary.unambiguous_canonical.mono (Vocabulary.punctuation_subset false)
  rw [resolve, index, Registry.ofEntries_pair,
    SpellingIndex.find?_ofClaims_eq_some_iff _ unambiguous, mem_claims_iff]

end Punctuation

/-! ## Both look-ups -/

/-- The canonical look-ups are inverse to the fixed text, each on the kinds of its family, though
the fixed text is not injective on all kinds. -/
theorem Kind.resolve_eq_some_iff_text (spelling : String) (kind : Kind) :
    (Directive.resolve spelling = some kind ↔
      kind.isDirectiveKeyword ∧ kind.text = spelling) ∧
    (Punctuation.resolve spelling = some kind ↔ kind.isPunctuation ∧ kind.text = spelling) ∧
    ¬Function.Injective Kind.text := by
  refine ⟨Directive.resolve_eq_some_iff, Punctuation.resolve_eq_some_iff, fun injective => ?_⟩
  have shared : Kind.text .doubleQuoteToken = Kind.text .interpolatedStringEndToken := by
    decide +kernel
  exact absurd (injective shared) (by decide)

end Lexicon
