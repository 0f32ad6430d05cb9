import Lexicon.Proofs.Kind.Category
import Lexicon.Proofs.Vocabulary
import Lexicon.Text

/-!
# Fixed texts

The fixed text of a keyword, of a keyword of directives and of a punctuation token is its canonical
spelling, so within each of these families the text of a kind is what the table of the family claims
for it.
-/

namespace Lexicon.Kind

variable {kind : Kind} {spelling : String}

/-- Where a table supplies the text, the text is the canonical spelling of the entry. -/
theorem text_eq_iff_of_entry {γ : Type} {found : Option (Entry γ)} {entry : Entry γ}
    (own : kind.text? = found.map (·.canonical)) (present : found = some entry) :
    kind.text = spelling ↔ found.map (·.canonical) = some spelling := by
  simp [text, own, present]

theorem isAnyKeyword_iff : kind.isAnyKeyword ↔
    kind ∈ Category.reservedKeyword.bounds ∨ kind ∈ Category.contextualKeyword.bounds := by
  simp [isAnyKeyword, isReservedKeyword, isContextualKeyword]

theorem text_eq_iff_of_isAnyKeyword (keyword : kind.isAnyKeyword) : kind.text = spelling ↔
    (spelling, kind) ∈ Keyword.reserved.claims false ++ Keyword.contextual.claims false := by
  have inside := isAnyKeyword_iff.mp keyword
  have own : kind.text? = Keyword.canonical? kind := by
    rcases inside with inside | inside <;> simp [text?, category?_eq_some_iff.mpr inside]
  obtain ⟨entry, found⟩ := Vocabulary.keyword_paired.exists_find? inside
  rw [Vocabulary.keyword_paired.mem_claims_false_iff_find?]
  exact text_eq_iff_of_entry own found

theorem text_eq_iff_of_mem_preprocessorKeyword (mem : kind ∈ Category.preprocessorKeyword.bounds) :
    kind.text = spelling ↔ (spelling, kind) ∈ Directive.keywords.claims false := by
  have own : kind.text? = Directive.canonical? kind := by
    simp [text?, category?_eq_some_iff.mpr mem]
  obtain ⟨entry, found⟩ := Vocabulary.directive_complete.exists_find? mem
  rw [Vocabulary.directive_complete.mem_claims_false_iff_find?]
  exact text_eq_iff_of_entry own found

/-- The union of the two blocks has no room for other kinds. -/
theorem isPunctuation_iff : kind.isPunctuation ↔
    kind ∈ Category.simplePunctuation.bounds ∨ kind ∈ Category.compoundPunctuation.bounds := by
  revert kind
  decide +kernel

theorem text_eq_iff_of_isPunctuation (punctuation : kind.isPunctuation) : kind.text = spelling ↔
    (spelling, kind) ∈ Punctuation.simple.claims false ++ Punctuation.compound.claims false := by
  have inside := isPunctuation_iff.mp punctuation
  have own : kind.text? = Punctuation.canonical? kind := by
    rcases inside with inside | inside <;> simp [text?, category?_eq_some_iff.mpr inside]
  obtain ⟨entry, found⟩ := Vocabulary.punctuation_paired.exists_find? inside
  rw [Vocabulary.punctuation_paired.mem_claims_false_iff_find?]
  exact text_eq_iff_of_entry own found

end Lexicon.Kind
