import Lexicon.Classification
import Lexicon.Proofs.Canonical

/-!
# Consistency of classifications

A spelling is looked up in five tables at once. Whatever two of them find is claimed for the same
spelling, so it is the same kind, and only kinds that keywords share with directives are found
twice. Without synonyms less is found, and nothing else.

## Main statements

* `Classification.Exclusive`, `Classification.Narrows`: how the look-ups of one spelling and the two
  ways of looking it up are related.
* `classify_consistent`: both hold of every spelling, and what is found without synonyms.
-/

namespace Lexicon

variable {spelling : String} {kind : Kind} {synonyms : Bool}

namespace Classification

/-- At most one look-up has found something, except for a kind that keywords share with
directives. -/
structure Exclusive (c : Classification) : Prop where
  keyword_directive : ∀ keyword directive, c.keyword = some keyword →
    c.directive = some directive → keyword = directive ∧ keyword ∈ Kind.sharedWithDirectives
  punctuation : c.keyword.isSome ∨ c.directive.isSome → c.punctuation = none
  marker : c.keyword.isSome ∨ c.directive.isSome ∨ c.punctuation.isSome → c.marker = none

/-- Every look-up finds what the other classification has, though keywords and markers may be
missing. -/
structure Narrows (narrow wide : Classification) : Prop where
  spelling : narrow.spelling = wide.spelling
  keyword : narrow.keyword = none ∨ narrow.keyword = wide.keyword
  directive : narrow.directive = wide.directive
  punctuation : narrow.punctuation = wide.punctuation
  marker : narrow.marker = none ∨ narrow.marker = wide.marker

end Classification

section Fields

variable (synonyms : Bool) (spelling : String)

@[simp] theorem classify_spelling : (classify synonyms spelling).spelling = spelling := by
  rw [classify]

@[simp] theorem classify_keyword :
    (classify synonyms spelling).keyword = Keyword.accept synonyms spelling := by rw [classify]

@[simp] theorem classify_directive :
    (classify synonyms spelling).directive = Directive.resolve spelling := by rw [classify]

@[simp] theorem classify_punctuation :
    (classify synonyms spelling).punctuation = Punctuation.resolve spelling := by rw [classify]

@[simp] theorem classify_marker :
    (classify synonyms spelling).marker = Marker.accept synonyms spelling := by rw [classify]

end Fields

/-! ## The synonym switch -/

/-- Both switches of a look-up agree where the narrow one finds something. -/
theorem Classification.eq_none_or_eq {α : Type} {narrow wide : Option α}
    (sub : ∀ a, narrow = some a → wide = some a) : narrow = none ∨ narrow = wide := by
  cases narrow with
  | none => exact .inl rfl
  | some a => exact .inr (sub a rfl).symm

namespace Keyword

theorem accept_eq_some_iff : accept synonyms spelling = some kind ↔
    resolve spelling = some kind ∧ (synonyms ∨ canonical? kind = some spelling) := by
  simp [accept, Option.filter_eq_some_iff]

theorem accept_false_eq_some_iff :
    accept false spelling = some kind ↔ canonical? kind = some spelling := by
  rw [accept_eq_some_iff]
  constructor
  · rintro ⟨-, own⟩
    simpa using own
  · intro own
    exact ⟨resolve_eq_some_of_canonical (mem_claims_false_iff.mpr own), .inr own⟩

theorem accept_true_of_false (found : accept false spelling = some kind) :
    accept true spelling = some kind :=
  accept_eq_some_iff.mpr ⟨(accept_eq_some_iff.mp found).1, .inl rfl⟩

end Keyword

namespace Marker

/-- No spelling belongs to two markers. -/
theorem eq_of_isSpelledBy {a b : Marker} (ha : a.IsSpelledBy spelling)
    (hb : b.IsSpelledBy spelling) : a = b := by
  have apart : ∀ s ∈ implicitType.spellings, s ∉ unmanaged.spellings := by decide
  cases a <;> cases b
  case implicitType.implicitType => rfl
  case implicitType.unmanaged => exact absurd hb (apart spelling ha)
  case unmanaged.implicitType => exact absurd ha (apart spelling hb)
  case unmanaged.unmanaged => rfl

/-- The marker of unmanaged constraints has no synonym, so the switch is in effect heeded for every
marker. -/
theorem accept_eq_some_iff {marker : Marker} : accept synonyms spelling = some marker ↔
    marker.IsSpelledBy spelling ∧ (synonyms ∨ spelling = marker.canonical) := by
  constructor
  · intro found
    rw [accept] at found
    split at found
    next spelled =>
      obtain rfl := Option.some.inj found
      exact spelled
    next =>
      split at found
      next spelled =>
        obtain rfl := Option.some.inj found
        exact ⟨spelled, .inr (List.mem_singleton.mp spelled)⟩
      next => cases found
  · rintro ⟨spelled, switch⟩
    rw [accept]
    cases marker with
    | implicitType => rw [if_pos ⟨spelled, switch⟩]
    | unmanaged =>
      have other : ¬implicitType.IsSpelledBy spelling := fun also =>
        Marker.noConfusion (eq_of_isSpelledBy also spelled)
      rw [if_neg fun both => other both.1, if_pos spelled]

theorem accept_true_of_false {marker : Marker} (found : accept false spelling = some marker) :
    accept true spelling = some marker :=
  accept_eq_some_iff.mpr ⟨(accept_eq_some_iff.mp found).1, .inl rfl⟩

end Marker

theorem classify_narrows (spelling : String) :
    (classify false spelling).Narrows (classify true spelling) where
  spelling := by simp
  keyword := by
    rw [classify_keyword, classify_keyword]
    exact Classification.eq_none_or_eq fun _ => Keyword.accept_true_of_false
  directive := by simp
  punctuation := by simp
  marker := by
    rw [classify_marker, classify_marker]
    exact Classification.eq_none_or_eq fun _ => Marker.accept_true_of_false

/-! ## Kinds found twice -/

namespace Vocabulary

theorem mem_claims_of_keyword (found : Keyword.resolve spelling = some kind) :
    (spelling, kind) ∈ claims true :=
  keywords_subset true (Keyword.resolve_eq_some_iff.mp found)

theorem mem_claims_of_canonical (own : Keyword.canonical? kind = some spelling) :
    (spelling, kind) ∈ claims false :=
  keywords_subset false (Keyword.mem_claims_false_iff.mpr own)

theorem mem_claims_of_directive (found : Directive.resolve spelling = some kind) :
    (spelling, kind) ∈ claims false :=
  Directive.claims_subset (Directive.resolve_eq_some_iff_mem.mp found)

theorem mem_claims_of_punctuation (found : Punctuation.resolve spelling = some kind) :
    (spelling, kind) ∈ claims false :=
  punctuation_subset false
    (Punctuation.mem_claims_iff.mpr (Punctuation.resolve_eq_some_iff.mp found))

end Vocabulary

/-- The families of keywords and of keywords of directives overlap in the shared kinds only. -/
theorem Kind.mem_sharedWithDirectives (keyword : kind.isAnyKeyword)
    (directive : kind.isDirectiveKeyword) : kind ∈ sharedWithDirectives := by
  revert kind
  decide +kernel

theorem Kind.not_isPunctuation (word : kind.isAnyKeyword ∨ kind.isDirectiveKeyword) :
    ¬kind.isPunctuation := by
  revert kind
  decide +kernel

/-- No punctuation is spelled like a word. -/
theorem Punctuation.resolve_eq_none (claimed : (spelling, kind) ∈ Vocabulary.claims true)
    (word : kind.isAnyKeyword ∨ kind.isDirectiveKeyword) : resolve spelling = none := by
  refine Option.eq_none_iff_forall_ne_some.mpr fun other found => ?_
  have also := Vocabulary.claims_false_subset (Vocabulary.mem_claims_of_punctuation found)
  obtain rfl := Vocabulary.unambiguous_claims spelling kind other claimed also
  exact Kind.not_isPunctuation word (resolve_eq_some_iff.mp found).1

/-- No marker is spelled like a kind. -/
theorem Marker.accept_eq_none (claimed : (spelling, kind) ∈ Vocabulary.claims true) :
    accept synonyms spelling = none :=
  Option.eq_none_iff_forall_ne_some.mpr fun marker found =>
    Vocabulary.not_isSpelledBy claimed marker (accept_eq_some_iff.mp found).1

theorem classify_exclusive (spelling : String) : (classify synonyms spelling).Exclusive where
  keyword_directive := by
    intro keyword directive found other
    rw [classify_keyword, Keyword.accept_eq_some_iff] at found
    rw [classify_directive] at other
    have claimed := Vocabulary.mem_claims_of_keyword found.1
    have also := Vocabulary.claims_false_subset (Vocabulary.mem_claims_of_directive other)
    obtain rfl := Vocabulary.unambiguous_claims spelling keyword directive claimed also
    exact ⟨rfl, Kind.mem_sharedWithDirectives (Keyword.isAnyKeyword_of_resolve found.1)
      (Directive.resolve_eq_some_iff.mp other).1⟩
  punctuation := by
    simp only [classify_keyword, classify_directive, classify_punctuation, Option.isSome_iff_exists]
    rintro (⟨kind, found⟩ | ⟨kind, found⟩)
    · have found := (Keyword.accept_eq_some_iff.mp found).1
      exact Punctuation.resolve_eq_none (Vocabulary.mem_claims_of_keyword found)
        (.inl (Keyword.isAnyKeyword_of_resolve found))
    · have claimed := Vocabulary.claims_false_subset (Vocabulary.mem_claims_of_directive found)
      exact Punctuation.resolve_eq_none claimed (.inr (Directive.resolve_eq_some_iff.mp found).1)
  marker := by
    simp only [classify_keyword, classify_directive, classify_punctuation, classify_marker,
      Option.isSome_iff_exists]
    rintro (⟨kind, found⟩ | ⟨kind, found⟩ | ⟨kind, found⟩)
    · have found := (Keyword.accept_eq_some_iff.mp found).1
      exact Marker.accept_eq_none (Vocabulary.mem_claims_of_keyword found)
    · have claimed := Vocabulary.mem_claims_of_directive found
      exact Marker.accept_eq_none (Vocabulary.claims_false_subset claimed)
    · have claimed := Vocabulary.mem_claims_of_punctuation found
      exact Marker.accept_eq_none (Vocabulary.claims_false_subset claimed)

/-! ## Without synonyms -/

theorem Marker.toNat_lt_of_mem_canonical (marker : Marker) {c : Char}
    (hc : c ∈ marker.canonical.toList) : c.toNat < 128 := by
  have ascii : marker.canonical.toList.all fun c => c.toNat < 128 := by
    cases marker <;> decide
  simpa using List.all_eq_true.mp ascii c hc

/-- Without synonyms everything that is found is ASCII. -/
theorem classify_isIdentifier {c : Char} (hc : c ∈ spelling.toList) (foreign : 128 ≤ c.toNat) :
    (classify false spelling).isIdentifier := by
  have unclaimed (kind : Kind) : (spelling, kind) ∉ Vocabulary.claims false := fun mem => by
    have := Vocabulary.toNat_lt_of_mem_claims_false mem hc
    omega
  simp only [Classification.isIdentifier, Bool.and_eq_true, Option.isNone_iff_eq_none,
    Option.eq_none_iff_forall_ne_some, classify_keyword, classify_directive, classify_punctuation,
    classify_marker]
  refine ⟨⟨⟨fun kind found => ?_, fun kind found => ?_⟩, fun kind found => ?_⟩,
    fun marker found => ?_⟩
  · have own := Keyword.accept_false_eq_some_iff.mp found
    exact unclaimed kind (Vocabulary.mem_claims_of_canonical own)
  · exact unclaimed kind (Vocabulary.mem_claims_of_directive found)
  · exact unclaimed kind (Vocabulary.mem_claims_of_punctuation found)
  · have own : spelling = marker.canonical := by
      simpa using (Marker.accept_eq_some_iff.mp found).2
    subst own
    have := marker.toNat_lt_of_mem_canonical hc
    omega

/-! ## Consistency -/

/-- Classifications are consistent, over the look-ups and over the two ways of looking a spelling
up; without synonyms a keyword is found by its canonical spelling alone, and what is not ASCII is an
identifier. -/
theorem classify_consistent (spelling : String) :
    (classify true spelling).Exclusive ∧
    (classify false spelling).Narrows (classify true spelling) ∧
    (∀ kind, (classify false spelling).keyword = some kind ↔
      Keyword.canonical? kind = some spelling) ∧
    ((∃ c ∈ spelling.toList, 128 ≤ c.toNat) → (classify false spelling).isIdentifier) := by
  refine ⟨classify_exclusive spelling, classify_narrows spelling, fun kind => ?_, ?_⟩
  · rw [classify_keyword, Keyword.accept_false_eq_some_iff]
  · rintro ⟨c, hc, foreign⟩
    exact classify_isIdentifier hc foreign

/-- The synonym of a marker is an identifier without synonyms. -/
theorem classify_consistent_synonym :
    (∃ c ∈ "变".toList, 128 ≤ c.toNat) ∧ (classify false "变").isIdentifier ∧
      (classify true "变").marker = some .implicitType := by
  have foreign : ∃ c ∈ "变".toList, 128 ≤ c.toNat := ⟨'变', by decide, by decide⟩
  obtain ⟨-, -, -, identifier⟩ := classify_consistent "变"
  refine ⟨foreign, identifier foreign, ?_⟩
  rw [classify_marker, Marker.accept_eq_some_iff]
  decide

end Lexicon
