import Lexicon.Proofs.Text

/-!
# Resolving keywords

A spelling resolves to a keyword exactly if the table of the keyword declares it. Reserved and
contextual keywords share no spelling, so of the two look-ups one answers at most, and which one is
known from the keyword.

## Main statements

* `Keyword.resolve_eq_some_iff`: resolving finds what the two tables claim.
* `Keyword.resolve_declared`: the look-ups against the entry, the families and the fixed text.
-/

namespace Lexicon.Keyword

variable {spelling : String} {kind : Kind}

/-! ## Claims -/

theorem resolveReserved_eq_some_iff :
    resolveReserved spelling = some kind ↔ (spelling, kind) ∈ reserved.claims true := by
  have unambiguous : Unambiguous (reserved.claims true) :=
    Vocabulary.unambiguous_keywords.mono (List.subset_append_left _ _)
  rw [resolveReserved, reservedIndex, Registry.find?_ofEntries_eq_some_iff unambiguous]

theorem resolveContextual_eq_some_iff :
    resolveContextual spelling = some kind ↔ (spelling, kind) ∈ contextual.claims true := by
  have unambiguous : Unambiguous (contextual.claims true) :=
    Vocabulary.unambiguous_keywords.mono (List.subset_append_right _ _)
  rw [resolveContextual, contextualIndex, Registry.find?_ofEntries_eq_some_iff unambiguous]

theorem resolve_eq_some_iff : resolve spelling = some kind ↔
    (spelling, kind) ∈ reserved.claims true ++ contextual.claims true := by
  rw [resolve, resolveReserved, resolveContextual, reservedIndex, contextualIndex,
    Registry.find?_ofEntries_or_eq_some_iff Vocabulary.unambiguous_keywords]

theorem mem_claims_false_iff : (spelling, kind) ∈ reserved.claims false ++ contextual.claims false ↔
    canonical? kind = some spelling :=
  Vocabulary.keyword_paired.mem_claims_false_iff_find?

/-! ## Families -/

theorem isReservedKeyword_iff : kind.isReservedKeyword ↔ kind ∈ reserved.block :=
  decide_eq_true_iff

theorem isContextualKeyword_iff : kind.isContextualKeyword ↔ kind ∈ contextual.block :=
  decide_eq_true_iff

theorem not_isContextualKeyword (isReserved : kind.isReservedKeyword) :
    ¬kind.isContextualKeyword := by
  rw [isContextualKeyword_iff]
  exact Vocabulary.keyword_paired.apart kind (isReservedKeyword_iff.mp isReserved)

theorem isReservedKeyword_of_mem (mem : (spelling, kind) ∈ reserved.claims true) :
    kind.isReservedKeyword :=
  isReservedKeyword_iff.mpr (Vocabulary.keyword_paired.left.inOrder.mem_block_of_mem_claims mem)

theorem isContextualKeyword_of_mem (mem : (spelling, kind) ∈ contextual.claims true) :
    kind.isContextualKeyword :=
  isContextualKeyword_iff.mpr
    (Vocabulary.keyword_paired.right.inOrder.mem_block_of_mem_claims mem)

theorem isAnyKeyword_of_resolve (found : resolve spelling = some kind) : kind.isAnyKeyword := by
  rw [Kind.isAnyKeyword, Bool.or_eq_true]
  rcases List.mem_append.mp (resolve_eq_some_iff.mp found) with mem | mem
  · exact .inl (isReservedKeyword_of_mem mem)
  · exact .inr (isContextualKeyword_of_mem mem)

/-- A kind that one table claims a spelling for has no claim in the other. -/
theorem not_mem_contextual (mem : (spelling, kind) ∈ reserved.claims true) (other : Kind) :
    (spelling, other) ∉ contextual.claims true := by
  intro also
  obtain rfl := Vocabulary.unambiguous_keywords spelling kind other
    (List.mem_append_left _ mem) (List.mem_append_right _ also)
  exact not_isContextualKeyword (isReservedKeyword_of_mem mem) (isContextualKeyword_of_mem also)

theorem resolve_eq_cases (found : resolve spelling = some kind) :
    (resolveReserved spelling = some kind ∧ resolveContextual spelling = none ∧
      kind.isReservedKeyword ∧ ¬kind.isContextualKeyword) ∨
    (resolveReserved spelling = none ∧ resolveContextual spelling = some kind ∧
      ¬kind.isReservedKeyword ∧ kind.isContextualKeyword) := by
  rcases List.mem_append.mp (resolve_eq_some_iff.mp found) with mem | mem
  · refine .inl ⟨resolveReserved_eq_some_iff.mpr mem, ?_, isReservedKeyword_of_mem mem,
      not_isContextualKeyword (isReservedKeyword_of_mem mem)⟩
    exact Option.eq_none_iff_forall_ne_some.mpr fun other answer =>
      not_mem_contextual mem other (resolveContextual_eq_some_iff.mp answer)
  · refine .inr ⟨?_, resolveContextual_eq_some_iff.mpr mem, fun isReserved =>
      not_isContextualKeyword isReserved (isContextualKeyword_of_mem mem),
      isContextualKeyword_of_mem mem⟩
    exact Option.eq_none_iff_forall_ne_some.mpr fun other answer =>
      not_mem_contextual (resolveReserved_eq_some_iff.mp answer) kind mem

/-! ## Fixed texts -/

theorem resolve_eq_some_of_canonical
    (mem : (spelling, kind) ∈ reserved.claims false ++ contextual.claims false) :
    resolve spelling = some kind := by
  rw [resolve_eq_some_iff]
  rcases List.mem_append.mp mem with mem | mem
  · exact List.mem_append_left _ (Registry.claims_false_subset _ mem)
  · exact List.mem_append_right _ (Registry.claims_false_subset _ mem)

theorem resolve_text (keyword : kind.isAnyKeyword) : resolve kind.text = some kind :=
  resolve_eq_some_of_canonical ((Kind.text_eq_iff_of_isAnyKeyword keyword).mp rfl)

/-- Resolving accepts what the entry of a keyword declares. Of the two tables one answers, namely
that of the keyword's family, and the fixed text of the keyword is among its spellings. -/
theorem resolve_declared (spelling : String) (kind : Kind) :
    (resolve spelling = some kind ↔
      ∃ entry, find? kind = some entry ∧
        (spelling = entry.canonical ∨ spelling ∈ entry.synonyms)) ∧
    (resolve spelling = some kind →
      (resolveReserved spelling = some kind ∧ resolveContextual spelling = none ∨
        resolveReserved spelling = none ∧ resolveContextual spelling = some kind) ∧
      (resolveReserved spelling = some kind ↔ kind.isReservedKeyword) ∧
      (resolveContextual spelling = some kind ↔ kind.isContextualKeyword) ∧
      resolve kind.text = some kind) := by
  refine ⟨resolve_eq_some_iff.trans Vocabulary.keyword_paired.mem_claims_iff_find?, fun found => ?_⟩
  have own := resolve_text (isAnyKeyword_of_resolve found)
  rcases resolve_eq_cases found with ⟨yes, no, family, other⟩ | ⟨no, yes, other, family⟩
  · exact ⟨.inl ⟨yes, no⟩, by simp [yes, family], by simp [no, other], own⟩
  · exact ⟨.inr ⟨no, yes⟩, by simp [no, other], by simp [yes, family], own⟩

/-- A contextual keyword by its synonym. -/
theorem resolve_declared_contextual :
    resolve "选出" = some .selectKeyword ∧ resolveReserved "选出" = none ∧
      resolveContextual "选出" = some .selectKeyword ∧
      resolve (Kind.text .selectKeyword) = some .selectKeyword := by
  obtain ⟨declared, answers⟩ := resolve_declared "选出" .selectKeyword
  have found := declared.mpr ⟨⟨.selectKeyword, "select", ["选出"], .query⟩, rfl, .inr (by simp)⟩
  obtain ⟨split, isReserved, isContextual, own⟩ := answers found
  have yes := isContextual.mpr (by decide)
  refine ⟨found, ?_, yes, own⟩
  rcases split with ⟨-, no⟩ | ⟨no, -⟩
  · simp [no] at yes
  · exact no

end Lexicon.Keyword
