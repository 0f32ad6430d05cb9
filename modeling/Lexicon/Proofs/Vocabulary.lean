import Lexicon.Directive
import Lexicon.Marker
import Lexicon.Proofs.Bytes
import Lexicon.Proofs.Spelling.Registry
import Lexicon.Punctuation

/-!
# The tables of the vocabulary

The five tables of spellings are in order over blocks without gaps, and all their spellings, with
those of the markers, differ. These are the facts about the tables themselves that the look-ups rest
on; they are evaluated here once.

## Main statements

* `Vocabulary.keyword_paired`, `Vocabulary.directive_complete`, `Vocabulary.punctuation_paired`: the
  tables are in order.
* `Vocabulary.unambiguous_claims`: no spelling stands for two kinds, in one table or in two.
-/

namespace Lexicon.Vocabulary

theorem keyword_paired : Registry.Paired Keyword.reserved Keyword.contextual := by decide +kernel

theorem directive_complete : Directive.keywords.Complete := by decide +kernel

theorem punctuation_paired : Registry.Paired Punctuation.simple Punctuation.compound := by
  decide +kernel

/-- What all five tables lay claim to. -/
def claims (withSynonyms : Bool) : List (String × Kind) :=
  Keyword.reserved.claims withSynonyms ++ Keyword.contextual.claims withSynonyms ++
    Directive.keywords.claims withSynonyms ++ Punctuation.simple.claims withSynonyms ++
    Punctuation.compound.claims withSynonyms

theorem keywords_subset (withSynonyms : Bool) : Keyword.reserved.claims withSynonyms ++
    Keyword.contextual.claims withSynonyms ⊆ claims withSynonyms := by
  intro claim mem
  exact List.mem_append_left _ (List.mem_append_left _ (List.mem_append_left _ mem))

theorem directives_subset (withSynonyms : Bool) :
    Directive.keywords.claims withSynonyms ⊆ claims withSynonyms := by
  intro claim mem
  exact List.mem_append_left _ (List.mem_append_left _ (List.mem_append_right _ mem))

theorem punctuation_subset (withSynonyms : Bool) : Punctuation.simple.claims withSynonyms ++
    Punctuation.compound.claims withSynonyms ⊆ claims withSynonyms := by
  rw [claims, List.append_assoc _ (Punctuation.simple.claims withSynonyms)]
  exact List.subset_append_right _ _

theorem claims_false_subset : claims false ⊆ claims true := by
  intro claim mem
  simp only [claims, List.mem_append] at mem ⊢
  rcases mem with (((mem | mem) | mem) | mem) | mem <;>
    simp [Registry.claims_false_subset _ mem]

/-! ## All spellings differ -/

/-- Every spelling that stands for a kind, and then those of the markers. -/
def spellings : List String :=
  (claims true).map Prod.fst ++ Marker.implicitType.spellings ++ Marker.unmanaged.spellings

theorem nodup_spellings : spellings.Nodup := Bytes.nodup_of_isChain (by decide +kernel)

theorem unambiguous_claims : Unambiguous (claims true) := by
  have distinct := nodup_spellings
  rw [spellings, List.append_assoc] at distinct
  exact .of_nodup (List.nodup_append.mp distinct).1

theorem unambiguous_keywords :
    Unambiguous (Keyword.reserved.claims true ++ Keyword.contextual.claims true) :=
  unambiguous_claims.mono (keywords_subset true)

/-- No marker is spelled like a kind. -/
theorem not_isSpelledBy {spelling : String} {kind : Kind} (mem : (spelling, kind) ∈ claims true)
    (marker : Marker) : ¬marker.IsSpelledBy spelling := by
  have distinct := nodup_spellings
  rw [spellings, List.append_assoc] at distinct
  have apart := (List.nodup_append.mp distinct).2.2 spelling (List.mem_map_of_mem mem)
  intro spelled
  refine apart spelling ?_ rfl
  cases marker with
  | implicitType => exact List.mem_append_left _ spelled
  | unmanaged => exact List.mem_append_right _ spelled

/-! ## Canonical spellings -/

theorem unambiguous_canonical : Unambiguous (claims false) :=
  unambiguous_claims.mono claims_false_subset

/-- Canonical spellings are ASCII. -/
theorem toNat_lt_of_mem_claims_false {spelling : String} {kind : Kind}
    (mem : (spelling, kind) ∈ claims false) {c : Char} (hc : c ∈ spelling.toList) :
    c.toNat < 128 := by
  have ascii : ∀ claim ∈ claims false,
      (Bytes.ofText claim.1).all fun byte => decide (byte.toNat < 128) := by
    decide +kernel
  have small := Bytes.forall_toList_of_all (p := fun n => decide (n < 128))
    (fun _ small => of_decide_eq_true small) (ascii _ mem) c hc
  exact of_decide_eq_true small

end Lexicon.Vocabulary
