import Mathlib.Data.List.Perm.Basic
import Mathlib.Data.List.Forall2
import Lexicon.Proofs.Spelling.Registry

/-!
# Entries in another order

The first claim on a spelling stands, whatever is claimed later. Each entry can be brought to the
front by putting the lists and the entries of each list in another order, so the index keeps its
answers in every order exactly if no spelling is claimed for two kinds.

## Main statements

* `SpellingIndex.unambiguous_iff_rearranged`: which indexes do not depend on the order.
-/

namespace Lexicon

/-- The lists in another order, and the elements of each list in another order. -/
def Rearranged {α : Type} (lists more : List (List α)) : Prop :=
  ∃ middle, lists.Perm middle ∧ List.Forall₂ List.Perm middle more

namespace Rearranged

variable {α : Type} {lists more : List (List α)}

theorem flatten_perm (rearranged : Rearranged lists more) : lists.flatten.Perm more.flatten := by
  obtain ⟨middle, outer, inner⟩ := rearranged
  exact outer.flatten.trans (List.Perm.flatten_congr inner)

/-- Any element can be brought to the front of all. -/
theorem exists_flatten_eq_cons {a : α} (mem : a ∈ lists.flatten) :
    ∃ more rest, Rearranged lists more ∧ more.flatten = a :: rest := by
  obtain ⟨list, listed, inside⟩ := List.mem_flatten.mp mem
  obtain ⟨before, after, rfl⟩ := List.append_of_mem listed
  obtain ⟨front, back, rfl⟩ := List.append_of_mem inside
  refine ⟨(a :: (front ++ back)) :: (before ++ after), _, ⟨_, List.perm_middle, ?_⟩, rfl⟩
  apply List.Forall₂.cons List.perm_middle
  exact List.forall₂_same.mpr fun _ _ => .refl _

end Rearranged

namespace Unambiguous

variable {claims more : List (String × Kind)}

theorem perm (unambiguous : Unambiguous claims) (perm : claims.Perm more) : Unambiguous more :=
  unambiguous.mono perm.symm.subset

theorem lookup_eq_of_perm (unambiguous : Unambiguous claims) (perm : claims.Perm more)
    (spelling : String) : more.lookup spelling = claims.lookup spelling := by
  apply Option.ext
  intro kind
  rw [unambiguous.lookup_eq_some_iff, (unambiguous.perm perm).lookup_eq_some_iff]
  exact perm.mem_iff.symm

end Unambiguous

namespace SpellingIndex

variable {γ : Type} {withSynonyms : Bool} {tables : List (List (Entry γ))} {spelling : String}
  {kind : Kind}

/-- The first entry of all decides on its spellings. -/
theorem find?_ofEntries_of_flatten_eq_cons {entry : Entry γ} {rest : List (Entry γ)}
    (first : tables.flatten = entry :: rest)
    (claimed : (spelling, kind) ∈ entry.claims withSynonyms) :
    (ofEntries withSynonyms tables).find? spelling = some kind := by
  have own := (entry.unambiguous_claims withSynonyms).lookup_eq_some_iff.mpr claimed
  rw [find?_ofEntries, first, List.flatMap_cons, List.lookup_append, own, Option.some_or]

/-- In some order of the entries, a claim is the first one on its spelling. -/
theorem exists_rearranged_find?_eq_some
    (mem : (spelling, kind) ∈ tables.flatten.flatMap (Entry.claims withSynonyms)) :
    ∃ more, Rearranged tables more ∧
      (ofEntries withSynonyms more).find? spelling = some kind := by
  obtain ⟨entry, listed, claimed⟩ := List.mem_flatMap.mp mem
  obtain ⟨more, rest, rearranged, first⟩ := Rearranged.exists_flatten_eq_cons listed
  exact ⟨more, rearranged, find?_ofEntries_of_flatten_eq_cons first claimed⟩

theorem unambiguous_iff_rearranged :
    Unambiguous (tables.flatten.flatMap (Entry.claims withSynonyms)) ↔
      ∀ more, Rearranged tables more → ∀ spelling,
        (ofEntries withSynonyms more).find? spelling =
          (ofEntries withSynonyms tables).find? spelling := by
  constructor
  · intro unambiguous more rearranged spelling
    rw [find?_ofEntries, find?_ofEntries]
    apply unambiguous.lookup_eq_of_perm
    exact rearranged.flatten_perm.flatMap_right _
  · intro orderless spelling a b ha hb
    obtain ⟨first, rearrangedFirst, foundA⟩ := exists_rearranged_find?_eq_some ha
    obtain ⟨second, rearrangedSecond, foundB⟩ := exists_rearranged_find?_eq_some hb
    rw [orderless first rearrangedFirst] at foundA
    rw [orderless second rearrangedSecond, foundA] at foundB
    exact Option.some.inj foundB

end SpellingIndex

end Lexicon
