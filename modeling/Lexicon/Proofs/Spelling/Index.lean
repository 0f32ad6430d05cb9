import Mathlib.Data.List.Nodup
import Std.Data.TreeMap.Lemmas
import Lexicon.Spelling.Index

/-!
# First claims

An index answers with the kind of the first claim on a spelling. Where no two claims on a spelling
differ in their kind, the order of the claims does not matter: the index finds exactly what is
claimed.

## Main statements

* `SpellingIndex.find?_ofClaims`: the first claim stands.
* `SpellingIndex.find?_ofClaims_eq_some_iff`: an unambiguous index holds its claims and no others.
-/

namespace Lexicon

/-- No spelling is claimed for two kinds. -/
def Unambiguous (claims : List (String × Kind)) : Prop :=
  ∀ spelling a b, (spelling, a) ∈ claims → (spelling, b) ∈ claims → a = b

namespace Unambiguous

variable {claims more : List (String × Kind)}

theorem mono (unambiguous : Unambiguous more) (sub : claims ⊆ more) : Unambiguous claims :=
  fun spelling a b ha hb => unambiguous spelling a b (sub ha) (sub hb)

/-- Claims on different spellings cannot contradict each other. -/
theorem of_nodup (distinct : (claims.map Prod.fst).Nodup) : Unambiguous claims := by
  intro spelling a b ha hb
  have same := List.inj_on_of_nodup_map distinct ha hb rfl
  exact congrArg Prod.snd same

/-- Every claim is the first one for its spelling, as far as the kind goes. -/
theorem lookup_eq_some_iff (unambiguous : Unambiguous claims) {spelling : String} {kind : Kind} :
    claims.lookup spelling = some kind ↔ (spelling, kind) ∈ claims := by
  constructor
  · intro found
    obtain ⟨before, after, rfl, -⟩ := List.lookup_eq_some_iff.mp found
    simp
  · intro mem
    cases found : claims.lookup spelling with
    | none =>
      have absent := List.lookup_eq_none_iff.mp found _ mem
      simp at absent
    | some first =>
      obtain ⟨before, after, rfl, -⟩ := List.lookup_eq_some_iff.mp found
      rw [unambiguous spelling first kind (by simp) mem]

end Unambiguous

namespace SpellingIndex

variable (index : SpellingIndex) (claims more : List (String × Kind)) (spelling : String)

@[simp] theorem find?_empty : find? ∅ spelling = none := by
  simp [find?]

/-- A claim counts only for its own spelling, and only if that has no kind yet. -/
theorem find?_insertIfNew (claimed : String) (kind : Kind) :
    find? (index.insertIfNew claimed kind) spelling =
      (index.find? spelling).or (if spelling = claimed then some kind else none) := by
  simp only [find?, Std.TreeMap.getElem?_insertIfNew, Std.LawfulEqCmp.compare_eq_iff_eq]
  by_cases same : spelling = claimed
  · subst same
    cases known : index[spelling]? with
    | none => simp [Std.TreeMap.mem_iff_isSome_getElem?, known]
    | some first => simp [Std.TreeMap.mem_iff_isSome_getElem?, known]
  · simp [same, Ne.symm same]

/-- Later claims answer only where no earlier one does. -/
theorem find?_claim : (index.claim claims).find? spelling =
    (index.find? spelling).or (claims.lookup spelling) := by
  induction claims generalizing index with
  | nil => simp [claim]
  | cons pair claims ih =>
    obtain ⟨claimed, kind⟩ := pair
    have rest := ih (index.insertIfNew claimed kind)
    rw [find?_insertIfNew, Option.or_assoc] at rest
    rw [claim, List.foldl_cons, ← claim, rest]
    by_cases same : spelling = claimed
    · simp [same]
    · simp [List.lookup_cons, same, beq_eq_false_iff_ne.mpr same]

theorem find?_ofClaims : (ofClaims claims).find? spelling = claims.lookup spelling := by
  simp [ofClaims, find?_claim]

theorem find?_ofEntries {γ : Type} (withSynonyms : Bool) (tables : List (List (Entry γ))) :
    (ofEntries withSynonyms tables).find? spelling =
      (tables.flatten.flatMap (Entry.claims withSynonyms)).lookup spelling :=
  find?_ofClaims _ _

theorem lookup_eq_map_find? :
    claims.lookup spelling = (claims.find? (·.1 = spelling)).map (·.2) := by
  induction claims with
  | nil => rfl
  | cons pair claims ih =>
    obtain ⟨claimed, kind⟩ := pair
    by_cases same : spelling = claimed
    · simp [same]
    · rw [List.lookup_cons, beq_eq_false_iff_ne.mpr same, ih,
        List.find?_cons_of_neg (by simpa using Ne.symm same)]

theorem claim_ofClaims : (ofClaims claims).claim more = ofClaims (claims ++ more) := by
  simp [ofClaims, claim]

/-- Asking one index and then another is asking the index of all their claims. -/
theorem find?_ofClaims_append : (ofClaims (claims ++ more)).find? spelling =
    ((ofClaims claims).find? spelling).or ((ofClaims more).find? spelling) := by
  simp [find?_ofClaims, List.lookup_append]

variable {claims} in
theorem find?_ofClaims_eq_some_iff (unambiguous : Unambiguous claims) {kind : Kind} :
    (ofClaims claims).find? spelling = some kind ↔ (spelling, kind) ∈ claims := by
  rw [find?_ofClaims, unambiguous.lookup_eq_some_iff]

end SpellingIndex

end Lexicon
