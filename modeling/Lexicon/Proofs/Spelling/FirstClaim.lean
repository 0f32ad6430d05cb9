import Lexicon.Proofs.Spelling.Registry

/-!
# The first entry that claims a spelling

An index is filled with the claims of many entries, one spelling at a time. For each spelling it
answers as a walk through the lists does, entry by entry in order, up to the first entry that claims
the spelling.

## Main statements

* `SpellingIndex.find?_ofEntries_eq_map_find?`: the index finds the kind of that entry.
* `SpellingIndex.ofEntries_first_claim`: where that entry stands, and what may follow it.
-/

namespace Lexicon

variable {γ : Type}

namespace Entry

/-- The entry claims the spelling, be it by a synonym where synonyms count. -/
def Claims (withSynonyms : Bool) (entry : Entry γ) (spelling : String) : Prop :=
  spelling = entry.canonical ∨ withSynonyms = true ∧ spelling ∈ entry.synonyms

variable {withSynonyms : Bool} {entry : Entry γ} {spelling : String}

instance : Decidable (entry.Claims withSynonyms spelling) :=
  inferInstanceAs (Decidable (_ ∨ _))

theorem claims_iff_mem_claims : entry.Claims withSynonyms spelling ↔
    (spelling, entry.kind) ∈ entry.claims withSynonyms := by
  rw [mem_claims, Claims]
  cases withSynonyms <;> simp [spellings]

theorem lookup_claims : (entry.claims withSynonyms).lookup spelling =
    if entry.Claims withSynonyms spelling then some entry.kind else none := by
  split
  case isTrue claimed =>
    have mem := claims_iff_mem_claims.mp claimed
    exact (entry.unambiguous_claims withSynonyms).lookup_eq_some_iff.mpr mem
  case isFalse unclaimed =>
    rw [List.lookup_eq_none_iff]
    rintro ⟨other, kind⟩ mem
    obtain ⟨-, rfl⟩ := mem_claims.mp mem
    rw [bne_iff_ne]
    rintro rfl
    exact unclaimed (claims_iff_mem_claims.mpr mem)

end Entry

namespace SpellingIndex

variable (withSynonyms : Bool) (tables later : List (List (Entry γ))) (spelling : String)

theorem lookup_flatMap_claims (entries : List (Entry γ)) :
    (entries.flatMap (Entry.claims withSynonyms)).lookup spelling =
      (entries.find? (·.Claims withSynonyms spelling)).map (·.kind) := by
  induction entries with
  | nil => rfl
  | cons entry entries ih =>
    rw [List.flatMap_cons, List.lookup_append, Entry.lookup_claims, ih]
    by_cases claimed : entry.Claims withSynonyms spelling <;> simp [claimed]

theorem find?_ofEntries_eq_map_find? : (ofEntries withSynonyms tables).find? spelling =
    (tables.flatten.find? (·.Claims withSynonyms spelling)).map (·.kind) := by
  rw [find?_ofEntries, lookup_flatMap_claims]

theorem mem_iff_find?_ne_none (index : SpellingIndex) :
    spelling ∈ index ↔ index.find? spelling ≠ none := by
  rw [Std.TreeMap.mem_iff_isSome_getElem?, Option.isSome_iff_ne_none, find?]

/-- Lists behind others are asked only for what these do not claim. -/
theorem find?_ofEntries_append : (ofEntries withSynonyms (tables ++ later)).find? spelling =
    ((ofEntries withSynonyms tables).find? spelling).or
      ((ofEntries withSynonyms later).find? spelling) := by
  rw [find?_ofEntries, List.flatten_append, List.flatMap_append, List.lookup_append,
    ← find?_ofEntries, ← find?_ofEntries]

/-- What stands behind an entry that claims the spelling does not matter. -/
theorem find?_ofEntries_of_claims {front back : List (Entry γ)} {entry : Entry γ}
    (split : tables.flatten = front ++ entry :: back)
    (claimed : entry.Claims withSynonyms spelling) :
    (ofEntries withSynonyms tables).find? spelling =
      (ofEntries withSynonyms [front ++ [entry]]).find? spelling := by
  rw [find?_ofEntries_eq_map_find?, find?_ofEntries_eq_map_find?, split, List.flatten_singleton,
    List.find?_append, List.find?_append, List.find?_cons_of_pos (by simpa using claimed),
    List.find?_cons_of_pos (by simpa using claimed)]

/-- No list before that of the entry claims the spelling, and no entry before it in its own list. -/
theorem find?_ofEntries_eq_some_iff_first {kind : Kind} :
    (ofEntries withSynonyms tables).find? spelling = some kind ↔
      ∃ before front entry back after, tables = before ++ (front ++ entry :: back) :: after ∧
        (∀ table ∈ before, ∀ other ∈ table, ¬other.Claims withSynonyms spelling) ∧
        (∀ other ∈ front, ¬other.Claims withSynonyms spelling) ∧
        entry.Claims withSynonyms spelling ∧ entry.kind = kind := by
  rw [find?_ofEntries_eq_map_find?, Option.map_eq_some_iff]
  simp only [List.find?_flatten_eq_some_iff, decide_eq_true_eq, Bool.not_eq_true',
    decide_eq_false_iff_not]
  constructor
  · rintro ⟨entry, ⟨claimed, before, front, back, after, split, earlier, ahead⟩, same⟩
    exact ⟨before, front, entry, back, after, split, earlier, ahead, claimed, same⟩
  · rintro ⟨before, front, entry, back, after, split, earlier, ahead, claimed, same⟩
    exact ⟨entry, ⟨claimed, before, front, back, after, split, earlier, ahead⟩, same⟩

theorem not_mem_ofEntries_iff : spelling ∉ ofEntries withSynonyms tables ↔
    ∀ table ∈ tables, ∀ entry ∈ table, ¬entry.Claims withSynonyms spelling := by
  rw [mem_iff_find?_ne_none, not_not, find?_ofEntries_eq_map_find?, Option.map_eq_none_iff,
    List.find?_flatten_eq_none_iff]
  simp

/-- The index finds the kind of the first entry that claims the spelling, and does not hold the
spelling if there is none. Neither the entries behind that one nor further lists can change this, not
even where the spelling is a synonym of that one and the canonical spelling of a later one. -/
theorem ofEntries_first_claim :
    let index := ofEntries withSynonyms tables
    (∀ kind, index.find? spelling = some kind ↔
      ∃ before front entry back after, tables = before ++ (front ++ entry :: back) :: after ∧
        (∀ table ∈ before, ∀ other ∈ table, ¬other.Claims withSynonyms spelling) ∧
        (∀ other ∈ front, ¬other.Claims withSynonyms spelling) ∧
        entry.Claims withSynonyms spelling ∧ entry.kind = kind) ∧
    (spelling ∉ index ↔
      ∀ table ∈ tables, ∀ entry ∈ table, ¬entry.Claims withSynonyms spelling) ∧
    (∀ front entry back, tables.flatten = front ++ entry :: back →
      entry.Claims withSynonyms spelling →
      index.find? spelling = (ofEntries withSynonyms [front ++ [entry]]).find? spelling) ∧
    ∀ later, (ofEntries withSynonyms (tables ++ later)).find? spelling =
      (index.find? spelling).or ((ofEntries withSynonyms later).find? spelling) := by
  intro index
  refine ⟨fun kind => ?_, ?_, fun front entry back split claimed => ?_, fun later => ?_⟩
  · exact find?_ofEntries_eq_some_iff_first withSynonyms tables spelling
  · exact not_mem_ofEntries_iff withSynonyms tables spelling
  · exact find?_ofEntries_of_claims withSynonyms tables spelling split claimed
  · exact find?_ofEntries_append withSynonyms tables later spelling

example : (ofEntries true [[⟨.elifKeyword, "elif", ["fin"], ()⟩],
    [⟨.endIfKeyword, "fin", [], ()⟩]]).find? "fin" = some .elifKeyword := by
  rw [find?_ofEntries_eq_map_find?]
  rfl

end SpellingIndex

end Lexicon
