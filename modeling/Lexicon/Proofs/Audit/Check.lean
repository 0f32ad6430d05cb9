import Mathlib.Data.List.Forall2
import Lexicon.Audit.Check
import Lexicon.Proofs.Spelling.Registry

/-!
# What a clean check means

The check of a registry finds nothing exactly if the registry is in order, and the check of the
spellings finds nothing exactly if they are unambiguous. The latter reports a claim exactly if its
kind is not that of the first claim on its spelling.

## Main statements

* `Audit.registry_eq_nil_iff`: a registry without violations is in order.
* `Audit.spellings_eq_filterMap`: the violations of a list of claims, claim by claim.
* `Audit.spellings_eq_nil_iff`: claims without violations are unambiguous.
-/

namespace Lexicon.Audit

/-! ## Registries -/

variable {γ : Type}

/-- The check asks first whether an entry is one of the block. The order of the two questions does
not matter, since the kind that belongs in a place is one of the block. -/
theorem placement_eq {table : Registry γ} {entry : Entry γ} {kind : Kind}
    (inside : kind ∈ table.block) :
    (if entry.kind ∉ table.block then some (Violation.entryOutOfBounds table.label entry.kind)
      else if entry.kind ≠ kind then some (.entryMisplaced table.label kind entry.kind)
      else none) =
    if entry.kind = kind then none
    else if entry.kind ∈ table.block then some (.entryMisplaced table.label kind entry.kind)
    else some (.entryOutOfBounds table.label entry.kind) := by
  by_cases same : entry.kind = kind
  · simp [same, inside]
  · by_cases within : entry.kind ∈ table.block <;> simp [same, within]

/-- A place in the table is faultless exactly if it holds the kind that belongs there. -/
theorem placement_eq_none_iff {table : Registry γ} {entry : Entry γ} {kind : Kind}
    (inside : kind ∈ table.block) :
    (if entry.kind ∉ table.block then some (Violation.entryOutOfBounds table.label entry.kind)
      else if entry.kind ≠ kind then some (.entryMisplaced table.label kind entry.kind)
      else none) = none ↔ entry.kind = kind := by
  rw [placement_eq inside]
  constructor
  · intro faultless
    by_contra misplaced
    rw [if_neg misplaced] at faultless
    split at faultless <;> contradiction
  · intro same
    rw [if_pos same]

theorem registry_eq_nil_iff {table : Registry γ} : registry table = [] ↔ table.InOrder := by
  have pairs : table.InOrder ↔
      List.Forall₂ (fun entry kind => entry.kind = kind) table.entries table.block.kinds := by
    rw [Registry.InOrder, ← List.forall₂_eq_eq_eq, List.forall₂_map_left_iff]
  rw [pairs, List.forall₂_iff_zip, registry, List.append_eq_nil_iff, List.filterMap_eq_nil_iff]
  refine and_congr (by simp) ⟨fun faultless entry kind mem => ?_, fun same pair mem => ?_⟩
  · have inside := Interval.mem_kinds.mp (List.of_mem_zip mem).2
    exact (placement_eq_none_iff inside).mp (faultless _ mem)
  · have inside := Interval.mem_kinds.mp (List.of_mem_zip mem).2
    exact (placement_eq_none_iff inside).mpr (same mem)

/-! ## Spellings -/

/-- The violation of a claim, given the kind of the first claim on its spelling. -/
def clash (first : Option Kind) (spelling : String) (kind : Kind) : Option Violation :=
  first.bind fun first => if first ≠ kind then some (.sharedSpelling spelling first kind) else none

theorem clash_eq_none_iff {first kind : Kind} {spelling : String} :
    clash (some first) spelling kind = none ↔ first = kind := by
  simp [clash]

/-- A claim is reported if an earlier one, in the index or in the list, is for another kind. -/
theorem spellingsAfter_eq_filterMap (claimed : SpellingIndex) (claims : List (String × Kind)) :
    spellingsAfter claimed claims = claims.filterMap fun (spelling, kind) =>
      clash ((claimed.find? spelling).or (claims.lookup spelling)) spelling kind := by
  induction claims generalizing claimed with
  | nil => rfl
  | cons pair claims ih =>
    obtain ⟨spelling, kind⟩ := pair
    rw [spellingsAfter]
    cases known : claimed.find? spelling with
    | none =>
      have firsts (other : String) :
          ((claimed.claim [(spelling, kind)]).find? other).or (claims.lookup other) =
            (claimed.find? other).or (((spelling, kind) :: claims).lookup other) := by
        rw [SpellingIndex.find?_claim, Option.or_assoc, ← List.lookup_append, List.singleton_append]
      simp only [ih, firsts]
      simp [known, clash]
    | some first =>
      have firsts (other : String) : (claimed.find? other).or (claims.lookup other) =
          (claimed.find? other).or (((spelling, kind) :: claims).lookup other) := by
        by_cases same : other = spelling
        · simp [same, known]
        · simp [List.lookup_cons, beq_eq_false_iff_ne.mpr same]
      simp only [ih, firsts, List.filterMap_cons]
      by_cases same : first = kind <;> simp [known, clash, same]

theorem spellings_eq_filterMap (claims : List (String × Kind)) :
    spellings claims = claims.filterMap fun (spelling, kind) =>
      clash (claims.lookup spelling) spelling kind := by
  simp [spellings, spellingsAfter_eq_filterMap]

theorem spellings_eq_nil_iff {claims : List (String × Kind)} :
    spellings claims = [] ↔ Unambiguous claims := by
  simp only [spellings_eq_filterMap, List.filterMap_eq_nil_iff, Prod.forall]
  constructor
  · intro clean spelling a b ha hb
    cases found : claims.lookup spelling with
    | none =>
      have absent := List.lookup_eq_none_iff.mp found _ ha
      simp at absent
    | some first =>
      have isFirst (kind : Kind) (mem : (spelling, kind) ∈ claims) : first = kind := by
        have faultless := clean spelling kind mem
        rw [found] at faultless
        exact clash_eq_none_iff.mp faultless
      rw [← isFirst a ha, isFirst b hb]
  · intro unambiguous spelling kind mem
    rw [unambiguous.lookup_eq_some_iff.mpr mem]
    exact clash_eq_none_iff.mpr rfl

end Lexicon.Audit
