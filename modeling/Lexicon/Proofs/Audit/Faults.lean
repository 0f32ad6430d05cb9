import Lexicon.Proofs.Audit.Check
import Lexicon.Proofs.Spelling.Arrangement

/-!
# Faults, one by one

A check does not only find out whether a table is faultless: each fault is named once, in the order
of the table. A registry is compared with the kinds of its block place by place, as far as both of
them reach. A claim is compared with the first claim on its spelling.

## Main statements

* `Audit.registry_names_faults`: what the check of a registry reports, place by place.
* `Audit.spellings_names_clashes`: what the check of claims reports, claim by claim, and that it
  reports nothing exactly if the order of the entries does not matter to the index.
-/

namespace Lexicon.Audit

variable {γ : Type}

/-! ## Registries -/

/-- The fault at a place of a registry, given the kinds of its block: another kind than the one that
belongs there, of the block or not. -/
def fault (table : Registry γ) (members : List Kind) (place : Nat) : Option Violation := do
  let entry ← table.entries[place]?
  let kind ← members[place]?
  if entry.kind = kind then none
  else if entry.kind ∈ table.block then some (.entryMisplaced table.label kind entry.kind)
  else some (.entryOutOfBounds table.label entry.kind)

/-- What the check finds at a place is the fault at that place. -/
theorem fault_eq (table : Registry γ) (place : Nat) :
    fault table table.block.kinds place =
      (table.entries.zip table.block.kinds)[place]?.bind fun (entry, kind) =>
        if entry.kind ∉ table.block then some (.entryOutOfBounds table.label entry.kind)
        else if entry.kind ≠ kind then some (.entryMisplaced table.label kind entry.kind)
        else none := by
  rw [fault, List.zip, List.getElem?_zipWith]
  cases listed : table.entries[place]? with
  | none => rfl
  | some entry =>
    cases member : table.block.kinds[place]? with
    | none => rfl
    | some kind =>
      have inside : kind ∈ table.block := Interval.mem_kinds.mp (List.mem_of_getElem? member)
      exact (placement_eq inside).symm

theorem filterMap_eq_filterMap_range {α β : Type} (f : α → Option β) (l : List α) :
    l.filterMap f = (List.range l.length).filterMap fun place => l[place]?.bind f := by
  induction l with
  | nil => rfl
  | cons a l ih =>
    rw [List.length_cons, List.range_succ_eq_map, List.filterMap_cons, List.filterMap_cons,
      List.filterMap_map, ih]
    simp

/-- A registry passes exactly if it lists the kinds of its block in order. Otherwise the check
reports a wrong number of entries first, and then the fault of each place that both have. -/
theorem registry_names_faults (table : Registry γ) :
    let members := Kind.all.filter (· ∈ table.block)
    members.Pairwise (· < ·) ∧
    (registry table = [] ↔ table.entries.map (·.kind) = members) ∧
    registry table =
      (if members.length = table.entries.length then []
        else [.registryLength table.label members.length table.entries.length]) ++
      (List.range (min members.length table.entries.length)).filterMap (fault table members) := by
  intro members
  have listed : table.block.kinds = members := Interval.kinds_eq_filter table.block
  rw [← listed]
  refine ⟨Interval.pairwise_kinds table.block, registry_eq_nil_iff, ?_⟩
  rw [registry, filterMap_eq_filterMap_range, List.length_zip,
    Nat.min_comm table.block.kinds.length]
  congr 1
  · by_cases same : table.entries.length = table.block.kinds.length
    · simp [same]
    · simp [same, Ne.symm same]
  · apply List.filterMap_congr
    intro place _
    exact (fault_eq table place).symm

/-! ## Spellings -/

/-- The check reports each claim for another kind than that of the first claim on its spelling, so
it reports nothing exactly if no spelling is claimed for two kinds. For the claims of entries that
is the case exactly if every order of the lists and of the entries in them gives the same index. -/
theorem spellings_names_clashes (claims : List (String × Kind)) (tables : List (List (Entry γ))) :
    spellings claims = claims.filterMap (fun (spelling, kind) =>
      (claims.find? (·.1 = spelling)).bind fun (_, first) =>
        if first = kind then none else some (.sharedSpelling spelling first kind)) ∧
    (spellings claims = [] ↔ Unambiguous claims) ∧
    (spellings (tables.flatten.flatMap (Entry.claims true)) = [] ↔
      ∀ more, Rearranged tables more → ∀ spelling,
        (SpellingIndex.ofEntries true more).find? spelling =
          (SpellingIndex.ofEntries true tables).find? spelling) := by
  refine ⟨?_, spellings_eq_nil_iff, ?_⟩
  · rw [spellings_eq_filterMap]
    apply List.filterMap_congr
    intro pair _
    simp only [SpellingIndex.lookup_eq_map_find?, clash, Option.bind_map, Function.comp_def, ne_eq,
      ite_not]
  · rw [spellings_eq_nil_iff, SpellingIndex.unambiguous_iff_rearranged]

end Lexicon.Audit
