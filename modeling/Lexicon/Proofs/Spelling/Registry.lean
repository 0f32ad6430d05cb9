import Lexicon.Proofs.Kind.Interval
import Lexicon.Proofs.Spelling.Index
import Lexicon.Spelling.Registry

/-!
# Registries in order

A registry is in order when its entries are for the kinds of its block, one each, in block order. An
entry is looked up by the distance of its kind from the start of the block, so in a block without
gaps a registry in order finds the entry of every kind that it lists.

## Main statements

* `Registry.find?_eq_some`: a look-up answers with an entry of the kind asked for, in any registry.
* `Registry.Complete.find?_eq_some_iff`: in order and without gaps, it answers for every entry.
* `Registry.Paired.mem_claims_iff_find?`: two such registries asked in turn answer for the claims of
  both.
-/

namespace Lexicon

variable {γ : Type}

/-! ## Claims of entries -/

theorem Entry.mem_claims {entry : Entry γ} {withSynonyms : Bool} {spelling : String} {kind : Kind} :
    (spelling, kind) ∈ entry.claims withSynonyms ↔
      spelling ∈ (if withSynonyms then entry.spellings else [entry.canonical]) ∧
        entry.kind = kind := by
  simp [Entry.claims]

/-- All claims of an entry are for its kind. -/
theorem Entry.unambiguous_claims (withSynonyms : Bool) (entry : Entry γ) :
    Unambiguous (entry.claims withSynonyms) := by
  intro spelling a b ha hb
  rw [← (mem_claims.mp ha).2, ← (mem_claims.mp hb).2]

namespace Registry

variable {registry : Registry γ} {kind : Kind} {entry : Entry γ} {spelling : String}

theorem mem_claims_true : (spelling, kind) ∈ registry.claims true ↔
    ∃ entry ∈ registry.entries, spelling ∈ entry.spellings ∧ entry.kind = kind := by
  simp [claims, Entry.mem_claims]

theorem mem_claims_false : (spelling, kind) ∈ registry.claims false ↔
    ∃ entry ∈ registry.entries, spelling = entry.canonical ∧ entry.kind = kind := by
  simp [claims, Entry.mem_claims]

theorem claims_false_subset (registry : Registry γ) :
    registry.claims false ⊆ registry.claims true := by
  rintro ⟨spelling, kind⟩ mem
  obtain ⟨entry, listed, rfl, same⟩ := mem_claims_false.mp mem
  exact mem_claims_true.mpr ⟨entry, listed, List.mem_cons_self, same⟩

theorem ofEntries_singleton (withSynonyms : Bool) :
    SpellingIndex.ofEntries withSynonyms [registry.entries] =
      .ofClaims (registry.claims withSynonyms) := by
  simp [SpellingIndex.ofEntries, claims]

theorem ofEntries_pair (withSynonyms : Bool) (first second : Registry γ) :
    SpellingIndex.ofEntries withSynonyms [first.entries, second.entries] =
      .ofClaims (first.claims withSynonyms ++ second.claims withSynonyms) := by
  simp [SpellingIndex.ofEntries, claims]

/-- The index of an unambiguous registry holds its claims. -/
theorem find?_ofEntries_eq_some_iff {withSynonyms : Bool}
    (unambiguous : Unambiguous (registry.claims withSynonyms)) :
    (SpellingIndex.ofEntries withSynonyms [registry.entries]).find? spelling = some kind ↔
      (spelling, kind) ∈ registry.claims withSynonyms := by
  rw [ofEntries_singleton, SpellingIndex.find?_ofClaims_eq_some_iff _ unambiguous]

/-- The indexes of two registries, asked in turn, hold the claims of both. -/
theorem find?_ofEntries_or_eq_some_iff {first second : Registry γ} {withSynonyms : Bool}
    (unambiguous : Unambiguous (first.claims withSynonyms ++ second.claims withSynonyms)) :
    ((SpellingIndex.ofEntries withSynonyms [first.entries]).find? spelling).or
        ((SpellingIndex.ofEntries withSynonyms [second.entries]).find? spelling) = some kind ↔
      (spelling, kind) ∈ first.claims withSynonyms ++ second.claims withSynonyms := by
  rw [ofEntries_singleton, ofEntries_singleton, ← SpellingIndex.find?_ofClaims_append,
    SpellingIndex.find?_ofClaims_eq_some_iff _ unambiguous]

/-! ## Looking entries up -/

theorem find?_eq_some (found : registry.find? kind = some entry) :
    kind ∈ registry.block ∧ entry ∈ registry.entries ∧ entry.kind = kind := by
  unfold find? at found
  split at found
  · rename_i mem
    obtain ⟨placed, same⟩ := Option.filter_eq_some_iff.mp found
    exact ⟨mem, List.mem_of_getElem? placed, by simpa using same⟩
  · contradiction

theorem find?_eq_none (outside : kind ∉ registry.block) : registry.find? kind = none :=
  if_neg outside

/-- The entries are for the kinds of the block, one each, in block order. -/
def InOrder (registry : Registry γ) : Prop :=
  registry.entries.map (·.kind) = registry.block.kinds

instance (registry : Registry γ) : Decidable registry.InOrder :=
  inferInstanceAs (Decidable (registry.entries.map (·.kind) = registry.block.kinds))

namespace InOrder

theorem mem_block (inOrder : registry.InOrder) (mem : entry ∈ registry.entries) :
    entry.kind ∈ registry.block := by
  rw [← Interval.mem_kinds, ← inOrder]
  exact List.mem_map_of_mem mem

theorem mem_block_of_mem_claims (inOrder : registry.InOrder)
    (mem : (spelling, kind) ∈ registry.claims true) : kind ∈ registry.block := by
  obtain ⟨entry, listed, -, rfl⟩ := mem_claims_true.mp mem
  exact inOrder.mem_block listed

theorem exists_entry (inOrder : registry.InOrder) (mem : kind ∈ registry.block) :
    ∃ entry ∈ registry.entries, entry.kind = kind := by
  rw [← Interval.mem_kinds, ← inOrder] at mem
  exact List.mem_map.mp mem

theorem nodup_map_kind (inOrder : registry.InOrder) : (registry.entries.map (·.kind)).Nodup := by
  rw [inOrder]
  exact Interval.nodup_kinds _

theorem eq_of_kind_eq (inOrder : registry.InOrder) {a b : Entry γ} (ha : a ∈ registry.entries)
    (hb : b ∈ registry.entries) (same : a.kind = b.kind) : a = b :=
  List.inj_on_of_nodup_map inOrder.nodup_map_kind ha hb same

/-- No kind is listed at two places. -/
theorem filter_kind_eq_singleton (inOrder : registry.InOrder) (mem : entry ∈ registry.entries) :
    registry.entries.filter (·.kind = entry.kind) = [entry] := by
  have distinct : registry.entries.Nodup := .of_map _ inOrder.nodup_map_kind
  refine List.perm_singleton.mp ((List.perm_ext_iff_of_nodup (distinct.filter _)
    (List.nodup_singleton _)).mpr fun other => ?_)
  rw [List.mem_filter, List.mem_singleton, decide_eq_true_iff]
  constructor
  · rintro ⟨listed, same⟩
    exact inOrder.eq_of_kind_eq listed mem same
  · rintro rfl
    exact ⟨mem, rfl⟩

/-- An entry that is looked up has a kind at its distance from the start of the block. -/
theorem getElem?_kinds (inOrder : registry.InOrder) (found : registry.find? kind = some entry) :
    registry.block.kinds[kind.code - registry.block.first.code]? = some kind := by
  obtain ⟨inside, -, -⟩ := find?_eq_some found
  rw [find?, if_pos inside] at found
  obtain ⟨placed, same⟩ := Option.filter_eq_some_iff.mp found
  rw [← inOrder, List.getElem?_map, placed]
  simpa using same

/-- A registry in order answers for a kind exactly if no code from the start of the block to that
kind is unassigned. -/
theorem find?_eq_some_iff (inOrder : registry.InOrder) : registry.find? kind = some entry ↔
    (entry ∈ registry.entries ∧ entry.kind = kind) ∧
      Interval.Gapless ⟨registry.block.first, kind⟩ := by
  constructor
  · intro found
    obtain ⟨inside, listed⟩ := find?_eq_some found
    exact ⟨listed, (Interval.getElem?_kinds_sub_iff inside).mp (inOrder.getElem?_kinds found)⟩
  · rintro ⟨⟨mem, rfl⟩, gapless⟩
    have inside := inOrder.mem_block mem
    have place := (Interval.getElem?_kinds_sub_iff inside).mpr gapless
    rw [← inOrder, List.getElem?_map] at place
    obtain ⟨other, placed, same⟩ := Option.map_eq_some_iff.mp place
    have eq := inOrder.eq_of_kind_eq (List.mem_of_getElem? placed) mem same
    rw [find?, if_pos inside, placed, eq]
    simp

end InOrder

/-- A registry in order over a block without gaps. -/
structure Complete (registry : Registry γ) : Prop where
  inOrder : registry.InOrder
  gapless : registry.block.Gapless

instance (registry : Registry γ) : Decidable registry.Complete :=
  decidable_of_iff (registry.InOrder ∧ registry.block.Gapless)
    ⟨fun ⟨inOrder, gapless⟩ => ⟨inOrder, gapless⟩, fun ⟨inOrder, gapless⟩ => ⟨inOrder, gapless⟩⟩

namespace Complete

theorem find?_eq_some_iff (complete : registry.Complete) :
    registry.find? kind = some entry ↔ entry ∈ registry.entries ∧ entry.kind = kind := by
  rw [complete.inOrder.find?_eq_some_iff]
  refine ⟨And.left, fun listed => ⟨listed, ?_⟩⟩
  obtain ⟨mem, rfl⟩ := listed
  exact complete.gapless.upTo (complete.inOrder.mem_block mem)

/-- Every kind of the block has its entry. -/
theorem exists_find? (complete : registry.Complete) (mem : kind ∈ registry.block) :
    ∃ entry, registry.find? kind = some entry := by
  obtain ⟨entry, listed, same⟩ := complete.inOrder.exists_entry mem
  exact ⟨entry, complete.find?_eq_some_iff.mpr ⟨listed, same⟩⟩

/-- The canonical claim for a kind is the canonical spelling of its entry. -/
theorem mem_claims_false_iff_find? (complete : registry.Complete) :
    (spelling, kind) ∈ registry.claims false ↔
      (registry.find? kind).map (·.canonical) = some spelling := by
  simp only [mem_claims_false, Option.map_eq_some_iff, complete.find?_eq_some_iff]
  constructor
  · rintro ⟨entry, mem, rfl, same⟩
    exact ⟨entry, ⟨mem, same⟩, rfl⟩
  · rintro ⟨entry, ⟨mem, same⟩, rfl⟩
    exact ⟨entry, mem, rfl, same⟩

end Complete

/-! ## Two registries asked in turn -/

/-- Two complete registries over blocks that share no kind. -/
structure Paired (first second : Registry γ) : Prop where
  left : first.Complete
  right : second.Complete
  apart : ∀ kind ∈ first.block, kind ∉ second.block

instance (first second : Registry γ) : Decidable (Paired first second) :=
  decidable_of_iff
    (first.Complete ∧ second.Complete ∧ ∀ kind, kind ∈ first.block → kind ∉ second.block)
    ⟨fun ⟨left, right, apart⟩ => ⟨left, right, apart⟩,
      fun ⟨left, right, apart⟩ => ⟨left, right, apart⟩⟩

namespace Paired

variable {first second : Registry γ}

theorem find?_or_eq_some_iff (paired : Paired first second) :
    (first.find? kind).or (second.find? kind) = some entry ↔
      (entry ∈ first.entries ∨ entry ∈ second.entries) ∧ entry.kind = kind := by
  rw [Option.or_eq_some_iff, paired.left.find?_eq_some_iff, paired.right.find?_eq_some_iff]
  constructor
  · rintro (⟨mem, same⟩ | ⟨-, mem, same⟩)
    · exact ⟨.inl mem, same⟩
    · exact ⟨.inr mem, same⟩
  · rintro ⟨mem | mem, rfl⟩
    · exact .inl ⟨mem, rfl⟩
    · have outside : entry.kind ∉ first.block := fun inside =>
        paired.apart _ inside (paired.right.inOrder.mem_block mem)
      exact .inr ⟨find?_eq_none outside, mem, rfl⟩

theorem exists_find? (paired : Paired first second)
    (mem : kind ∈ first.block ∨ kind ∈ second.block) :
    ∃ entry, (first.find? kind).or (second.find? kind) = some entry := by
  rcases mem with mem | mem
  · obtain ⟨entry, found⟩ := paired.left.exists_find? mem
    exact ⟨entry, by rw [found, Option.some_or]⟩
  · obtain ⟨entry, found⟩ := paired.right.exists_find? mem
    have outside : kind ∉ first.block := fun inside => paired.apart kind inside mem
    exact ⟨entry, by rw [find?_eq_none outside, found, Option.none_or]⟩

/-- What both registries claim together is what the entries they find spell. -/
theorem mem_claims_iff_find? (paired : Paired first second) :
    (spelling, kind) ∈ first.claims true ++ second.claims true ↔
      ∃ entry, (first.find? kind).or (second.find? kind) = some entry ∧
        (spelling = entry.canonical ∨ spelling ∈ entry.synonyms) := by
  simp only [List.mem_append, mem_claims_true, paired.find?_or_eq_some_iff, Entry.spellings,
    List.mem_cons]
  constructor
  · rintro (⟨entry, mem, spelled, same⟩ | ⟨entry, mem, spelled, same⟩)
    · exact ⟨entry, ⟨.inl mem, same⟩, spelled⟩
    · exact ⟨entry, ⟨.inr mem, same⟩, spelled⟩
  · rintro ⟨entry, ⟨mem | mem, same⟩, spelled⟩
    · exact .inl ⟨entry, mem, spelled, same⟩
    · exact .inr ⟨entry, mem, spelled, same⟩

theorem mem_claims_false_iff_find? (paired : Paired first second) :
    (spelling, kind) ∈ first.claims false ++ second.claims false ↔
      ((first.find? kind).or (second.find? kind)).map (·.canonical) = some spelling := by
  simp only [List.mem_append, mem_claims_false, Option.map_eq_some_iff,
    paired.find?_or_eq_some_iff]
  constructor
  · rintro (⟨entry, mem, rfl, same⟩ | ⟨entry, mem, rfl, same⟩)
    · exact ⟨entry, ⟨.inl mem, same⟩, rfl⟩
    · exact ⟨entry, ⟨.inr mem, same⟩, rfl⟩
  · rintro ⟨entry, ⟨mem | mem, same⟩, rfl⟩
    · exact .inl ⟨entry, mem, rfl, same⟩
    · exact .inr ⟨entry, mem, rfl, same⟩

end Paired

end Registry

end Lexicon
