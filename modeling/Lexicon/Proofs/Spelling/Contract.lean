import Lexicon.Proofs.Audit.Check
import Lexicon.Proofs.Vocabulary

/-!
# The spelling contract

A registry that passes the audit has one entry for each kind of its block. The audit compares
entries and kinds by rank, the look-up goes by the distance of codes, so the look-up finds the entry
of a kind exactly if no code before that kind is unassigned. Registries that pass the audit over
blocks without gaps can be asked in both directions: two of them asked in turn find a kind by a
spelling exactly if, asked in turn by that kind, they find an entry with that spelling.

## Main statements

* `Registry.find?_of_audit_eq_nil`: what the look-up by distance answers, before and behind a gap.
* `Registry.index_or_eq_some_iff`: the look-ups of two registries are inverse to each other.
-/

namespace Lexicon.Registry

/-! ## Look-up by distance -/

/-- A registry that passes the audit has one entry for each kind of its block, which the look-up by
distance finds up to the first gap of the block and not behind it. -/
theorem find?_of_audit_eq_nil {γ : Type} (table : Registry γ) (clean : Audit.registry table = [])
    (kind : Kind) :
    (kind ∉ table.block → table.find? kind = none) ∧
    (kind ∈ table.block → ∃ entry, table.entries.filter (·.kind = kind) = [entry] ∧
      ((∀ code, table.block.first.code ≤ code → code ≤ kind.code → Kind.Assigned code) →
        table.find? kind = some entry) ∧
      ((∃ code, table.block.first.code < code ∧ code < kind.code ∧ ¬Kind.Assigned code) →
        table.find? kind = none)) ∧
    ∀ entry, table.find? kind = some entry → entry.kind = kind := by
  have inOrder := Audit.registry_eq_nil_iff.mp clean
  refine ⟨find?_eq_none, fun inside => ?_, fun entry found => (find?_eq_some found).2.2⟩
  obtain ⟨entry, mem, rfl⟩ := inOrder.exists_entry inside
  refine ⟨entry, inOrder.filter_kind_eq_singleton mem, fun gapless => ?_, ?_⟩
  · exact inOrder.find?_eq_some_iff.mpr ⟨⟨mem, rfl⟩, gapless⟩
  · rintro ⟨code, above, below, unassigned⟩
    refine Option.eq_none_iff_forall_ne_some.mpr fun other found => unassigned ?_
    obtain ⟨-, gapless⟩ := inOrder.find?_eq_some_iff.mp found
    exact gapless code above.le below.le

/-- A registry in order over a block with a gap behind its first kind. -/
def gapped : Registry Unit where
  label := "gapped"
  block := ⟨.list, .exclamationToken⟩
  entries := [⟨.list, "list", [], ()⟩, ⟨.tildeToken, "~", [], ()⟩, ⟨.exclamationToken, "!", [], ()⟩]

/-- The entry before the gap is found, the one behind it is not, though it is listed. -/
theorem find?_gapped :
    Audit.registry gapped = [] ∧
    gapped.find? .list = some ⟨.list, "list", [], ()⟩ ∧
    gapped.entries.filter (·.kind = .tildeToken) = [⟨.tildeToken, "~", [], ()⟩] ∧
    gapped.find? .tildeToken = none ∧ gapped.find? .dollarToken = none := by
  have clean : Audit.registry gapped = [] := by decide
  obtain ⟨-, before, -⟩ := find?_of_audit_eq_nil gapped clean .list
  obtain ⟨-, behind, -⟩ := find?_of_audit_eq_nil gapped clean .tildeToken
  obtain ⟨outside, -, -⟩ := find?_of_audit_eq_nil gapped clean .dollarToken
  obtain ⟨first, isFirst, found, -⟩ := before (by decide)
  obtain ⟨-, -, -, hidden⟩ := behind (by decide)
  have gapless : Interval.Gapless ⟨.list, .list⟩ := fun _ above upTo =>
    ⟨.list, Nat.le_antisymm above upTo⟩
  have unassigned : ¬Kind.Assigned 2 := fun ⟨kind, same⟩ =>
    (by decide +kernel : ∀ kind : Kind, kind.code ≠ 2) kind same
  refine ⟨clean, ?_, rfl, hidden ⟨2, by decide, by decide, unassigned⟩, outside (by decide)⟩
  rw [found gapless]
  exact congrArg some (List.singleton_inj.mp isFirst).symm

/-! ## Two registries asked in turn -/

/-- The audit of two registries and of their claims makes the index look-ups and the entry look-ups
inverse to each other. -/
theorem index_or_eq_some_iff {γ : Type} (first second : Registry γ)
    (apart : ∀ kind ∈ first.block, kind ∉ second.block)
    (gaplessFirst : first.block.Gapless) (gaplessSecond : second.block.Gapless)
    (cleanFirst : Audit.registry first = []) (cleanSecond : Audit.registry second = [])
    (cleanSpellings : Audit.spellings (first.claims true ++ second.claims true) = [])
    (spelling : String) (kind : Kind) :
    ((SpellingIndex.ofEntries true [first.entries]).find? spelling).or
        ((SpellingIndex.ofEntries true [second.entries]).find? spelling) = some kind ↔
      ∃ entry, (first.find? kind).or (second.find? kind) = some entry ∧
        (spelling = entry.canonical ∨ spelling ∈ entry.synonyms) := by
  have left : first.Complete := ⟨Audit.registry_eq_nil_iff.mp cleanFirst, gaplessFirst⟩
  have right : second.Complete := ⟨Audit.registry_eq_nil_iff.mp cleanSecond, gaplessSecond⟩
  have paired : Paired first second := ⟨left, right, apart⟩
  have unambiguous := Audit.spellings_eq_nil_iff.mp cleanSpellings
  rw [find?_ofEntries_or_eq_some_iff unambiguous]
  exact paired.mem_claims_iff_find?

/-- The two tables of keywords pass the audit, so a synonym in the second one is found. -/
theorem index_or_eq_some_contextual :
    Keyword.reserved.block.Gapless ∧ Keyword.contextual.block.Gapless ∧
    Audit.registry Keyword.reserved = [] ∧ Audit.registry Keyword.contextual = [] ∧
    Audit.spellings (Keyword.reserved.claims true ++ Keyword.contextual.claims true) = [] ∧
    ((SpellingIndex.ofEntries true [Keyword.reserved.entries]).find? "部分").or
      ((SpellingIndex.ofEntries true [Keyword.contextual.entries]).find? "部分") =
        some .partialKeyword := by
  obtain ⟨left, right, apart⟩ := Vocabulary.keyword_paired
  have cleanFirst := Audit.registry_eq_nil_iff.mpr left.inOrder
  have cleanSecond := Audit.registry_eq_nil_iff.mpr right.inOrder
  have cleanSpellings := Audit.spellings_eq_nil_iff.mpr Vocabulary.unambiguous_keywords
  have contract := index_or_eq_some_iff Keyword.reserved Keyword.contextual apart left.gapless
    right.gapless cleanFirst cleanSecond cleanSpellings "部分" .partialKeyword
  refine ⟨left.gapless, right.gapless, cleanFirst, cleanSecond, cleanSpellings, ?_⟩
  exact contract.mpr ⟨⟨.partialKeyword, "partial", ["部分"], .modifier⟩, rfl, .inr (by simp)⟩

end Lexicon.Registry
