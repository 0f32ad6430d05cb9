import Lexicon.Kind.Interval
import Lexicon.Proofs.Ascending
import Lexicon.Proofs.Kind.Table

/-!
# Members of an interval

The kinds of an interval are the kinds of the table that lie in it, in ascending order. A member
stands in that list at its distance from the first end exactly if no code between them is
unassigned; before a gap the two places agree, behind it the place is always nearer to the front.

Overlap compares ends only. It tells of a shared member as long as neither interval is given the
wrong way round; one that is holds nothing, and still overlaps what reaches over both of its ends.

## Main statements

* `Interval.mem_kinds`: an interval lists its members and nothing else.
* `Interval.exists_mem_iff_overlaps`: when overlap means a shared member.
* `Interval.getElem?_kinds_sub_iff`: place and distance agree as far as there is no gap.
-/

namespace Lexicon

namespace Interval

variable {interval : Interval} {kind : Kind}

/-! ## The list of members -/

theorem kinds_eq_filter (interval : Interval) :
    interval.kinds = Kind.all.filter fun kind => kind ∈ interval := by
  have below : Kind.all.Pairwise fun a b =>
      decide (b < interval.first) → decide (a < interval.first) := by
    exact Kind.pairwise_all.imp fun {a b} less => by grind
  have upTo : (Kind.all.filter fun kind => !decide (kind < interval.first)).Pairwise fun a b =>
      decide (b ≤ interval.last) → decide (a ≤ interval.last) := by
    exact (Kind.pairwise_all.filter _).imp fun {a b} less => by grind
  rw [kinds, Ascending.dropWhile_eq_filter below,
    Ascending.takeWhile_eq_filter upTo, List.filter_filter]
  exact List.filter_congr fun kind _ => by grind

@[simp] theorem mem_kinds : kind ∈ interval.kinds ↔ kind ∈ interval := by
  simp [kinds_eq_filter]

theorem pairwise_kinds (interval : Interval) : interval.kinds.Pairwise (· < ·) := by
  rw [kinds_eq_filter]
  exact Kind.pairwise_all.filter _

theorem nodup_kinds (interval : Interval) : interval.kinds.Nodup :=
  (pairwise_kinds interval).imp fun less => by grind

/-! ## Overlap -/

/-- The ends are kinds, so only an interval given the wrong way round holds nothing. -/
theorem isEmpty_iff : interval.isEmpty = true ↔ interval.last < interval.first := by
  have unlisted : interval.isEmpty = true ↔ ∀ kind, kind ∉ interval := by
    simp only [isEmpty, size, beq_iff_eq, List.length_eq_zero_iff, List.eq_nil_iff_forall_not_mem,
      mem_kinds]
  rw [unlisted]
  constructor
  · intro nothing
    have outside := nothing interval.first
    grind
  · intro inverted kind inside
    grind

theorem isEmpty_eq_false_iff : interval.isEmpty = false ↔ interval.first ≤ interval.last := by
  rw [← Bool.not_eq_true, isEmpty_iff]
  grind

/-- Two intervals share a kind exactly if each starts no later than the other ends and neither is
empty. -/
theorem exists_mem_iff_overlaps (a b : Interval) :
    ((∃ kind, kind ∈ a ∧ kind ∈ b) ↔
      a.Overlaps b ∧ a.isEmpty = false ∧ b.isEmpty = false) ∧
    (a.Overlaps b ↔ b.Overlaps a) := by
  refine ⟨?_, And.comm⟩
  rw [isEmpty_eq_false_iff, isEmpty_eq_false_iff]
  constructor
  · rintro ⟨kind, ⟨afterA, beforeA⟩, afterB, beforeB⟩
    refine ⟨⟨?_, ?_⟩, ?_, ?_⟩ <;> grind
  · rintro ⟨⟨left, right⟩, uprightA, uprightB⟩
    -- the later one of the two starts lies in both
    rcases Nat.le_total a.first.code b.first.code with least | least
    · exact ⟨b.first, ⟨least, right⟩, Nat.le_refl _, uprightB⟩
    · exact ⟨a.first, ⟨Nat.le_refl _, uprightA⟩, least, left⟩

/-- An interval given the wrong way round overlaps one that reaches over both of its ends. -/
theorem not_overlaps_iff_exists_mem :
    ¬∀ a b : Interval, a.Overlaps b ↔ ∃ kind, kind ∈ a ∧ kind ∈ b := by
  intro shared
  obtain ⟨kind, inside, -⟩ :=
    (shared ⟨.intKeyword, .boolKeyword⟩ ⟨.boolKeyword, .intKeyword⟩).mp (by decide)
  have inverted : Kind.boolKeyword < Kind.intKeyword := by decide
  grind

/-- All that an empty interval overlaps are the intervals around both of its ends. -/
theorem overlaps_iff_of_isEmpty {a b : Interval} (empty : a.isEmpty = true) :
    a.Overlaps b ↔ a.first ∈ b ∧ a.last ∈ b := by
  have inverted := isEmpty_iff.mp empty
  constructor
  · rintro ⟨left, right⟩
    grind
  · rintro ⟨⟨-, left⟩, right, -⟩
    exact ⟨left, right⟩

/-! ## Gaps -/

/-- Every code from the first end to the last belongs to a kind. -/
def Gapless (interval : Interval) : Prop :=
  ∀ code, interval.first.code ≤ code → code ≤ interval.last.code → Kind.Assigned code

theorem pairwise_map_code_kinds (interval : Interval) :
    (interval.kinds.map Kind.code).Pairwise (· < ·) :=
  List.pairwise_map.mpr ((pairwise_kinds interval).imp Kind.lt_def.mp)

theorem gapless_iff : interval.Gapless ↔ interval.kinds.map Kind.code =
    List.range' interval.first.code (interval.last.code + 1 - interval.first.code) := by
  constructor
  · intro gapless
    have distinct : (interval.kinds.map Kind.code).Nodup :=
      (pairwise_map_code_kinds interval).imp fun less => Nat.ne_of_lt less
    refine List.Perm.eq_of_pairwise (fun a b _ _ less more => by omega)
      (pairwise_map_code_kinds interval) List.pairwise_lt_range' ?_
    refine (List.perm_ext_iff_of_nodup distinct List.nodup_range').mpr fun code => ?_
    rw [List.mem_range'_1, List.mem_map]
    constructor
    · rintro ⟨kind, mem, rfl⟩
      have inside := mem_kinds.mp mem
      grind
    · intro between
      obtain ⟨kind, rfl⟩ := gapless code between.1 (by omega)
      exact ⟨kind, mem_kinds.mpr ⟨between.1, Kind.le_def.mpr (by omega)⟩, rfl⟩
  · intro codes code hfirst hlast
    have listed : code ∈ interval.kinds.map Kind.code := by
      rw [codes, List.mem_range'_1]
      omega
    obtain ⟨kind, -, eq⟩ := List.mem_map.mp listed
    exact ⟨kind, eq⟩

instance (interval : Interval) : Decidable interval.Gapless :=
  decidable_of_iff _ gapless_iff.symm

/-- A member stands at its distance from the first end exactly if no code up to it is unassigned. -/
theorem getElem?_kinds_sub_iff (mem : kind ∈ interval) :
    interval.kinds[kind.code - interval.first.code]? = some kind ↔
      Gapless ⟨interval.first, kind⟩ := by
  have bound : ∀ code ∈ interval.kinds.map Kind.code, interval.first.code ≤ code := by
    intro code hcode
    obtain ⟨other, hother, rfl⟩ := List.mem_map.mp hcode
    exact (mem_kinds.mp hother).1
  have places := Ascending.getElem?_sub_eq_some_iff (pairwise_map_code_kinds interval) bound
    (List.mem_map_of_mem (mem_kinds.mpr mem))
  rw [List.getElem?_map, Option.map_eq_some_iff] at places
  constructor
  · intro found code hfirst hkind
    obtain ⟨other, -, eq⟩ := List.mem_map.mp (places.mp ⟨kind, found, rfl⟩ code hfirst hkind)
    exact ⟨other, eq⟩
  · intro assigned
    obtain ⟨other, found, same⟩ := places.mpr fun code hfirst hkind => by
      obtain ⟨other, rfl⟩ := assigned code hfirst hkind
      exact List.mem_map_of_mem (mem_kinds.mpr ⟨hfirst, hkind.trans mem.2⟩)
    obtain rfl := Kind.code_injective same
    exact found

/-- What has no gap at all has none up to one of its members. -/
theorem Gapless.upTo (gapless : interval.Gapless) (mem : kind ∈ interval) :
    Gapless ⟨interval.first, kind⟩ :=
  fun code hfirst hkind => gapless code hfirst (hkind.trans mem.2)

end Interval

end Lexicon
