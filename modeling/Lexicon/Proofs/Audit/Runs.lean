import Mathlib.Data.List.Chain
import Mathlib.Order.Defs.Unbundled
import Lexicon.Proofs.Audit.Faults
import Lexicon.Proofs.Audit.Neighbours
import Lexicon.Proofs.Kind.Table

/-!
# Ascending runs

The check of a kind table compares neighbours only. A table that passes is ascending as a whole all
the same, and two such tables with the same members are equal. The faults of any other table cut it
into runs: between two faults it ascends, and no ascending stretch reaches across one. So these runs
are maximal, and there is one more of them than there are faults.

## Main statements

* `Audit.ordering_eq_nil_iff`: a table passes exactly if it is ascending.
* `Audit.ordering_eq_filterMap`: the faults of a table, place by place.
* `Audit.isMaximalRun_iff`: the maximal ascending runs are those between neighbouring borders.
* `Audit.ordering_cuts_runs`: what the check tells of a table.
-/

namespace Lexicon.Audit

variable {kinds : List Kind} {place start stop : Nat}

/-! ## Faults -/

/-- The fault between a place and the next one: the kinds there do not ascend. -/
def disorder (kinds : List Kind) (place : Nat) : Option Violation := do
  let previous ← kinds[place]?
  let next ← kinds[place + 1]?
  if previous < next then none else some (.unordered previous next)

theorem disorder_eq_none_iff : disorder kinds place = none ↔
    ∀ a b, kinds[place]? = some a → kinds[place + 1]? = some b → a < b := by
  cases previous : kinds[place]? <;> cases next : kinds[place + 1]? <;>
    simp [disorder, previous, next]

theorem lt_length_of_disorder (fault : disorder kinds place ≠ none) :
    place + 1 < kinds.length := by
  by_contra outside
  have absent : kinds[place + 1]? = none := List.getElem?_eq_none (by omega)
  exact fault (disorder_eq_none_iff.mpr (by simp [absent]))

/-- The check reports the faults of a table in order. -/
theorem ordering_eq_filterMap (kinds : List Kind) :
    ordering kinds = (List.range (kinds.length - 1)).filterMap (disorder kinds) := by
  have length : (adjacent kinds).length = kinds.length - 1 := by simp [adjacent]
  rw [ordering, filterMap_eq_filterMap_range, length]
  apply List.filterMap_congr
  intro place _
  rw [adjacent, List.zip, List.getElem?_zipWith, List.getElem?_tail, disorder]
  cases kinds[place]? with
  | none => rfl
  | some previous =>
    cases kinds[place + 1]? with
    | none => rfl
    | some next =>
      by_cases less : previous < next
      · have : ¬next ≤ previous := by grind
        simp [less, this]
      · have : next ≤ previous := by grind
        simp [less, this]

theorem pairwise_iff_disorder :
    kinds.Pairwise (· < ·) ↔ ∀ place, disorder kinds place = none := by
  have : IsTrans Kind (· < ·) := ⟨fun a b c less more => by grind⟩
  simp only [← List.isChain_iff_pairwise, List.isChain_iff_getElem, disorder_eq_none_iff]
  constructor
  · intro ascends place a b ha hb
    obtain ⟨inside, rfl⟩ := List.getElem?_eq_some_iff.mp hb
    obtain ⟨-, rfl⟩ := List.getElem?_eq_some_iff.mp ha
    exact ascends place inside
  · intro ascends place inside
    exact ascends place _ _ (List.getElem?_eq_getElem _) (List.getElem?_eq_getElem inside)

theorem ordering_eq_nil_iff : ordering kinds = [] ↔ kinds.Pairwise (· < ·) := by
  rw [ordering_eq_filterMap, List.filterMap_eq_nil_iff, pairwise_iff_disorder]
  refine ⟨fun faultless place => ?_, fun faultless place _ => faultless place⟩
  by_contra fault
  have := lt_length_of_disorder fault
  exact fault (faultless place (List.mem_range.mpr (by omega)))

/-! ## Borders -/

/-- The places with a fault. -/
def breaks (kinds : List Kind) : List Nat :=
  (List.range (kinds.length - 1)).filter fun place => (disorder kinds place).isSome

/-- The ends of a table, and between them the place behind each fault. -/
def borders (kinds : List Kind) : List Nat := 0 :: (breaks kinds).map (· + 1) ++ [kinds.length]

/-- From each border to the next one. -/
def pieces (kinds : List Kind) : List (Nat × Nat) := adjacent (borders kinds)

theorem length_breaks (kinds : List Kind) : (breaks kinds).length = (ordering kinds).length := by
  rw [ordering_eq_filterMap, List.length_filterMap_eq_countP, breaks, List.countP_eq_length_filter]

theorem mem_breaks_iff : place ∈ breaks kinds ↔ disorder kinds place ≠ none := by
  rw [breaks, List.mem_filter, List.mem_range, Option.isSome_iff_ne_none, and_iff_right_iff_imp]
  intro fault
  have := lt_length_of_disorder fault
  omega

theorem mem_borders_iff {border : Nat} : border ∈ borders kinds ↔
    border = 0 ∨ (∃ place ∈ breaks kinds, place + 1 = border) ∨ border = kinds.length := by
  simp [borders]

theorem le_length_of_mem_borders {border : Nat} (mem : border ∈ borders kinds) :
    border ≤ kinds.length := by
  rcases mem_borders_iff.mp mem with rfl | ⟨place, broken, rfl⟩ | rfl
  · exact Nat.zero_le _
  · exact (lt_length_of_disorder (mem_breaks_iff.mp broken)).le
  · exact Nat.le_refl _

theorem pairwise_borders (nonempty : kinds ≠ []) : (borders kinds).Pairwise (· < ·) := by
  have length := List.length_pos_iff.mpr nonempty
  have inner : ((breaks kinds).map (· + 1)).Pairwise (· < ·) :=
    List.pairwise_map.mpr ((List.pairwise_lt_range.filter _).imp (by omega))
  have bound : ∀ border ∈ (breaks kinds).map (· + 1), 0 < border ∧ border < kinds.length := by
    intro border mem
    obtain ⟨place, broken, rfl⟩ := List.mem_map.mp mem
    exact ⟨place.succ_pos, lt_length_of_disorder (mem_breaks_iff.mp broken)⟩
  refine List.pairwise_append.mpr ⟨List.pairwise_cons.mpr ⟨?_, inner⟩, by simp, ?_⟩
  · exact fun border mem => (bound border mem).1
  · intro border mem last isLast
    obtain rfl := List.mem_singleton.mp isLast
    rcases List.mem_cons.mp mem with rfl | mem
    · exact length
    · exact (bound border mem).2

/-- Neighbours in an ascending list have no element between them. -/
theorem mem_adjacent_iff_of_pairwise {l : List Nat} (ascending : l.Pairwise (· < ·)) :
    (start, stop) ∈ adjacent l ↔
      start ∈ l ∧ stop ∈ l ∧ start < stop ∧ ∀ x ∈ l, x ≤ start ∨ stop ≤ x := by
  have ordered := List.pairwise_iff_getElem.mp ascending
  have mono (i j : Nat) (hi : i < l.length) (hj : j < l.length) (le : i ≤ j) : l[i] ≤ l[j] := by
    rcases Nat.eq_or_lt_of_le le with rfl | less
    · exact Nat.le_refl _
    · exact (ordered i j hi hj less).le
  rw [mem_adjacent_iff]
  constructor
  · rintro ⟨i, first, second⟩
    obtain ⟨hi, rfl⟩ := List.getElem?_eq_some_iff.mp first
    obtain ⟨hj, rfl⟩ := List.getElem?_eq_some_iff.mp second
    refine ⟨List.getElem_mem hi, List.getElem_mem hj, ordered i (i + 1) hi hj (by omega), ?_⟩
    intro x mem
    obtain ⟨k, hk, rfl⟩ := List.mem_iff_getElem.mp mem
    rcases Nat.lt_or_ge i k with behind | upTo
    · exact .inr (mono (i + 1) k hj hk behind)
    · exact .inl (mono k i hk hi upTo)
  · rintro ⟨first, second, less, apart⟩
    obtain ⟨i, hi, rfl⟩ := List.mem_iff_getElem.mp first
    obtain ⟨j, hj, rfl⟩ := List.mem_iff_getElem.mp second
    have before : i < j := by
      by_contra upTo
      have := mono j i hj hi (by omega)
      omega
    have next := ordered i (i + 1) hi (by omega) (by omega)
    have : j = i + 1 := by
      by_contra gap
      have := ordered (i + 1) j (by omega) hj (by omega)
      have := apart l[i + 1] (List.getElem_mem _)
      omega
    subst this
    exact ⟨i, List.getElem?_eq_getElem hi, List.getElem?_eq_getElem hj⟩

/-! ## Runs -/

theorem getElem?_extract (l : List Kind) (start stop i : Nat) :
    (l.extract start stop)[i]? = if start + i < stop then l[start + i]? else none := by
  rw [List.extract_eq_take_drop, List.getElem?_take, List.getElem?_drop]
  split <;> split <;> first | rfl | omega

theorem disorder_extract : disorder (kinds.extract start stop) place =
    if start + place + 1 < stop then disorder kinds (start + place) else none := by
  split
  next inside =>
    have before : start + place < stop := by omega
    simp only [disorder, getElem?_extract, ← Nat.add_assoc, inside, before, if_true]
  next outside =>
    refine disorder_eq_none_iff.mpr fun a b _ hb => ?_
    rw [getElem?_extract, ← Nat.add_assoc, if_neg outside] at hb
    cases hb

/-- A stretch ascends exactly if it reaches across no border. -/
theorem pairwise_extract_iff (inside : stop ≤ kinds.length) :
    (kinds.extract start stop).Pairwise (· < ·) ↔
      ∀ border ∈ borders kinds, border ≤ start ∨ stop ≤ border := by
  simp only [pairwise_iff_disorder, disorder_extract]
  constructor
  · intro faultless border mem
    rcases mem_borders_iff.mp mem with rfl | ⟨place, broken, rfl⟩ | rfl
    · exact .inl (Nat.zero_le _)
    · by_contra across
      obtain ⟨steps, rfl⟩ : ∃ steps, place = start + steps := Nat.exists_eq_add_of_le (by omega)
      have faultless := faultless steps
      rw [if_pos (by omega)] at faultless
      exact mem_breaks_iff.mp broken faultless
    · exact .inr inside
  · intro apart place
    split
    next within =>
      by_contra fault
      have := apart (start + place + 1)
        (mem_borders_iff.mpr (.inr (.inl ⟨_, mem_breaks_iff.mpr fault, rfl⟩)))
      omega
    next => rfl

/-- The kinds from one place up to another ascend, and those of no longer stretch around it do. -/
structure IsMaximalRun (kinds : List Kind) (start stop : Nat) : Prop where
  nonempty : start < stop
  inside : stop ≤ kinds.length
  ascending : (kinds.extract start stop).Pairwise (· < ·)
  maximal : ∀ before after, before ≤ start → stop ≤ after → after ≤ kinds.length →
    (kinds.extract before after).Pairwise (· < ·) → before = start ∧ after = stop

theorem isMaximalRun_iff (nonempty : kinds ≠ []) :
    IsMaximalRun kinds start stop ↔ (start, stop) ∈ pieces kinds := by
  have zero : 0 ∈ borders kinds := by simp [borders]
  have length : kinds.length ∈ borders kinds := by simp [borders]
  rw [pieces, mem_adjacent_iff_of_pairwise (pairwise_borders nonempty)]
  constructor
  · intro run
    have less := run.nonempty
    have inside := run.inside
    have apart := (pairwise_extract_iff inside).mp run.ascending
    -- A run that starts or ends at no border could be made longer by one place there.
    refine ⟨?_, ?_, less, apart⟩
    · by_contra missing
      have positive : start ≠ 0 := fun first => missing (first ▸ zero)
      have ascends : (kinds.extract (start - 1) stop).Pairwise (· < ·) := by
        refine (pairwise_extract_iff inside).mpr fun border mem => ?_
        have : border ≠ start := fun same => missing (same ▸ mem)
        have := apart border mem
        omega
      have := run.maximal (start - 1) stop (by omega) (by omega) inside ascends
      omega
    · by_contra missing
      have short : stop ≠ kinds.length := fun last => missing (last ▸ length)
      have ascends : (kinds.extract start (stop + 1)).Pairwise (· < ·) := by
        refine (pairwise_extract_iff (by omega)).mpr fun border mem => ?_
        have : border ≠ stop := fun same => missing (same ▸ mem)
        have := apart border mem
        omega
      have := run.maximal start (stop + 1) (by omega) (by omega) (by omega) ascends
      omega
  · rintro ⟨first, last, less, apart⟩
    have inside := le_length_of_mem_borders last
    refine ⟨less, inside, (pairwise_extract_iff inside).mpr apart, ?_⟩
    intro before after front back fits ascends
    have across := (pairwise_extract_iff fits).mp ascends
    have := across start first
    have := across stop last
    omega

/-! ## Cutting -/

theorem extract_append_extract (l : List Kind) {middle : Nat} (front : start ≤ middle)
    (back : middle ≤ stop) :
    l.extract start middle ++ l.extract middle stop = l.extract start stop := by
  have count : stop - start = (middle - start) + (stop - middle) := by omega
  simp only [List.extract_eq_take_drop, count, List.take_add, List.drop_drop,
    Nat.add_sub_of_le front]

/-- What stands between the marks of a row is what stands between its ends. -/
theorem flatten_map_extract (l : List Kind) {marks : List Nat}
    (ascending : (start :: marks).Pairwise (· < ·))
    (last : (start :: marks).getLast? = some stop) :
    ((adjacent (start :: marks)).map fun (start, stop) => l.extract start stop).flatten =
      l.extract start stop := by
  induction marks generalizing start with
  | nil =>
    obtain rfl : start = stop := by simpa using last
    simp [adjacent]
  | cons next marks ih =>
    obtain ⟨above, rest⟩ := List.pairwise_cons.mp ascending
    have ends : (next :: marks).getLast? = some stop := by simpa using last
    have back : next ≤ stop := by
      rcases List.mem_cons.mp (List.mem_of_getLast? ends) with rfl | mem
      · exact Nat.le_refl _
      · exact ((List.pairwise_cons.mp rest).1 stop mem).le
    have split : adjacent (start :: next :: marks) = (start, next) :: adjacent (next :: marks) :=
      rfl
    rw [split, List.map_cons, List.flatten_cons, ih rest ends]
    exact extract_append_extract l (above next List.mem_cons_self).le back

theorem flatten_pieces (nonempty : kinds ≠ []) :
    ((pieces kinds).map fun (start, stop) => kinds.extract start stop).flatten = kinds := by
  have last : (borders kinds).getLast? = some kinds.length := List.getLast?_concat
  have cut := flatten_map_extract kinds (pairwise_borders nonempty) last
  rwa [List.extract_eq_take_drop, List.drop_zero, Nat.sub_zero, List.take_length] at cut

theorem length_pieces (kinds : List Kind) :
    (pieces kinds).length = (ordering kinds).length + 1 := by
  rw [← length_breaks]
  simp [pieces, adjacent, borders]

/-- The check finds nothing exactly if each kind sorts before all later ones, so that none is listed
twice and the members determine the table. Otherwise it reports, in order, each place where a kind
does not sort before the next one. These places cut the table into its maximal ascending runs, one
more than there are faults. -/
theorem ordering_cuts_runs (kinds : List Kind) :
    (ordering kinds = [] ↔ ∀ (i j : Nat) (a b : Kind), i < j →
      kinds[i]? = some a → kinds[j]? = some b → a < b) ∧
    (ordering kinds = [] → kinds.Nodup ∧ ∀ other, ordering other = [] →
      (∀ kind, kind ∈ other ↔ kind ∈ kinds) → other = kinds) ∧
    ordering kinds = (List.range (kinds.length - 1)).filterMap (disorder kinds) ∧
    (kinds ≠ [] →
      ((pieces kinds).map fun (start, stop) => kinds.extract start stop).flatten = kinds ∧
      (∀ start stop, (start, stop) ∈ pieces kinds ↔ IsMaximalRun kinds start stop) ∧
      (pieces kinds).length = (ordering kinds).length + 1) := by
  refine ⟨?_, fun clean => ⟨?_, fun other also same => ?_⟩, ordering_eq_filterMap kinds,
    fun nonempty => ⟨flatten_pieces nonempty, fun start stop => (isMaximalRun_iff nonempty).symm,
      length_pieces kinds⟩⟩
  · rw [ordering_eq_nil_iff, List.pairwise_iff_getElem]
    constructor
    · intro ascends i j a b less ha hb
      obtain ⟨hi, rfl⟩ := List.getElem?_eq_some_iff.mp ha
      obtain ⟨hj, rfl⟩ := List.getElem?_eq_some_iff.mp hb
      exact ascends i j hi hj less
    · intro ascends i j hi hj less
      exact ascends i j _ _ less (List.getElem?_eq_getElem hi) (List.getElem?_eq_getElem hj)
  · exact (ordering_eq_nil_iff.mp clean).imp fun less => by grind
  · exact Kind.eq_of_pairwise_of_mem_iff (ordering_eq_nil_iff.mp also)
      (ordering_eq_nil_iff.mp clean) same

/-- One kind out of order between two runs. -/
theorem ordering_cuts_runs_keywords :
    let kinds : List Kind := [.intKeyword, .boolKeyword, .charKeyword]
    ordering kinds = [.unordered .intKeyword .boolKeyword] ∧ kinds ≠ [] ∧
      IsMaximalRun kinds 0 1 ∧ IsMaximalRun kinds 1 3 := by
  intro kinds
  have nonempty : kinds ≠ [] := by simp [kinds]
  obtain ⟨-, -, -, cut⟩ := ordering_cuts_runs kinds
  obtain ⟨-, runs, -⟩ := cut nonempty
  exact ⟨by decide, nonempty, (runs 0 1).mp (by decide), (runs 1 3).mp (by decide)⟩

end Lexicon.Audit
