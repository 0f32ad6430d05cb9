import Mathlib.Order.Nat
import Lexicon.Audit.Check

/-!
# Checks of neighbours

The check of the layout compares the end of each block with the start of the next one. Between
distant blocks this carries over through every block that starts no later than it ends. The two ends
of one block are never compared, though: a block given the wrong way round has no members and
passes, and the layout may start over behind it.

## Main statements

* `Audit.blocks_eq_nil_iff`: a clean check is a statement about neighbours.
* `Audit.ascending_of_blocks_eq_nil`: blocks are ascending and apart as long as no block between
  them is given the wrong way round.
* `Audit.not_apart_of_blocks_eq_nil`: that condition cannot be left out.
-/

namespace Lexicon.Audit

theorem mem_adjacent_iff {α : Type} {elements : List α} {a b : α} :
    (a, b) ∈ adjacent elements ↔ ∃ i, elements[i]? = some a ∧ elements[i + 1]? = some b := by
  simp [adjacent, List.mem_iff_getElem?, List.getElem?_zip_eq_some, List.getElem?_tail]

/-! ## Blocks -/

variable {layout : List (Category × Interval)} {a b : Category × Interval} {i j : Nat}

theorem blocks_eq_nil_iff : blocks layout = [] ↔ ∀ i a b,
    layout[i]? = some a → layout[i + 1]? = some b → a.2.last < b.2.first := by
  rw [blocks, List.filterMap_eq_nil_iff]
  constructor
  · intro faultless i a b ha hb
    have apart := faultless (a, b) (mem_adjacent_iff.mpr ⟨i, ha, hb⟩)
    simpa [Kind.le_def, Kind.lt_def] using apart
  · rintro neighbours ⟨a, b⟩ mem
    obtain ⟨i, ha, hb⟩ := mem_adjacent_iff.mp mem
    have apart := neighbours i a b ha hb
    simpa [Kind.le_def, Kind.lt_def] using apart

theorem last_lt_first_of_blocks_eq_nil (clean : blocks layout = []) (less : i < j)
    (ha : layout[i]? = some a) (hb : layout[j]? = some b)
    (upright : ∀ k block, i < k → k < j → layout[k]? = some block →
      block.2.first ≤ block.2.last) : a.2.last < b.2.first := by
  have neighbours := blocks_eq_nil_iff.mp clean
  induction j, less using Nat.le_induction generalizing b with
  | base => exact neighbours i a b ha hb
  | succ j less ih =>
    obtain ⟨inside, -⟩ := List.getElem?_eq_some_iff.mp hb
    have middle : layout[j]? = some layout[j] := List.getElem?_eq_getElem (by omega)
    have before := ih middle fun k block hi hj => upright k block hi (by omega)
    have through := upright j layout[j] less (by omega) middle
    have after := neighbours j layout[j] b middle hb
    grind

/-- In a layout that passes, every kind of a block sorts before every kind of a later block and no
kind lies in both, unless a block between the two is given the wrong way round. -/
theorem ascending_of_blocks_eq_nil (layout : List (Category × Interval))
    (clean : blocks layout = []) (i j : Nat) (less : i < j) (a b : Category × Interval)
    (ha : layout[i]? = some a) (hb : layout[j]? = some b)
    (upright : ∀ k block, i < k → k < j → layout[k]? = some block →
      block.2.first ≤ block.2.last) :
    (∀ kind ∈ a.2, ∀ other ∈ b.2, kind < other) ∧ ∀ kind ∈ a.2, kind ∉ b.2 := by
  have apart := last_lt_first_of_blocks_eq_nil clean less ha hb upright
  have ascending : ∀ kind ∈ a.2, ∀ other ∈ b.2, kind < other := by
    rintro kind ⟨-, upTo⟩ other ⟨start, -⟩
    grind
  refine ⟨ascending, fun kind inA inB => ?_⟩
  have less := ascending kind inA kind inB
  grind

/-- The first and the last block of three, with one between them. -/
theorem ascending_of_blocks_keywords :
    let layout : List (Category × Interval) :=
      [(.reservedKeyword, Category.reservedKeyword.bounds),
        (.preprocessorKeyword, Category.preprocessorKeyword.bounds),
        (.contextualKeyword, Category.contextualKeyword.bounds)]
    blocks layout = [] ∧ Kind.implicitKeyword < Kind.yieldKeyword ∧
      Kind.implicitKeyword ∉ Category.contextualKeyword.bounds := by
  intro layout
  have clean : blocks layout = [] := by decide
  have upright : ∀ k block, 0 < k → k < 2 → layout[k]? = some block →
      block.2.first ≤ block.2.last := by
    intro k block positive below found
    obtain rfl : k = 1 := by omega
    obtain rfl := Option.some.inj found
    decide
  obtain ⟨ascending, apart⟩ :=
    ascending_of_blocks_eq_nil layout clean 0 2 (by decide) _ _ rfl rfl upright
  exact ⟨clean, ascending _ (by decide) _ (by decide), apart _ (by decide)⟩

/-- A layout that passes may list a kind twice, behind a block given the wrong way round. -/
theorem not_apart_of_blocks_eq_nil :
    ¬∀ layout : List (Category × Interval), blocks layout = [] →
      ∀ i j : Nat, i < j → ∀ a b : Category × Interval, layout[i]? = some a →
        layout[j]? = some b → ∀ kind ∈ a.2, kind ∉ b.2 := by
  intro apart
  let layout : List (Category × Interval) :=
    [(.reservedKeyword, Category.reservedKeyword.bounds),
      (.trivia, ⟨.removeAccessorDeclaration, .noKind⟩),
      (.contextualKeyword, ⟨.intKeyword, .longKeyword⟩)]
  have clean : blocks layout = [] := by decide
  exact apart layout clean 0 2 (by decide) _ _ rfl rfl .intKeyword (by decide) (by decide)

end Lexicon.Audit
