import Mathlib.Tactic.Conv
import Lexicon.Sorted

/-!
# Searching is finding

Halving a list gives what going through it from the front would give, if the probe answers for the
list in order: first with elements to the left of the one sought, then with that one, then with
elements to the right.
-/

namespace Lexicon

namespace Sorted

variable {α : Type} {probe : α → Ordering} {elements : List α}

/-- Behind the first element that does not lie to the left of the one sought, every element lies to
the right of it. -/
def Guides (probe : α → Ordering) (elements : List α) : Prop :=
  elements.Pairwise fun a b => probe a ≠ .lt → probe b = .gt

/-- One answer of the probe tells in which part of the list to go on. -/
theorem Guides.find?_eq {count : Nat} {middle : α} {after : List α}
    (guides : Guides probe elements) (split : elements.drop count = middle :: after) :
    elements.find? (probe · = .eq) =
      match probe middle with
      | .eq => some middle
      | .lt => after.find? (probe · = .eq)
      | .gt => (elements.take count).find? (probe · = .eq) := by
  have parts : elements = elements.take count ++ middle :: after := by
    rw [← split, List.take_append_drop]
  rw [parts] at guides
  obtain ⟨-, behind, across⟩ := List.pairwise_append.mp guides
  have left (bound : probe middle ≠ .gt) :
      (elements.take count).find? (probe · = .eq) = none :=
    List.find?_eq_none.mpr fun a mem => by
      have := across a mem middle List.mem_cons_self
      grind
  have right (bound : probe middle ≠ .lt) : after.find? (probe · = .eq) = none :=
    List.find?_eq_none.mpr fun b mem => by
      simp [(List.pairwise_cons.mp behind).1 b mem bound]
  conv_lhs => rw [parts]
  cases answer : probe middle with
  | lt => simp [List.find?_append, left, answer]
  | eq => simp [List.find?_append, left, answer]
  | gt => simp [List.find?_append, right, answer]

/-- What one element at most has is found exactly in the element that has it. -/
theorem find?_eq_some_iff_of_unique {p : α → Bool} {a : α}
    (unique : ∀ a ∈ elements, ∀ b ∈ elements, p a → p b → a = b) :
    elements.find? p = some a ↔ a ∈ elements ∧ p a := by
  constructor
  · exact fun found => ⟨List.mem_of_find?_eq_some found, List.find?_some found⟩
  · rintro ⟨mem, has⟩
    cases found : elements.find? p with
    | none => exact absurd has (List.find?_eq_none.mp found a mem)
    | some b => rw [unique b (List.mem_of_find?_eq_some found) a mem (List.find?_some found) has]

theorem search_eq_find? (guides : Guides probe elements) :
    search probe elements = elements.find? (probe · = .eq) := by
  fun_induction search probe elements with
  | case1 elements none =>
    have : elements.length ≤ elements.length / 2 := List.drop_eq_nil_iff.mp none
    have : elements = [] := List.length_eq_zero_iff.mp (by omega)
    simp [this]
  | case2 elements middle after split answer =>
    rw [guides.find?_eq split, answer]
  | case3 elements middle after split answer ih =>
    have later : Guides probe (middle :: after) := split ▸ guides.sublist (List.drop_sublist _ _)
    rw [guides.find?_eq split, answer, ih later.of_cons]
  | case4 elements middle after split answer ih =>
    rw [guides.find?_eq split, answer, ih (guides.sublist (List.take_sublist _ _))]

end Sorted

end Lexicon
