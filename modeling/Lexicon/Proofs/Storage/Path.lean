import Mathlib.Data.List.Basic
import Lexicon.Storage.Path

/-!
# Names on a path

The pieces of a path that are not empty are the names that lead to what it stands for. The
directories above a path are those of a shorter row of the same names.
-/

namespace Lexicon.Storage

/-- The names lead to a directory on the way along the longer row of names. -/
def IsAbove (above names : List String) : Prop := above <+: names ∧ above ≠ names

instance (above names : List String) : Decidable (IsAbove above names) :=
  inferInstanceAs (Decidable (above <+: names ∧ above ≠ names))

namespace Path

/-- The names on a path. -/
def names (path : Path) : List String := path.pieces.filter fun piece => !piece.isEmpty

/-- No piece of the path is a dot or two dots. -/
def IsOrdinary (path : Path) : Prop := ∀ piece ∈ path.pieces, piece ≠ "." ∧ piece ≠ ".."

instance (path : Path) : Decidable path.IsOrdinary :=
  inferInstanceAs (Decidable (∀ piece ∈ path.pieces, piece ≠ "." ∧ piece ≠ ".."))

/-- Empty pieces at the end of a path are no names. -/
theorem names_eq (path : Path) : path.names =
    (path.pieces.reverse.dropWhile (·.isEmpty)).reverse.filter fun piece => !piece.isEmpty := by
  have skipped (backwards : List String) :
      (backwards.dropWhile (·.isEmpty)).filter (fun piece => !piece.isEmpty) =
        backwards.filter fun piece => !piece.isEmpty := by
    induction backwards with
    | nil => rfl
    | cons piece before ih =>
      by_cases empty : piece.isEmpty
      · simp [empty, ih]
      · simp [empty]
  rw [List.filter_reverse, skipped, List.filter_reverse, List.reverse_reverse, names]

theorem isPrefix_of_mem_upward {backwards : List String} {path : Path}
    (mem : path ∈ upward backwards) : path.pieces <+: backwards.reverse := by
  induction backwards with
  | nil => simp [upward] at mem
  | cons piece before ih =>
    have longer : before.reverse <+: (piece :: before).reverse := by simp
    rw [upward] at mem
    split at mem
    · exact (ih mem).trans longer
    · rcases List.mem_cons.mp mem with rfl | mem
      · exact List.prefix_rfl
      · exact (ih mem).trans longer

/-- Only the pieces in front of the last name are those of a directory above. -/
theorem isAbove_of_mem_tail_upward {backwards : List String} {path : Path}
    (ordinary : ∀ piece ∈ backwards, piece ≠ ".") (mem : path ∈ (upward backwards).tail) :
    IsAbove path.names (names ⟨backwards.reverse⟩) := by
  induction backwards with
  | nil => simp [upward] at mem
  | cons piece before ih =>
    obtain ⟨noDot, ordinary⟩ := List.forall_mem_cons.mp ordinary
    rw [upward] at mem
    by_cases empty : piece = ""
    · rw [if_pos (by simp [isIdle, empty])] at mem
      simpa [names, empty] using ih ordinary mem
    · rw [if_neg (by simp [isIdle, empty, noDot]), List.tail_cons] at mem
      have front : path.names <+: names ⟨before.reverse⟩ :=
        (isPrefix_of_mem_upward mem).filter _
      have longer : names ⟨(piece :: before).reverse⟩ = names ⟨before.reverse⟩ ++ [piece] := by
        simp [names, empty]
      rw [longer]
      refine ⟨front.trans (List.prefix_append _ _), fun same => ?_⟩
      have bound := front.length_le
      rw [same, List.length_append, List.length_singleton] at bound
      omega

variable {path above : Path}

theorem IsOrdinary.of_mem_parents (ordinary : path.IsOrdinary) (mem : above ∈ path.parents) :
    above.IsOrdinary := by
  have shorter := isPrefix_of_mem_upward (List.mem_of_mem_tail mem)
  rw [List.reverse_reverse] at shorter
  exact fun piece listed => ordinary piece (shorter.subset listed)

theorem IsOrdinary.isAbove_of_mem_parents (ordinary : path.IsOrdinary)
    (mem : above ∈ path.parents) : IsAbove above.names path.names := by
  have noDot : ∀ piece ∈ path.pieces.reverse, piece ≠ "." := fun piece listed =>
    (ordinary piece (List.mem_reverse.mp listed)).1
  simpa using isAbove_of_mem_tail_upward noDot mem

end Path

end Lexicon.Storage
