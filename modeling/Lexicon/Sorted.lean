/-!
# Searching a sorted list

The list is halved until the element is found or nothing is left. The probe says on which side of
the element sought another one lies, so the list has to be sorted in the order of the probe.
-/

namespace Lexicon.Sorted

/-- The element for which the probe answers that it is the one sought. -/
def search {α : Type} (probe : α → Ordering) (elements : List α) : Option α :=
  match _h : elements.drop (elements.length / 2) with
  | [] => none
  | middle :: after =>
    match probe middle with
    | .eq => some middle
    | .lt => search probe after
    | .gt => search probe (elements.take (elements.length / 2))
termination_by elements.length
decreasing_by
  · have := congrArg List.length _h
    simp at this
    omega
  · have := congrArg List.length _h
    simp at this ⊢
    omega

end Lexicon.Sorted
