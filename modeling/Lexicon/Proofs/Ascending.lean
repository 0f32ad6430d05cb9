import Mathlib.Data.List.Basic

/-!
# Ascending lists

A property that only a front part of a list can have splits the list as a filter does. In an
ascending list of numbers above a bound, an element is at least as far from the bound as it stands
from the front, and the two agree exactly as far as the list skips no number.
-/

namespace Lexicon.Ascending

/-! ## Prefixes of a list -/

section Prefix

variable {α : Type} {p : α → Bool} {l : List α}

/-- A property that only a front part can have is had by none if the first element lacks it. -/
theorem eq_false_of_head_eq_false {a : α} (front : (a :: l).Pairwise fun x y => p y → p x)
    (ha : p a = false) {b : α} (hb : b ∈ l) : p b = false := by
  have back := (List.pairwise_cons.mp front).1 b hb
  by_contra hp
  simp [back (by simpa using hp)] at ha

theorem takeWhile_eq_filter (front : l.Pairwise fun x y => p y → p x) :
    l.takeWhile p = l.filter p := by
  induction l with
  | nil => rfl
  | cons a l ih =>
    cases ha : p a with
    | true => simp [ha, ih (List.pairwise_cons.mp front).2]
    | false =>
      have rest : l.filter p = [] :=
        List.filter_eq_nil_iff.mpr fun b hb => by simp [eq_false_of_head_eq_false front ha hb]
      simp [ha, rest]

theorem dropWhile_eq_filter (front : l.Pairwise fun x y => p y → p x) :
    l.dropWhile p = l.filter fun a => !p a := by
  induction l with
  | nil => rfl
  | cons a l ih =>
    cases ha : p a with
    | true => simp [ha, ih (List.pairwise_cons.mp front).2]
    | false =>
      have rest : l.filter (fun a => !p a) = l :=
        List.filter_eq_self.mpr fun b hb => by simp [eq_false_of_head_eq_false front ha hb]
      simp [ha, rest]

end Prefix

/-! ## Places in an ascending list of numbers -/

section Places

variable {l : List Nat}

/-- Each element is at least as far from a lower bound as it stands from the front. -/
theorem add_le_of_getElem? (ascending : l.Pairwise (· < ·)) {lo i x : Nat}
    (bound : ∀ y ∈ l, lo ≤ y) (found : l[i]? = some x) : lo + i ≤ x := by
  induction l generalizing lo i with
  | nil => simp at found
  | cons y l ih =>
    obtain ⟨above, tail⟩ := List.pairwise_cons.mp ascending
    have least : lo ≤ y := bound y (by simp)
    cases i with
    | zero =>
      have : y = x := by simpa using found
      omega
    | succ i =>
      have next : ∀ z ∈ l, lo + 1 ≤ z := fun z hz => by have := above z hz; omega
      have := ih tail next (by simpa using found)
      omega

/-- An element stands as far from the front as from a lower bound exactly if the list skips nothing
between them. -/
theorem getElem?_sub_eq_some_iff (ascending : l.Pairwise (· < ·)) {lo x : Nat}
    (bound : ∀ y ∈ l, lo ≤ y) (mem : x ∈ l) :
    l[x - lo]? = some x ↔ ∀ c, lo ≤ c → c ≤ x → c ∈ l := by
  induction l generalizing lo with
  | nil => simp at mem
  | cons y l ih =>
    obtain ⟨above, tail⟩ := List.pairwise_cons.mp ascending
    have least : lo ≤ y := bound y (by simp)
    rcases Nat.eq_or_lt_of_le least with rfl | skipped
    · rcases List.mem_cons.mp mem with rfl | mem
      · simp only [Nat.sub_self, List.getElem?_cons_zero, true_iff]
        intro c hlo hx
        simp [Nat.le_antisymm hx hlo]
      · have less := above x mem
        have place : x - lo = x - (lo + 1) + 1 := by omega
        rw [place, List.getElem?_cons_succ, ih tail above mem]
        constructor
        · intro all c hlo hx
          rcases Nat.eq_or_lt_of_le hlo with rfl | hlo
          · simp
          · exact List.mem_cons_of_mem _ (all c hlo hx)
        · intro all c hlo hx
          exact List.mem_of_ne_of_mem (by omega) (all c (by omega) hx)
    · have above' : ∀ z ∈ y :: l, lo + 1 ≤ z := by
        intro z hz
        rcases List.mem_cons.mp hz with rfl | hz
        · exact skipped
        · have := above z hz; omega
      constructor
      · intro found
        have := add_le_of_getElem? ascending above' found
        have := bound x mem
        omega
      · intro all
        have := above' lo (all lo (Nat.le_refl lo) (bound x mem))
        omega

end Places

end Lexicon.Ascending
