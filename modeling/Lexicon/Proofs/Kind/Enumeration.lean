import Mathlib.Data.List.TakeDrop
import Lexicon.Kind.Enumeration
import Lexicon.Proofs.Kind.Category
import Lexicon.Proofs.Kind.Interval

/-!
# What the steps on an enumeration leave

However it is built, an enumeration steps as the list of kinds that it has left: front steps take
kinds from the front of that list, back steps from its end. A fresh enumeration has the kinds of the
table left that pass the test of the set, in table order.

## Main statements

* `Enumeration.remaining_next`, `Enumeration.remaining_back`, `Enumeration.remaining_nth`: what each
  step leaves.
* `KindSet.kinds_eq_filter`: the members of a set are the kinds of the table that pass its test.
-/

namespace Lexicon

/-! ## Sets -/

namespace KindSet

/-- The test that the members of a set pass. -/
def test : KindSet → Kind → Bool
  | reserved => Kind.isReservedKeyword
  | contextual => Kind.isContextualKeyword
  | keywords => Kind.isAnyKeyword
  | punctuation => Kind.isPunctuation
  | preprocessor => Kind.isDirectiveKeyword

theorem mem_kinds {set : KindSet} {kind : Kind} : kind ∈ set.kinds ↔ set.test kind := by
  cases set <;>
    simp [kinds, test, Kind.isReservedKeyword, Kind.isContextualKeyword, Kind.isAnyKeyword,
      Kind.isPunctuation]

theorem kinds_ne_nil (set : KindSet) : set.kinds ≠ [] := by
  have inhabited : ∃ kind, set.test kind := by
    cases set with
    | reserved => exact ⟨.boolKeyword, by decide⟩
    | contextual => exact ⟨.yieldKeyword, by decide⟩
    | keywords => exact ⟨.boolKeyword, by decide⟩
    | punctuation => exact ⟨.tildeToken, by decide⟩
    | preprocessor => exact ⟨.elifKeyword, by decide⟩
  obtain ⟨kind, passes⟩ := inhabited
  exact List.ne_nil_of_mem (mem_kinds.mpr passes)

theorem pairwise_kinds (set : KindSet) : set.kinds.Pairwise (· < ·) := by
  cases set with
  | reserved => exact Interval.pairwise_kinds _
  | contextual => exact Interval.pairwise_kinds _
  | keywords =>
    refine List.pairwise_append.mpr
      ⟨Interval.pairwise_kinds _, Interval.pairwise_kinds _, fun a ha b hb => ?_⟩
    have before :
        Category.reservedKeyword.bounds.last < Category.contextualKeyword.bounds.first := by
      decide
    have upTo := (Interval.mem_kinds.mp ha).2
    have start := (Interval.mem_kinds.mp hb).1
    grind
  | punctuation => exact Interval.pairwise_kinds _
  | preprocessor => exact Kind.pairwise_all.filter Kind.isDirectiveKeyword

theorem kinds_eq_filter (set : KindSet) : set.kinds = Kind.all.filter set.test :=
  Kind.eq_of_pairwise_of_mem_iff set.pairwise_kinds (Kind.pairwise_all.filter _) fun kind => by
    simp [mem_kinds]

end KindSet

/-! ## Steps -/

namespace Stretch

variable (keep : Kind → Bool) (kinds : Stretch) (n : Nat)

theorem seekBack_fst : (seekBack keep kinds).1 = (kinds.filter keep).getLast? := by
  simp [seekBack, List.filter_reverse]

theorem filter_seekBack : (seekBack keep kinds).2.filter keep = (kinds.filter keep).dropLast := by
  simp [seekBack, List.filter_reverse]

/-- Passing kinds one by one is passing them at once. -/
theorem seekNth_eq : (seekNth keep n kinds).1 = (kinds.filter keep)[n]? ∧
    (seekNth keep n kinds).2.filter keep = (kinds.filter keep).drop (n + 1) := by
  induction n generalizing kinds with
  | zero => simp [seekNth, List.head?_eq_getElem?]
  | succ n ih =>
    have found := seek_fst keep kinds
    have others := filter_seek keep kinds
    rw [seekNth]
    split <;> rename_i eq <;> rw [eq] at found others
    · simp [List.head?_eq_none_iff.mp found.symm] at others ⊢
      exact others
    · obtain ⟨after, split⟩ := List.head?_eq_some_iff.mp found.symm
      simp [ih, others, split]

end Stretch

namespace Enumeration

variable (e : Enumeration) (n : Nat)

@[simp] theorem back_fst : e.back.1 = e.remaining.getLast? := by
  cases e with
  | stretch kinds => rfl
  | chain first second =>
    rcases List.eq_nil_or_concat second with rfl | ⟨others, last, rfl⟩ <;>
      simp [back, Stretch.back, remaining]
  | selection keep kinds => exact Stretch.seekBack_fst keep kinds

@[simp] theorem remaining_back : e.back.2.remaining = e.remaining.dropLast := by
  cases e with
  | stretch kinds => rfl
  | chain first second =>
    rcases List.eq_nil_or_concat second with rfl | ⟨others, last, rfl⟩ <;>
      simp [back, Stretch.back, remaining]
  | selection keep kinds => exact Stretch.filter_seekBack keep kinds

/-- A chain that skips past the end of its first stretch goes on in the second. -/
theorem nth_chain (first second : Stretch) :
    ((chain first second).nth n).1 = (first ++ second)[n]? ∧
      ((chain first second).nth n).2.remaining = (first ++ second).drop (n + 1) := by
  rcases Nat.lt_or_ge n first.length with inside | beyond
  · have found : first[n]? = some first[n] := List.getElem?_eq_getElem inside
    simp [nth, Stretch.nth, remaining, found, List.getElem?_append_left inside,
      List.drop_append_of_le_length (Nat.succ_le_of_lt inside)]
  · have absent : first[n]? = none := List.getElem?_eq_none beyond
    have used : first.drop (n + 1) = [] := List.drop_eq_nil_of_le (by omega)
    have shift : n + 1 - first.length = n - first.length + 1 := by omega
    simp [nth, Stretch.nth, remaining, absent, List.getElem?_append_right beyond, List.drop_append,
      used, shift]

@[simp] theorem nth_fst : (e.nth n).1 = e.remaining[n]? := by
  cases e with
  | stretch kinds => rfl
  | chain first second => exact (nth_chain n first second).1
  | selection keep kinds => exact (Stretch.seekNth_eq keep kinds n).1

@[simp] theorem remaining_nth : (e.nth n).2.remaining = e.remaining.drop (n + 1) := by
  cases e with
  | stretch kinds => rfl
  | chain first second => exact (nth_chain n first second).2
  | selection keep kinds => exact (Stretch.seekNth_eq keep kinds n).2

@[simp] theorem rest_fst : e.rest.1 = e.remaining := by
  fun_induction rest e with
  | case1 e left taken =>
    have found := e.next_fst
    rw [taken] at found
    exact (List.head?_eq_none_iff.mp found.symm).symm
  | case2 e kind left taken kinds used eq ih =>
    rw [remaining_of_next taken, ← ih, eq]

theorem remaining_start (set : KindSet) : (start set).remaining = set.kinds := by
  cases set <;> rfl

end Enumeration

end Lexicon
