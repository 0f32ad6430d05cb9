import Mathlib.Data.List.TakeDrop
import Lexicon.Proofs.Kind.Enumeration

/-!
# Walking through a set of kinds

After any steps on a fresh enumeration the kinds taken or skipped at the front, the kinds left and
the kinds taken at the back make up the whole set, in table order and each once.

## Main statements

* `Walk.Stands.step`: each step leaves the three parts in place.
* `Walk.run_stands`: so does any row of steps on a set, and an answer fails to come exactly if the
  part in the middle is too short for it.
-/

namespace Lexicon

namespace Enumeration

/-- The kinds that `n` steps at the front take, one by one. -/
def ahead : Nat → Enumeration → List Kind
  | 0, _ => []
  | n + 1, e =>
    match e.next with
    | (none, _) => []
    | (some kind, left) => kind :: left.ahead n

theorem ahead_eq_take (e : Enumeration) (n : Nat) : e.ahead n = e.remaining.take n := by
  induction n generalizing e with
  | zero => rfl
  | succ n ih =>
    rw [ahead]
    split <;> rename_i taken
    · have found := e.next_fst
      rw [taken] at found
      simp [List.head?_eq_none_iff.mp found.symm]
    · rw [ih, remaining_of_next taken, List.take_succ_cons]

end Enumeration

/-! ## Steps in a row -/

/-- An enumeration of a set on which steps were made. -/
structure Walk where
  set : KindSet
  /-- What was taken or skipped at the front, in order. -/
  front : List Kind
  /-- What was taken at the back, in order. -/
  back : List Kind
  left : Enumeration

namespace Walk

/-- A step on an enumeration. -/
inductive Step where
  | next
  | back
  | nth (n : Nat)

/-- The number of kinds that a step has to find for an answer. -/
def Step.demand : Step → Nat
  | next => 1
  | back => 1
  | nth n => n + 1

/-- A walk on which no step was made. -/
def start (set : KindSet) : Walk := ⟨set, [], [], .start set⟩

/-- The answer that the next step would get. -/
def answer (walk : Walk) : Step → Option Kind
  | .next => walk.left.next.1
  | .back => walk.left.back.1
  | .nth n => (walk.left.nth n).1

def step (walk : Walk) : Step → Walk
  | .next => { walk with
      front := walk.front ++ (walk.answer .next).toList
      left := walk.left.next.2 }
  | .back => { walk with
      back := walk.back ++ (walk.answer .back).toList
      left := walk.left.back.2 }
  | .nth n => { walk with
      front := walk.front ++ walk.left.ahead n ++ (walk.answer (.nth n)).toList
      left := (walk.left.nth n).2 }

def run (walk : Walk) (steps : List Step) : Walk := steps.foldl step walk

/-- Asks for the enumeration again. -/
def restart (walk : Walk) : Walk := start walk.set

/-- The first `i` of the kinds are gone at the front, those from the `j`-th on at the back. -/
structure Stands (walk : Walk) (kinds : List Kind) (i j : Nat) : Prop where
  ordered : i ≤ j
  inside : j ≤ kinds.length
  front : walk.front = kinds.take i
  back : walk.back = (kinds.drop j).reverse
  rest : walk.left.rest.1 = (kinds.take j).drop i

variable {walk : Walk} {kinds : List Kind} {i j : Nat}

namespace Stands

theorem remaining (stands : walk.Stands kinds i j) :
    walk.left.remaining = (kinds.take j).drop i := by
  rw [← Enumeration.rest_fst, stands.rest]

theorem length_remaining (stands : walk.Stands kinds i j) :
    walk.left.remaining.length = j - i := by
  have := stands.inside
  simp [stands.remaining]
  omega

/-- Front steps move the front end by as many kinds as there are, at most up to the back end. -/
theorem forward (stands : walk.Stands kinds i j) (n : Nat) {after : Walk}
    (front : after.front = walk.front ++ walk.left.remaining.take n)
    (back : after.back = walk.back)
    (left : after.left.remaining = walk.left.remaining.drop n) :
    after.Stands kinds (min (i + n) j) j where
  ordered := Nat.min_le_right _ _
  inside := stands.inside
  front := by
    have prior : kinds.take i = (kinds.take j).take i := by
      rw [List.take_take, Nat.min_eq_left stands.ordered]
    rw [front, stands.front, stands.remaining, prior, ← List.take_add, List.take_take]
  back := back.trans stands.back
  rest := by
    rw [Enumeration.rest_fst, left, stands.remaining, List.drop_drop]
    rcases Nat.le_total (i + n) j with within | beyond
    · rw [Nat.min_eq_left within]
    · have short : (kinds.take j).length ≤ j := List.length_take_le _ _
      rw [Nat.min_eq_right beyond, List.drop_eq_nil_of_le (short.trans beyond),
        List.drop_eq_nil_of_le short]

/-- A step at the back moves the back end by one kind, if there is one. -/
theorem backward (stands : walk.Stands kinds i j) :
    (walk.step .back).Stands kinds i (max i (j - 1)) := by
  have remaining := stands.remaining
  obtain ⟨ordered, inside, front, back, -⟩ := stands
  rcases Nat.eq_or_lt_of_le ordered with rfl | room
  · have none_left : walk.left.remaining = [] := by
      rw [remaining]
      exact List.drop_eq_nil_of_le (List.length_take_le _ _)
    rw [Nat.max_eq_left (Nat.sub_le i 1)]
    exact {
      ordered, inside, front
      back := by simp [step, answer, none_left, back]
      rest := by simp [step, none_left, ← remaining] }
  · obtain ⟨last, rfl⟩ : ∃ last, j = last + 1 := ⟨j - 1, by omega⟩
    have left : walk.left.remaining = (kinds.take last).drop i ++ [kinds[last]] := by
      rw [remaining, List.take_succ_eq_append_getElem inside,
        List.drop_append_of_le_length (by rw [List.length_take]; omega)]
    rw [Nat.add_sub_cancel, Nat.max_eq_right (by omega)]
    exact {
      ordered := by omega
      inside := by omega
      front
      back := by
        rw [List.drop_eq_getElem_cons inside, List.reverse_cons]
        simp [step, answer, left, back]
      rest := by simp [step, left] }

/-- Each step leaves the three parts in place. -/
theorem step (stands : walk.Stands kinds i j) (s : Step) :
    ∃ i j, (walk.step s).Stands kinds i j := by
  cases s with
  | next =>
    refine ⟨_, _, stands.forward 1 ?_ rfl (by simp [Walk.step])⟩
    cases eq : walk.left.remaining <;> simp [Walk.step, answer, eq]
  | back => exact ⟨_, _, stands.backward⟩
  | nth n =>
    refine ⟨_, _, stands.forward (n + 1) ?_ rfl (by simp [Walk.step])⟩
    simp [Walk.step, answer, Enumeration.ahead_eq_take, List.take_add_one]

/-- So does any row of steps. -/
theorem run (stands : walk.Stands kinds i j) (steps : List Step) :
    ∃ i j, (walk.run steps).Stands kinds i j := by
  induction steps generalizing walk i j with
  | nil => exact ⟨i, j, stands⟩
  | cons s steps ih =>
    obtain ⟨i, j, stands⟩ := stands.step s
    exact ih stands

theorem answer_eq_none_iff (stands : walk.Stands kinds i j) (s : Step) :
    walk.answer s = none ↔ j - i < s.demand := by
  rw [← stands.length_remaining]
  cases s with
  | next => simp [answer, Step.demand]
  | back => simp [answer, Step.demand]
  | nth n =>
    rw [answer, Enumeration.nth_fst, List.getElem?_eq_none_iff, Step.demand, Nat.lt_succ_iff]

end Stands

theorem stands_start (set : KindSet) :
    (start set).Stands (Kind.all.filter set.test) 0 (Kind.all.filter set.test).length where
  ordered := Nat.zero_le _
  inside := Nat.le_refl _
  front := rfl
  back := by simp [start]
  rest := by simp [start, Enumeration.remaining_start, KindSet.kinds_eq_filter]

theorem set_run (walk : Walk) (steps : List Step) : (walk.run steps).set = walk.set := by
  induction steps generalizing walk with
  | nil => rfl
  | cons s steps ih => cases s <;> exact ih _

/-- What is used up stays so. -/
theorem remaining_run_eq_nil (usedUp : walk.left.remaining = []) (steps : List Step) :
    (walk.run steps).left.remaining = [] := by
  induction steps generalizing walk with
  | nil => exact usedUp
  | cons s steps ih => exact ih (by cases s <;> simp [step, usedUp])

theorem answer_eq_none (usedUp : walk.left.remaining = []) (s : Step) : walk.answer s = none := by
  cases s <;> simp [answer, usedUp]

/-- After any steps on a fresh enumeration there are two places in the set: the kinds before the
first were taken or skipped at the front, those from the second on were taken at the back, and those
between are left. A step answers nothing exactly if it finds too few of these. A skipping step then
uses them up, and what is used up answers nothing any more, while asking again starts over. -/
theorem run_stands (set : KindSet) (steps : List Step) :
    let kinds := Kind.all.filter set.test
    let walk := (start set).run steps
    (∃ i j, walk.Stands kinds i j ∧ ∀ s, walk.answer s = none ↔ j - i < s.demand) ∧
    (∀ n, walk.answer (.nth n) = none → (walk.step (.nth n)).left.rest.1 = []) ∧
    (walk.left.rest.1 = [] → ∀ more s, (walk.run more).answer s = none) ∧
    walk.restart.left.rest.1 = kinds := by
  intro kinds walk
  obtain ⟨i, j, stands⟩ := (stands_start set).run steps
  refine ⟨⟨i, j, stands, stands.answer_eq_none_iff⟩, fun n unanswered => ?_,
    fun usedUp more s => ?_, ?_⟩
  · have short : walk.left.remaining.length < n + 1 := by
      rw [stands.length_remaining]
      exact (stands.answer_eq_none_iff (.nth n)).mp unanswered
    simpa [step] using Nat.le_of_lt short
  · rw [Enumeration.rest_fst] at usedUp
    exact answer_eq_none (remaining_run_eq_nil usedUp more) s
  · have same : walk.set = set := set_run _ _
    rw [restart, same, (stands_start set).rest]
    simp [kinds]

/-- Of the 21 keywords of directives a step takes one at the back, so 20 cannot be skipped for a
further one. -/
theorem run_stands_directives :
    let walk := (start .preprocessor).run [.back]
    walk.back = [.loadKeyword] ∧ walk.answer (.nth 20) = none ∧
      (walk.step (.nth 20)).left.rest.1 = [] ∧
      ((walk.step (.nth 20)).run [.next, .nth 3]).answer .back = none ∧
      walk.restart.left.rest.1 = Kind.all.filter Kind.isDirectiveKeyword := by
  intro walk
  have unanswered : walk.answer (.nth 20) = none := rfl
  obtain ⟨-, exhausted, -, again⟩ := run_stands .preprocessor [.back]
  obtain ⟨-, -, later, -⟩ := run_stands .preprocessor [.back, .nth 20]
  have usedUp := exhausted 20 unanswered
  exact ⟨rfl, unanswered, usedUp, later usedUp [.next, .nth 3] .back, again⟩

end Walk

end Lexicon
