import Lexicon.Kind.Family

/-!
# Enumerations

A set of kinds is listed in ascending order and taken apart from both ends. Each step answers from
what the earlier steps left; a step that finds too little leaves nothing. Most sets are stretches of
the kind table, all keywords are two stretches in a row, and the keywords of directives are picked
from the table as the steps come to them.
-/

namespace Lexicon

/-- The sets of kinds that can be enumerated. -/
inductive KindSet where
  | reserved | contextual | keywords | punctuation | preprocessor
  deriving DecidableEq

namespace KindSet

def all : List KindSet := [.reserved, .contextual, .keywords, .punctuation, .preprocessor]

/-- Name by which a set is asked for. -/
def name : KindSet → String
  | reserved => "reserved"
  | contextual => "contextual"
  | keywords => "keywords"
  | punctuation => "punctuation"
  | preprocessor => "preprocessor"

def ofName? (name : String) : Option KindSet :=
  all.find? fun set => set.name = name

/-- The members of a set, ascending. -/
def kinds : KindSet → List Kind
  | reserved => Category.reservedKeyword.bounds.kinds
  | contextual => Category.contextualKeyword.bounds.kinds
  | keywords => Category.reservedKeyword.bounds.kinds ++ Category.contextualKeyword.bounds.kinds
  | punctuation => Interval.punctuation.kinds
  | preprocessor => Kind.all.filter (·.isDirectiveKeyword)

end KindSet

/-! ### Stretches of the kind table -/

/-- Consecutive kinds of the table. -/
abbrev Stretch := List Kind

namespace Stretch

def next (kinds : Stretch) : Option Kind × Stretch := (kinds.head?, kinds.tail)

def back (kinds : Stretch) : Option Kind × Stretch := (kinds.getLast?, kinds.dropLast)

/-- Skips `n` kinds and takes the next; a stretch that is too short is used up. -/
def nth (n : Nat) (kinds : Stretch) : Option Kind × Stretch := (kinds[n]?, kinds.drop (n + 1))

/-- Takes the first kind that passes a test, and with it everything before. -/
def seek (keep : Kind → Bool) : Stretch → Option Kind × Stretch
  | [] => (none, [])
  | kind :: kinds => if keep kind then (some kind, kinds) else seek keep kinds

/-- Takes the last kind that passes a test, and with it everything behind. -/
def seekBack (keep : Kind → Bool) (kinds : Stretch) : Option Kind × Stretch :=
  let (found, others) := seek keep kinds.reverse
  (found, others.reverse)

/-- Skips `n` kinds that pass a test and takes the next. -/
def seekNth (keep : Kind → Bool) : Nat → Stretch → Option Kind × Stretch
  | 0, kinds => seek keep kinds
  | n + 1, kinds =>
    match seek keep kinds with
    | (none, kinds) => (none, kinds)
    | (some _, kinds) => seekNth keep n kinds

variable (keep : Kind → Bool) (kinds : Stretch)

@[simp] theorem seek_fst : (seek keep kinds).1 = (kinds.filter keep).head? := by
  induction kinds with
  | nil => rfl
  | cons kind kinds ih => by_cases passes : keep kind <;> simp [seek, passes, ih]

@[simp] theorem filter_seek : (seek keep kinds).2.filter keep = (kinds.filter keep).tail := by
  induction kinds with
  | nil => rfl
  | cons kind kinds ih => by_cases passes : keep kind <;> simp [seek, passes, ih]

end Stretch

/-! ### Enumerations -/

/-- What is left of a set of kinds. -/
inductive Enumeration where
  /-- A stretch of the table. -/
  | stretch (kinds : Stretch)
  /-- Two stretches, one after the other. -/
  | chain (first second : Stretch)
  /-- The kinds of a stretch that pass a test; the test is made when a step comes to a kind. -/
  | selection (keep : Kind → Bool) (kinds : Stretch)

namespace Enumeration

/-- A fresh enumeration of the whole set. -/
def start : KindSet → Enumeration
  | .reserved => stretch Category.reservedKeyword.bounds.kinds
  | .contextual => stretch Category.contextualKeyword.bounds.kinds
  | .keywords => chain Category.reservedKeyword.bounds.kinds Category.contextualKeyword.bounds.kinds
  | .punctuation => stretch Interval.punctuation.kinds
  | .preprocessor => selection Kind.isDirectiveKeyword Kind.all

/-- The kinds that are still to come. -/
def remaining : Enumeration → List Kind
  | stretch kinds => kinds
  | chain first second => first ++ second
  | selection keep kinds => kinds.filter keep

/-- Takes one kind from the front. -/
def next : Enumeration → Option Kind × Enumeration
  | stretch kinds => (kinds.next.1, stretch kinds.next.2)
  | chain first second =>
    match first.next with
    | (some kind, first) => (some kind, chain first second)
    | (none, first) => (second.next.1, chain first second.next.2)
  | selection keep kinds => ((kinds.seek keep).1, selection keep (kinds.seek keep).2)

/-- Takes one kind from the back. -/
def back : Enumeration → Option Kind × Enumeration
  | stretch kinds => (kinds.back.1, stretch kinds.back.2)
  | chain first second =>
    match second.back with
    | (some kind, second) => (some kind, chain first second)
    | (none, second) => (first.back.1, chain first.back.2 second)
  | selection keep kinds => ((kinds.seekBack keep).1, selection keep (kinds.seekBack keep).2)

/-- Skips `n` kinds at the front and takes the next. -/
def nth (n : Nat) : Enumeration → Option Kind × Enumeration
  | stretch kinds => ((kinds.nth n).1, stretch (kinds.nth n).2)
  | chain first second =>
    match first.nth n with
    | (some kind, first) => (some kind, chain first second)
    | (none, used) =>
      let (found, second) := second.nth (n - first.length)
      (found, chain used second)
  | selection keep kinds => ((kinds.seekNth keep n).1, selection keep (kinds.seekNth keep n).2)

@[simp] theorem next_fst (e : Enumeration) : e.next.1 = e.remaining.head? := by
  cases e with
  | stretch kinds => rfl
  | chain first second => cases first <;> rfl
  | selection keep kinds => exact Stretch.seek_fst keep kinds

@[simp] theorem remaining_next (e : Enumeration) : e.next.2.remaining = e.remaining.tail := by
  cases e with
  | stretch kinds => rfl
  | chain first second => cases first <;> rfl
  | selection keep kinds => exact Stretch.filter_seek keep kinds

theorem remaining_of_next {e left : Enumeration} {kind : Kind}
    (taken : e.next = (some kind, left)) : e.remaining = kind :: left.remaining := by
  have found := e.next_fst
  have others := e.remaining_next
  rw [taken] at found others
  obtain ⟨kinds, split⟩ := List.head?_eq_some_iff.mp found.symm
  rw [others, split, List.tail_cons]

/-- Takes everything that is left, kind by kind from the front. -/
def rest (e : Enumeration) : List Kind × Enumeration :=
  match _taken : e.next with
  | (none, left) => ([], left)
  | (some kind, left) =>
    let (kinds, left) := left.rest
    (kind :: kinds, left)
termination_by e.remaining.length
decreasing_by simp [remaining_of_next _taken]

end Enumeration

end Lexicon
