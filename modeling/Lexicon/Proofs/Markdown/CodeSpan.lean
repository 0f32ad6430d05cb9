import Mathlib.Data.List.Basic
import Lexicon.Markdown.CodeSpan

/-!
# Fences of code spans

A reader of Markdown takes the run of backticks in front of a code span as its fence, and ends the
span at the next run that is exactly as long. A spelling therefore stays inside its fence exactly if
none of its own runs is as long as the fence. A spelling with backticks is always given a fence of
two, so one in which two backticks stand together closes it.

## Main statements

* `Markdown.seek_eq_some_iff`: the reader ends a span at the first run as long as the fence.
* `Markdown.fences_codeSpan_iff`: which spellings stay inside their fence.
* `Markdown.not_fences_codeSpan`: not all of them do.
-/

namespace Lexicon.Markdown

/-! ## Runs of backticks -/

def ticks (count : Nat) : List Char := List.replicate count '`'

/-- A run of backticks that is continued on neither side, with what stands before and after it. -/
structure IsRun (text before : List Char) (count : Nat) (after : List Char) : Prop where
  eq : text = before ++ ticks count ++ after
  pos : 0 < count
  left : before.getLast? ≠ some '`'
  right : after.head? ≠ some '`'

variable {text before after rest inner : List Char} {count length : Nat} {c : Char}

theorem eq_of_mem_ticks (mem : c ∈ ticks count) : c = '`' := List.eq_of_mem_replicate mem

theorem ticks_ne_nil (pos : 0 < count) : ticks count ≠ [] := by
  simp [ticks, Nat.ne_of_gt pos]

theorem head?_ticks_append (pos : 0 < count) (rest : List Char) :
    (ticks count ++ rest).head? = some '`' := by
  cases count with
  | zero => contradiction
  | succ count => rfl

theorem takeWhile_ticks_append (apart : rest.head? ≠ some '`') :
    (ticks count ++ rest).takeWhile (· = '`') = ticks count := by
  rw [List.takeWhile_append_of_pos fun c mem => by simpa using eq_of_mem_ticks mem]
  cases rest with
  | nil => simp
  | cons c rest => simp [List.takeWhile_cons_of_neg, show c ≠ '`' by simpa using apart]

theorem dropWhile_ticks_append (apart : rest.head? ≠ some '`') :
    (ticks count ++ rest).dropWhile (· = '`') = rest := by
  rw [List.dropWhile_append_of_pos fun c mem => by simpa using eq_of_mem_ticks mem]
  cases rest with
  | nil => simp
  | cons c rest => simp [List.dropWhile_cons_of_neg, show c ≠ '`' by simpa using apart]

theorem ticks_append_inj {a b : List Char} (ha : a.head? ≠ some '`') (hb : b.head? ≠ some '`')
    (same : ticks count ++ a = ticks length ++ b) : count = length ∧ a = b := by
  have fronts := congrArg (List.takeWhile (· = '`')) same
  have rests := congrArg (List.dropWhile (· = '`')) same
  rw [takeWhile_ticks_append ha, takeWhile_ticks_append hb] at fronts
  rw [dropWhile_ticks_append ha, dropWhile_ticks_append hb] at rests
  exact ⟨by simpa [ticks] using congrArg List.length fronts, rests⟩

/-- What stands before a run does not end in a backtick, so it is no part of another run. -/
theorem eq_nil_of_ticks_eq_append (left : before.getLast? ≠ some '`')
    (split : ticks length = before ++ rest) : before = [] := by
  by_contra nonempty
  have mem : before.getLast nonempty ∈ ticks length := by
    rw [split]
    exact List.mem_append_left _ (List.getLast_mem nonempty)
  apply left
  rw [List.getLast?_eq_some_getLast nonempty, eq_of_mem_ticks mem]

theorem IsRun.mem (run : IsRun text before count after) : '`' ∈ text := by
  obtain ⟨rfl, pos, -, -⟩ := run
  have first := List.mem_of_mem_head? (head?_ticks_append pos after)
  simp_all

@[simp] theorem not_isRun_nil : ¬IsRun [] before count after := fun run => by
  simpa using run.mem

theorem IsRun.reverse (run : IsRun text before count after) :
    IsRun text.reverse after.reverse count before.reverse := by
  obtain ⟨rfl, pos, left, right⟩ := run
  exact ⟨by simp [ticks], pos, by simpa using right, by simpa using left⟩

theorem isRun_reverse : IsRun text.reverse before count after ↔
    IsRun text after.reverse count before.reverse :=
  ⟨fun run => by simpa using run.reverse, fun run => by simpa using run.reverse⟩

/-- What does not start with a backtick does not start with a run. -/
theorem IsRun.ne_nil (run : IsRun text before count after) (apart : text.head? ≠ some '`') :
    before ≠ [] := by
  rintro rfl
  obtain ⟨rfl, pos, -, -⟩ := run
  exact apart (head?_ticks_append pos after)

/-- A run is the one at the front, or one of what stands behind that. -/
theorem isRun_ticks_append (apart : rest.head? ≠ some '`') :
    IsRun (ticks length ++ rest) before count after ↔
      (before = [] ∧ count = length ∧ 0 < length ∧ after = rest) ∨
      ∃ front, before = ticks length ++ front ∧ IsRun rest front count after := by
  constructor
  · rintro ⟨parts, pos, left, right⟩
    rw [List.append_assoc] at parts
    obtain ⟨front, rfl, behind⟩ | ⟨front, fence, tail⟩ := List.append_eq_append_iff.mp parts
    · have nonempty : front ≠ [] := by
        rintro rfl
        rw [behind] at apart
        exact apart (head?_ticks_append pos after)
      rw [List.getLast?_append_of_ne_nil _ nonempty] at left
      exact .inr ⟨front, rfl, by simpa using behind, pos, left, right⟩
    · obtain rfl := eq_nil_of_ticks_eq_append left fence
      obtain rfl : ticks length = front := fence
      obtain ⟨rfl, rfl⟩ := ticks_append_inj right apart tail
      exact .inl ⟨rfl, rfl, pos, rfl⟩
  · rintro (⟨rfl, rfl, pos, rfl⟩ | ⟨front, rfl, run⟩)
    · exact ⟨rfl, pos, by simp, apart⟩
    · have nonempty := run.ne_nil apart
      obtain ⟨rfl, pos, left, right⟩ := run
      refine ⟨by simp, pos, ?_, right⟩
      rwa [List.getLast?_append_of_ne_nil _ nonempty]

theorem isRun_ticks : IsRun (ticks length) before count after ↔
    before = [] ∧ count = length ∧ 0 < length ∧ after = [] := by
  rw [← List.append_nil (ticks length), isRun_ticks_append (by simp)]
  simp

theorem isRun_cons (visible : c ≠ '`') : IsRun (c :: text) before count after ↔
    ∃ front, before = c :: front ∧ IsRun text front count after := by
  constructor
  · intro run
    obtain ⟨d, front, rfl⟩ := List.exists_cons_of_ne_nil (run.ne_nil (by simpa using visible))
    obtain ⟨parts, pos, left, right⟩ := run
    obtain ⟨rfl, rfl⟩ := List.cons.inj parts
    refine ⟨front, rfl, rfl, pos, ?_, right⟩
    cases front with
    | nil => simp
    | cons d front => simpa using left
  · rintro ⟨front, rfl, rfl, pos, left, right⟩
    refine ⟨rfl, pos, ?_, right⟩
    cases front with
    | nil => simpa using visible
    | cons d front => simpa using left

theorem isRun_ticks_cons (visible : c ≠ '`') :
    IsRun (ticks length ++ c :: text) before count after ↔
      (before = [] ∧ count = length ∧ 0 < length ∧ after = c :: text) ∨
      ∃ front, before = ticks length ++ c :: front ∧ IsRun text front count after := by
  rw [isRun_ticks_append (by simpa using visible)]
  refine or_congr_right ⟨?_, ?_⟩
  · rintro ⟨inside, rfl, run⟩
    obtain ⟨front, rfl, inner⟩ := (isRun_cons visible).mp run
    exact ⟨front, rfl, inner⟩
  · rintro ⟨front, rfl, run⟩
    exact ⟨c :: front, rfl, (isRun_cons visible).mpr ⟨front, rfl, run⟩⟩

/-- A run is the one at the end, or one of what stands in front of that. -/
theorem isRun_append_ticks (apart : text.getLast? ≠ some '`') :
    IsRun (text ++ ticks length) before count after ↔
      (after = [] ∧ count = length ∧ 0 < length ∧ before = text) ∨
      ∃ back, after = back ++ ticks length ∧ IsRun text before count back := by
  have turned : (text ++ ticks length).reverse = ticks length ++ text.reverse := by simp [ticks]
  rw [← List.reverse_reverse (text ++ ticks length), isRun_reverse, turned,
    isRun_ticks_append (by simpa using apart)]
  refine or_congr (by simp) ⟨?_, ?_⟩
  · rintro ⟨front, split, run⟩
    have split : after = front.reverse ++ ticks length := by
      simpa [ticks] using congrArg List.reverse split
    exact ⟨front.reverse, split, by simpa using run.reverse⟩
  · rintro ⟨back, rfl, run⟩
    exact ⟨back.reverse, by simp [ticks], run.reverse⟩

theorem isRun_concat (visible : c ≠ '`') : IsRun (text ++ [c]) before count after ↔
    ∃ back, after = back ++ [c] ∧ IsRun text before count back := by
  rw [← List.reverse_reverse (text ++ [c]), isRun_reverse, List.reverse_concat, isRun_cons visible]
  constructor
  · rintro ⟨front, split, run⟩
    have split : after = front.reverse ++ [c] := by simpa using congrArg List.reverse split
    exact ⟨front.reverse, split, by simpa using run.reverse⟩
  · rintro ⟨back, rfl, run⟩
    exact ⟨back.reverse, by simp, run.reverse⟩

/-- No run of the text has the given length. -/
def LacksRun (text : List Char) (length : Nat) : Prop :=
  ∀ before after, ¬IsRun text before length after

@[simp] theorem lacksRun_nil : LacksRun [] length := fun _ _ => not_isRun_nil

theorem lacksRun_of_not_mem (plain : '`' ∉ text) : LacksRun text length :=
  fun _ _ run => plain run.mem

theorem lacksRun_ticks_cons (pos : 0 < length) (visible : c ≠ '`') :
    LacksRun (ticks count ++ c :: text) length ↔ count ≠ length ∧ LacksRun text length := by
  simp only [LacksRun, isRun_ticks_cons visible]
  constructor
  · intro lacks
    refine ⟨?_, fun before after run => lacks _ after (.inr ⟨before, rfl, run⟩)⟩
    rintro rfl
    exact lacks [] (c :: text) (.inl ⟨rfl, rfl, pos, rfl⟩)
  · rintro ⟨different, lacks⟩ before after (⟨-, same, -⟩ | ⟨front, -, run⟩)
    · exact different same.symm
    · exact lacks front after run

/-- The first run of a length. -/
structure IsFirstRun (text before : List Char) (length : Nat) (after : List Char) : Prop where
  run : IsRun text before length after
  lacks : LacksRun before length

theorem isFirstRun_ticks (pos : 0 < length) :
    IsFirstRun (ticks count) before length after ↔ count = length ∧ before = [] ∧ after = [] := by
  constructor
  · rintro ⟨run, -⟩
    obtain ⟨rfl, rfl, -, rfl⟩ := isRun_ticks.mp run
    exact ⟨rfl, rfl, rfl⟩
  · rintro ⟨rfl, rfl, rfl⟩
    exact ⟨isRun_ticks.mpr ⟨rfl, rfl, pos, rfl⟩, lacksRun_nil⟩

/-- The run at the front is the first one of its length, and of no other length. -/
theorem isFirstRun_ticks_cons (pos : 0 < length) (visible : c ≠ '`') :
    IsFirstRun (ticks count ++ c :: text) before length after ↔
      if count = length then before = [] ∧ after = c :: text
      else ∃ front, before = ticks count ++ c :: front ∧ IsFirstRun text front length after := by
  split
  case isTrue same =>
    constructor
    · rintro ⟨run, lacks⟩
      rcases (isRun_ticks_cons visible).mp run with ⟨rfl, -, -, rfl⟩ | ⟨front, rfl, -⟩
      · exact ⟨rfl, rfl⟩
      · exact absurd same ((lacksRun_ticks_cons pos visible).mp lacks).1
    · rintro ⟨rfl, rfl⟩
      exact ⟨(isRun_ticks_cons visible).mpr (.inl ⟨rfl, same.symm, same ▸ pos, rfl⟩), lacksRun_nil⟩
  case isFalse different =>
    constructor
    · rintro ⟨run, lacks⟩
      rcases (isRun_ticks_cons visible).mp run with ⟨-, same, -⟩ | ⟨front, rfl, inner⟩
      · exact absurd same.symm different
      · exact ⟨front, rfl, inner, ((lacksRun_ticks_cons pos visible).mp lacks).2⟩
    · rintro ⟨front, rfl, inner, lacks⟩
      exact ⟨(isRun_ticks_cons visible).mpr (.inr ⟨front, rfl, inner⟩),
        (lacksRun_ticks_cons pos visible).mpr ⟨different, lacks⟩⟩

/-- One character that is no backtick on either side changes no run. -/
theorem lacksRun_pad (visible : c ≠ '`') :
    LacksRun (c :: (text ++ [c])) length ↔ LacksRun text length := by
  simp only [LacksRun, isRun_cons visible, isRun_concat visible]
  constructor
  · intro lacks before after run
    exact lacks (c :: before) (after ++ [c]) ⟨before, rfl, after, rfl, run⟩
  · rintro lacks before after ⟨front, -, back, -, run⟩
    exact lacks front back run

/-! ## Reading a code span -/

/-- What stands before the first run of a length, and what stands after it, when some backticks have
just been read. -/
def seek (length count : Nat) : List Char → Option (List Char × List Char)
  | [] => if count = length then some ([], []) else none
  | c :: rest =>
    if c = '`' then seek length (count + 1) rest
    else if count = length then some ([], c :: rest)
    else (seek length 0 rest).map fun (inside, behind) => (ticks count ++ c :: inside, behind)

/-- The contents of the code span with which a text starts, and what stands after it. -/
def readSpan? (text : List Char) : Option (List Char × List Char) :=
  let fence := text.takeWhile (· = '`')
  if fence = [] then none else seek fence.length 0 (text.dropWhile (· = '`'))

/-- What is found is the first run of the length asked for. -/
theorem seek_eq_some_iff (pos : 0 < length) : seek length count text = some (before, after) ↔
    IsFirstRun (ticks count ++ text) before length after := by
  induction text generalizing count before with
  | nil =>
    rw [seek, List.append_nil, isFirstRun_ticks pos]
    grind
  | cons c text ih =>
    rw [seek]
    by_cases tick : c = '`'
    · have one : ticks count ++ '`' :: text = ticks (count + 1) ++ text := by
        simp [ticks, List.replicate_succ']
      rw [if_pos tick, ih, tick, one]
    · -- the backticks read so far are a run now, and its length can be compared
      rw [if_neg tick, isFirstRun_ticks_cons pos tick]
      split
      · grind
      · rw [Option.map_eq_some_iff]
        constructor
        · rintro ⟨⟨front, behind⟩, found, split⟩
          obtain ⟨rfl, rfl⟩ := Prod.mk.inj split
          exact ⟨front, rfl, ih.mp found⟩
        · rintro ⟨front, rfl, run⟩
          exact ⟨(front, after), ih.mpr run, rfl⟩

/-! ## Fences -/

variable {spelling : List Char}

/-- The text is a spelling between two equal runs of backticks, with nothing or a blank on either
side of the spelling, and no other run of the text is as long as these two. -/
def Fences (text spelling : List Char) : Prop :=
  ∃ count inner, (inner = spelling ∨ inner = ' ' :: (spelling ++ [' '])) ∧
    IsRun text [] count (inner ++ ticks count) ∧ IsRun text (ticks count ++ inner) count [] ∧
    ∀ before after, IsRun text before count after → before = [] ∨ after = []

/-- A text that can stand between runs of backticks and leaves them as they are. -/
structure Encloses (inner : List Char) : Prop where
  nonempty : inner ≠ []
  head : inner.head? ≠ some '`'
  last : inner.getLast? ≠ some '`'

/-- The text between two equal runs of backticks. -/
def fenced (length : Nat) (inner : List Char) : List Char :=
  ticks length ++ (inner ++ ticks length)

theorem Encloses.apart (encloses : Encloses inner) : (inner ++ ticks length).head? ≠ some '`' := by
  rw [List.head?_append_of_ne_nil _ encloses.nonempty]
  exact encloses.head

/-- The runs of a fenced text are its fence on either side and the runs between them. -/
theorem Encloses.isRun_fenced (encloses : Encloses inner) (pos : 0 < length) :
    IsRun (fenced length inner) before count after ↔
      (before = [] ∧ count = length ∧ after = inner ++ ticks length) ∨
      (before = ticks length ++ inner ∧ count = length ∧ after = []) ∨
      ∃ front back, before = ticks length ++ front ∧ after = back ++ ticks length ∧
        IsRun inner front count back := by
  rw [fenced, isRun_ticks_append encloses.apart]
  simp only [isRun_append_ticks encloses.last]
  constructor
  · rintro (⟨rfl, rfl, -, rfl⟩ | ⟨front, rfl, ⟨rfl, rfl, -, rfl⟩ | ⟨back, rfl, run⟩⟩)
    · exact .inl ⟨rfl, rfl, rfl⟩
    · exact .inr (.inl ⟨rfl, rfl, rfl⟩)
    · exact .inr (.inr ⟨front, back, rfl, rfl, run⟩)
  · rintro (⟨rfl, rfl, rfl⟩ | ⟨rfl, rfl, rfl⟩ | ⟨front, back, rfl, rfl, run⟩)
    · exact .inl ⟨rfl, rfl, pos, rfl⟩
    · exact .inr ⟨inner, rfl, .inl ⟨rfl, rfl, pos, rfl⟩⟩
    · exact .inr ⟨front, rfl, .inr ⟨back, rfl, run⟩⟩

theorem Encloses.fences_iff (encloses : Encloses inner) (pos : 0 < length)
    (form : inner = spelling ∨ inner = ' ' :: (spelling ++ [' '])) :
    Fences (fenced length inner) spelling ↔ LacksRun inner length := by
  have fence : ticks length ≠ [] := ticks_ne_nil pos
  constructor
  · rintro ⟨count, other, -, opening, -, only⟩ front back run
    obtain rfl : count = length := by
      rcases (encloses.isRun_fenced pos).mp opening with
        ⟨-, same, -⟩ | ⟨-, same, -⟩ | ⟨front, back, empty, -, -⟩
      · exact same
      · exact same
      · simp [fence] at empty
    have inside := (encloses.isRun_fenced pos).mpr (.inr (.inr ⟨front, back, rfl, rfl, run⟩))
    rcases only _ _ inside with empty | empty <;> simp [fence] at empty
  · intro lacks
    refine ⟨length, inner, form, ?_, ?_, ?_⟩
    · exact (encloses.isRun_fenced pos).mpr (.inl ⟨rfl, rfl, rfl⟩)
    · exact (encloses.isRun_fenced pos).mpr (.inr (.inl ⟨rfl, rfl, rfl⟩))
    · intro before after run
      rcases (encloses.isRun_fenced pos).mp run with
        ⟨first, -, -⟩ | ⟨-, -, last⟩ | ⟨front, back, -, -, inside⟩
      · exact .inl first
      · exact .inr last
      · exact absurd inside (lacks front back)

/-- A reader takes a fenced text for one code span exactly if no run inside is as long as the
fence. -/
theorem Encloses.readSpan?_eq_some_iff (encloses : Encloses inner) (pos : 0 < length)
    {contents : List Char} : readSpan? (fenced length inner) = some (contents, []) ↔
      contents = inner ∧ LacksRun inner length := by
  rw [fenced, readSpan?, takeWhile_ticks_append encloses.apart,
    dropWhile_ticks_append encloses.apart, if_neg (ticks_ne_nil pos), ticks,
    List.length_replicate, seek_eq_some_iff pos]
  have closing : IsRun (inner ++ ticks length) contents length [] ↔ contents = inner := by
    rw [isRun_append_ticks encloses.last]
    simp [ticks_ne_nil pos, pos]
  constructor
  · rintro ⟨run, lacks⟩
    obtain rfl := closing.mp run
    exact ⟨rfl, lacks⟩
  · rintro ⟨rfl, lacks⟩
    exact ⟨closing.mpr rfl, lacks⟩

/-! ## The fence of a spelling -/

theorem encloses_pad (spelling : List Char) : Encloses (' ' :: (spelling ++ [' '])) where
  nonempty := by simp
  head := by simp
  last := by simp [List.getLast?_cons]

theorem encloses_of_not_mem (nonempty : spelling ≠ []) (plain : '`' ∉ spelling) :
    Encloses spelling where
  nonempty := nonempty
  head same := plain (List.mem_of_mem_head? same)
  last same := plain (List.mem_of_mem_getLast? same)

theorem toList_codeSpan_of_mem {spelling : String} (mem : '`' ∈ spelling.toList) :
    (codeSpan spelling).toList = fenced 2 (' ' :: (spelling.toList ++ [' '])) := by
  rw [codeSpan, if_pos mem]
  simp [fenced, ticks]

theorem toList_codeSpan_of_not_mem {spelling : String} (plain : '`' ∉ spelling.toList) :
    (codeSpan spelling).toList = fenced 1 spelling.toList := by
  rw [codeSpan, if_neg plain]
  simp [fenced, ticks]

/-- Only a run of exactly two backticks in the spelling can be as long as the fence around it. -/
theorem exists_codeSpan_eq_fenced {spelling : String} (nonempty : spelling ≠ "") :
    ∃ length inner, (codeSpan spelling).toList = fenced length inner ∧ 0 < length ∧
      (inner = spelling.toList ∨ inner = ' ' :: (spelling.toList ++ [' '])) ∧ Encloses inner ∧
      (LacksRun inner length ↔ LacksRun spelling.toList 2) := by
  by_cases mem : '`' ∈ spelling.toList
  · exact ⟨2, _, toList_codeSpan_of_mem mem, by decide, .inr rfl, encloses_pad _,
      lacksRun_pad (by decide)⟩
  · have visible : spelling.toList ≠ [] := by simpa using nonempty
    exact ⟨1, _, toList_codeSpan_of_not_mem mem, by decide, .inl rfl,
      encloses_of_not_mem visible mem,
      iff_of_true (lacksRun_of_not_mem mem) (lacksRun_of_not_mem mem)⟩

/-- A spelling stays inside its fence, and a reader takes all of the text for one code span, exactly
if the spelling has no run of exactly two backticks. -/
theorem fences_codeSpan_iff (spelling : String) (nonempty : spelling ≠ "") :
    (Fences (codeSpan spelling).toList spelling.toList ↔ LacksRun spelling.toList 2) ∧
    ((∃ contents, readSpan? (codeSpan spelling).toList = some (contents, [])) ↔
      LacksRun spelling.toList 2) := by
  obtain ⟨length, inner, split, pos, form, encloses, same⟩ := exists_codeSpan_eq_fenced nonempty
  rw [split, ← same]
  refine ⟨encloses.fences_iff pos form, ?_⟩
  simp only [encloses.readSpan?_eq_some_iff pos, exists_and_right, exists_eq, true_and]

/-- Runs of one and of three backticks do not close a fence of two. -/
theorem fences_codeSpan_runs :
    "`a```b" ≠ "" ∧ Fences (codeSpan "`a```b").toList "`a```b".toList ∧
      ∃ contents, readSpan? (codeSpan "`a```b").toList = some (contents, []) := by
  have lacks : LacksRun (ticks 1 ++ 'a' :: (ticks 3 ++ ['b'])) 2 := by
    rw [lacksRun_ticks_cons (by decide) (by decide), lacksRun_ticks_cons (by decide) (by decide)]
    exact ⟨by decide, by decide, lacksRun_nil⟩
  obtain ⟨fences, reads⟩ := fences_codeSpan_iff "`a```b" (by decide)
  exact ⟨by decide, fences.mpr lacks, reads.mpr lacks⟩

/-- Two backticks that stand together close the fence. -/
theorem not_fences_codeSpan :
    ¬∀ spelling : String, spelling ≠ "" → Fences (codeSpan spelling).toList spelling.toList := by
  intro fences
  have closed : IsRun "a``b".toList ['a'] 2 ['b'] := ⟨rfl, by decide, by decide, by decide⟩
  have inside := fences "a``b" (by decide)
  rw [toList_codeSpan_of_mem (by decide), (encloses_pad _).fences_iff (by decide) (.inr rfl),
    lacksRun_pad (by decide)] at inside
  exact inside _ _ closed

end Lexicon.Markdown
