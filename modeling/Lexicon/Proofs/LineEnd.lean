import Mathlib.Data.List.DropRight
import Lexicon.LineEnd

/-!
# Line ends at the end of a text

A text is its stripped part and some line ends behind it. What is printed for a text is therefore
fixed by its stripped part.
-/

namespace Lexicon.LineEnd

variable {text : List Char}

/-- The text ends in a character that is no line end. -/
def IsSolid (text : List Char) : Prop := ∃ before last, text = before ++ [last] ∧ last ≠ '\n'

theorem isSolid_of_not_mem (nonempty : text ≠ []) (plain : '\n' ∉ text) : IsSolid text := by
  obtain ⟨before, last, rfl⟩ := (List.eq_nil_or_concat text).resolve_left nonempty
  exact ⟨before, last, List.concat_eq_append, fun same => plain (by simp [same])⟩

theorem IsSolid.append_left (solid : IsSolid text) (front : List Char) :
    IsSolid (front ++ text) := by
  obtain ⟨before, last, rfl, visible⟩ := solid
  exact ⟨front ++ before, last, by simp, visible⟩

/-! ## Stripping -/

theorem strip_eq_rdropWhile (text : List Char) : strip text = text.rdropWhile (· = '\n') := rfl

theorem strip_append_replicate (text : List Char) (count : Nat) :
    strip (text ++ List.replicate count '\n') = strip text := by
  induction count with
  | zero => simp
  | succ count ih =>
    rw [List.replicate_succ', ← List.append_assoc, strip_eq_rdropWhile,
      List.rdropWhile_concat_pos _ _ _ (by simp)]
    exact ih

theorem strip_prefix_self (text : List Char) : strip text <+: text := List.rdropWhile_prefix _ _

@[simp] theorem strip_strip (text : List Char) : strip (strip text) = strip text :=
  List.rdropWhile_idempotent _ _

/-- What is added behind a text changes the line ends at its end at most. -/
theorem strip_prefix_strip_append (text more : List Char) :
    strip text <+: strip (text ++ more) := by
  induction more using List.reverseRecOn with
  | nil => simp
  | append_singleton more c ih =>
    rw [← List.append_assoc, strip_eq_rdropWhile (text ++ more ++ [c]), List.rdropWhile_concat,
      ← strip_eq_rdropWhile]
    split
    · exact ih
    · rw [List.append_assoc]
      exact (strip_prefix_self text).trans (List.prefix_append ..)

theorem IsSolid.strip_eq (solid : IsSolid text) : strip text = text := by
  obtain ⟨before, last, rfl, visible⟩ := solid
  exact List.rdropWhile_concat_neg _ _ _ (by simpa using visible)

theorem exists_eq_strip_append (text : List Char) :
    ∃ count, text = strip text ++ List.replicate count '\n' := by
  have ends : ∀ c ∈ text.rtakeWhile (· = '\n'), c = '\n' := fun c mem => by
    simpa using List.mem_rtakeWhile_imp mem
  refine ⟨(text.rtakeWhile (· = '\n')).length, ?_⟩
  rw [← List.eq_replicate_of_mem ends, strip_eq_rdropWhile]
  exact List.rdropWhile_append_rtakeWhile.symm

theorem not_suffix_strip (text : List Char) : ¬['\n'] <:+ strip text := by
  rintro ⟨front, eq⟩
  have nonempty : text.rdropWhile (· = '\n') ≠ [] := by
    rw [← strip_eq_rdropWhile, ← eq]
    simp
  have last := List.rdropWhile_last_not _ _ nonempty
  simp only [← strip_eq_rdropWhile, ← eq] at last
  simp at last

/-! ## Printing -/

/-- The printed text has one line end in place of those at the end of the text. -/
def EndsOnce (text printed : String) : Prop := ∃ body count,
  text.toList = body ++ List.replicate count '\n' ∧ ¬['\n'] <:+ body ∧
    printed.toList = body ++ ['\n']

theorem single_ne_empty (text : String) : single text ≠ "" := by simp [single]

theorem single_single (text : String) : single (single text) = single text := by
  have ends : strip (strip text.toList ++ ['\n']) = strip text.toList := by
    simpa using strip_append_replicate (strip text.toList) 1
  simp [single, ends]

theorem printed_single (text : String) : printed (single text) = single text := by
  simp [printed, single_ne_empty, single_single]

theorem endsOnce_printed {text : String} (nonempty : text ≠ "") : EndsOnce text (printed text) := by
  obtain ⟨count, parts⟩ := exists_eq_strip_append text.toList
  refine ⟨strip text.toList, count, parts, not_suffix_strip _, ?_⟩
  simp [printed, single, nonempty]

end Lexicon.LineEnd
