import Lexicon.Command.Invocation
import Lexicon.Proofs.Audit.Vocabulary
import Lexicon.Proofs.Failure
import Lexicon.Proofs.Json.RoundTrip
import Lexicon.Proofs.Kind.Enumeration
import Lexicon.Proofs.Markdown.Page
import Lexicon.Proofs.MethodName

/-!
# Answers and refusals

A command that is asked for a kind or a method that there is not is refused as wrongly used; any
other is answered, and its answer is never the empty text.
-/

namespace Lexicon.Answer

variable {settings : Settings} {operand name : String} {operands : List String} {refusal : Refusal}

/-! ## Answers are not empty -/

theorem lines_ne_empty {first : String} {more : List String} (nonempty : first ≠ "") :
    lines (first :: more) ≠ "" := by
  cases more <;> simp [lines, nonempty]

theorem classify_ne_empty (given : operands ≠ []) : classify settings operands ≠ "" := by
  obtain ⟨first, more, rfl⟩ := List.exists_cons_of_ne_nil given
  rw [classify]
  split
  · exact Json.render_ne_empty _
  · exact lines_ne_empty (by simp [Classification.line])

theorem list_ne_empty (set : KindSet) : list settings set ≠ "" := by
  obtain ⟨first, more, eq⟩ := List.exists_cons_of_ne_nil set.kinds_ne_nil
  rw [list]
  split
  · exact Json.render_ne_empty _
  · rw [eq]
    exact lines_ne_empty (by simp [listLine])

/-! ## Operands -/

theorem kind_eq_ok_iff {found : Kind} : kind operand = .ok found ↔ Kind.parse operand = .ok found :=
  Failure.mapError_eq_ok_iff

theorem kind_eq_error_iff : kind operand = .error refusal ↔
    ∃ error, Kind.parse operand = .error error ∧ .usage ("Error: " ++ error.message) = refusal :=
  Failure.mapError_eq_error_iff

theorem kinds_eq_ok_iff {found : List Kind} :
    kinds operands = .ok found ↔ operands.map Kind.parse = found.map .ok := by
  induction operands generalizing found with
  | nil => cases found <;> simp [kinds]
  | cons operand operands ih =>
    simp only [kinds, Failure.bind_eq_ok_iff, kind_eq_ok_iff, ih]
    cases found <;> simp [pure, Except.pure]

theorem exists_kind_eq_error (refused : kinds operands = .error refusal) :
    ∃ operand ∈ operands, kind operand = .error refusal := by
  induction operands with
  | nil => cases refused
  | cons operand operands ih =>
    rw [kinds, Failure.bind_eq_error_iff] at refused
    rcases refused with refused | ⟨first, -, refused⟩
    · exact ⟨operand, List.mem_cons_self, refused⟩
    · rcases Failure.bind_eq_error_iff.mp refused with refused | ⟨more, -, ended⟩
      · obtain ⟨other, mem, refused⟩ := ih refused
        exact ⟨other, List.mem_cons_of_mem _ mem, refused⟩
      · cases ended

/-! ## Refusals -/

/-- The answer is a refusal for wrong usage exactly if something unknown was named. No other answer
is empty if something was asked. -/
inductive RefusesIff (unknown asked : Prop) : Except Refusal String → Prop
  | answered {output : String} (known : ¬unknown) (nonempty : asked → output ≠ "") :
    RefusesIff unknown asked (.ok output)
  | refused {refusal : Refusal} (named : unknown) (usage : refusal.exitCode = 2) :
    RefusesIff unknown asked (.error refusal)

theorem textLine_ne_empty (kind : Kind) : textLine kind ≠ "" := by simp [textLine]

theorem text_refusesIff :
    RefusesIff (∃ operand ∈ operands, ∃ error, Kind.parse operand = .error error)
      (operands ≠ []) (text settings operands) := by
  cases read : kinds operands with
  | error refusal =>
    obtain ⟨operand, mem, refused⟩ := exists_kind_eq_error read
    obtain ⟨error, unread, rfl⟩ := kind_eq_error_iff.mp refused
    rw [text, read]
    exact .refused ⟨operand, mem, error, unread⟩ rfl
  | ok found =>
    have parsed := kinds_eq_ok_iff.mp read
    rw [text, read]
    refine .answered ?_ fun given => ?_
    · rintro ⟨operand, mem, error, unread⟩
      have : .error error ∈ operands.map Kind.parse := unread ▸ List.mem_map_of_mem mem
      rw [parsed] at this
      simp at this
    · split
      · exact Json.render_ne_empty _
      · cases found with
        | nil => exact absurd (List.map_eq_nil_iff.mp parsed) given
        | cons first more => exact lines_ne_empty (textLine_ne_empty first)

theorem operators_refusesIff :
    RefusesIff (∃ error, Kind.parse operand = .error error) True (operators settings operand) := by
  cases read : kind operand with
  | error refusal =>
    obtain ⟨error, unread, rfl⟩ := kind_eq_error_iff.mp read
    rw [operators, read]
    exact .refused ⟨error, unread⟩ rfl
  | ok token =>
    rw [operators, read]
    refine .answered (by simp [kind_eq_ok_iff.mp read]) fun _ => ?_
    split
    · exact Json.render_ne_empty _
    · exact lines_ne_empty (textLine_ne_empty token)

theorem method_refusesIff :
    RefusesIff (name ∉ MethodName.all.map (·.name)) True (method settings name) := by
  rw [← MethodName.find?_eq_none_iff, method]
  cases found : MethodName.find? name with
  | none => exact .refused rfl rfl
  | some method =>
    refine .answered (by simp) fun _ => ?_
    split
    · exact Json.render_ne_empty _
    · simp [methodLine]

theorem audit_refusesIff : RefusesIff False True (audit settings []) := by
  unfold audit
  cases settings.format with
  | json => exact .answered not_false fun _ => Json.render_ne_empty _
  | text =>
    refine .answered not_false fun _ => ?_
    simp

theorem check_refusesIff : RefusesIff False True (check settings) := by
  rw [check, Audit.vocabulary_eq_nil]
  exact audit_refusesIff

end Lexicon.Answer
