import Lexicon.Proofs.Command.Answer
import Lexicon.Proofs.Kind.Parse

/-!
# Several operands at once

A command on several operands tells one item for each, so its answer to a row of operands is made of
its answers to the parts of the row. An operand that cannot be read spoils the whole row: the answer
is then a refusal that names the first such operand, whatever stands behind it.

## Main statements

* `Answer.Joined`: how an answer is made of two others.
* `Answer.kinds_append`: the kinds of a row of operands, part by part.
* `Answer.operands_independent`: what the commands on several operands answer.
-/

namespace Lexicon.Answer

variable {settings : Settings} {operands more : List String} {operand : String}

/-! ## Items -/

/-- The whole tells what the two parts tell, in turn: on more lines, or in a longer array. -/
def Joined (format : OutputFormat) (first second whole : String) : Prop :=
  match format with
  | .text => whole = first ++ "\n" ++ second
  | .json => ∃ elements others, Json.read? first = some (.array elements) ∧
      Json.read? second = some (.array others) ∧
        Json.read? whole = some (.array (elements ++ others))

/-- One item for each element of a list. -/
def listing {α : Type} (format : OutputFormat) (json : α → Json) (line : α → String)
    (elements : List α) : String :=
  match format with
  | .json => Json.render (.array (elements.map json))
  | .text => lines (elements.map line)

theorem joined_listing {α : Type} (format : OutputFormat) (json : α → Json) (line : α → String)
    {elements others : List α} (nonempty : elements ≠ []) (present : others ≠ []) :
    Joined format (listing format json line elements) (listing format json line others)
      (listing format json line (elements ++ others)) := by
  cases format with
  | text =>
    simp only [Joined, listing, lines, List.map_append]
    exact String.intercalate_append_of_ne_nil (by simpa using nonempty) (by simpa using present)
  | json =>
    refine ⟨elements.map json, others.map json, Json.read?_render _, Json.read?_render _, ?_⟩
    rw [← List.map_append]
    exact Json.read?_render _

theorem classify_eq_listing (settings : Settings) (spellings : List String) :
    classify settings spellings = listing settings.format Classification.json Classification.line
      (spellings.map (Lexicon.classify settings.synonyms)) :=
  rfl

/-! ## Operands -/

/-- The operand denotes a kind. -/
def Readable (operand : String) : Prop := ∃ kind, Kind.parse operand = .ok kind

theorem kinds_append (operands more : List String) : kinds (operands ++ more) =
    kinds operands >>= fun found => (kinds more).map (found ++ ·) := by
  induction operands with
  | nil => cases others : kinds more <;> simp [kinds, others, bind, Except.bind, Except.map]
  | cons operand operands ih =>
    rw [List.cons_append, kinds, kinds, ih]
    cases kind operand with
    | error refusal => rfl
    | ok first =>
      cases kinds operands with
      | error refusal => rfl
      | ok found => cases kinds more <;> rfl

/-- All operands can be read, or the row is refused as wrongly used. -/
theorem forall_readable_iff :
    (∀ operand ∈ operands, Readable operand) ↔ ∃ found, kinds operands = .ok found := by
  constructor
  · intro readable
    cases read : kinds operands with
    | ok found => exact ⟨found, rfl⟩
    | error refusal =>
      obtain ⟨operand, mem, refused⟩ := exists_kind_eq_error read
      obtain ⟨kind, parsed⟩ := readable operand mem
      rw [kind_eq_ok_iff.mpr parsed] at refused
      cases refused
  · rintro ⟨found, read⟩ operand mem
    have parsed : Kind.parse operand ∈ operands.map Kind.parse := List.mem_map_of_mem mem
    rw [kinds_eq_ok_iff.mp read] at parsed
    obtain ⟨kind, -, same⟩ := List.mem_map.mp parsed
    exact ⟨kind, same.symm⟩

theorem exists_usage (unread : ∃ operand ∈ operands, ¬Readable operand) :
    ∃ message, kinds operands = .error (.usage message) := by
  cases read : kinds operands with
  | ok found =>
    obtain ⟨operand, mem, unreadable⟩ := unread
    exact absurd (forall_readable_iff.mpr ⟨found, read⟩ operand mem) unreadable
  | error refusal =>
    obtain ⟨operand, -, refused⟩ := exists_kind_eq_error read
    obtain ⟨error, -, rfl⟩ := kind_eq_error_iff.mp refused
    exact ⟨_, rfl⟩

/-! ## Rows of operands -/

section Text

variable {found others : List Kind} {refusal : Refusal}

theorem text_of_ok (settings : Settings) (read : kinds operands = .ok found) :
    text settings operands = .ok (listing settings.format
      (fun kind => .ofFields (kindFields kind)) textLine found) := by
  rw [text, read]
  rfl

theorem text_of_error (settings : Settings) (refused : kinds operands = .error refusal) :
    text settings operands = .error refusal := by
  rw [text, refused]
  rfl

theorem kinds_append_of_ok (read : kinds operands = .ok found) :
    kinds (operands ++ more) = (kinds more).map (found ++ ·) := by
  rw [kinds_append, read]
  rfl

theorem kinds_append_of_error (refused : kinds operands = .error refusal) (more : List String) :
    kinds (operands ++ more) = .error refusal := by
  rw [kinds_append, refused]
  rfl

theorem ne_nil_of_kinds_eq_ok (nonempty : operands ≠ []) (read : kinds operands = .ok found) :
    found ≠ [] := by
  rintro rfl
  exact nonempty (List.map_eq_nil_iff.mp (kinds_eq_ok_iff.mp read))

end Text

/-- The first operand that cannot be read is the one that the refusal names. -/
theorem kinds_of_first_unreadable {before after : List String} {error : KindError}
    (readable : ∀ other ∈ before, Readable other) (unread : Kind.parse operand = .error error) :
    kinds (before ++ operand :: after) = .error (.usage ("Error: " ++ error.message)) := by
  obtain ⟨found, read⟩ := forall_readable_iff.mp readable
  have refused : kind operand = .error (.usage ("Error: " ++ error.message)) :=
    kind_eq_error_iff.mpr ⟨error, unread, rfl⟩
  rw [kinds_append_of_ok read, kinds, refused]
  rfl

/-- A row of operands is answered part by part. A row that asks for fixed texts is refused as its
first part is or, if all of that can be read, as its second part is: the refusal names the first
operand that cannot be read, and nothing is told of the others. -/
theorem operands_independent (settings : Settings) (operands more : List String)
    (nonempty : operands ≠ []) (present : more ≠ []) :
    Joined settings.format (classify settings operands) (classify settings more)
      (classify settings (operands ++ more)) ∧
    ((∀ operand ∈ operands ++ more, Readable operand) → ∃ first second whole,
      text settings operands = .ok first ∧ text settings more = .ok second ∧
        text settings (operands ++ more) = .ok whole ∧
          Joined settings.format first second whole) ∧
    ((∃ operand ∈ operands, ¬Readable operand) → ∃ message,
      text settings operands = .error (.usage message) ∧
        ∀ others, text settings (operands ++ others) = .error (.usage message)) ∧
    ((∀ operand ∈ operands, Readable operand) → (∃ operand ∈ more, ¬Readable operand) →
      ∃ message, text settings more = .error (.usage message) ∧
        text settings (operands ++ more) = .error (.usage message)) ∧
    ∀ before operand after error, (∀ other ∈ before, Readable other) →
      Kind.parse operand = .error error →
        text settings (before ++ operand :: after) =
          .error (.usage ("Error: " ++ error.message)) := by
  refine ⟨?_, fun readable => ?_, fun unread => ?_, fun readable unread => ?_,
    fun before operand after error readable unread => ?_⟩
  · simp only [classify_eq_listing, List.map_append]
    exact joined_listing _ _ _ (by simpa using nonempty) (by simpa using present)
  · obtain ⟨readable, more_readable⟩ := List.forall_mem_append.mp readable
    obtain ⟨found, read⟩ := forall_readable_iff.mp readable
    obtain ⟨others, more_read⟩ := forall_readable_iff.mp more_readable
    have whole : kinds (operands ++ more) = .ok (found ++ others) := by
      rw [kinds_append_of_ok read, more_read]
      rfl
    exact ⟨_, _, _, text_of_ok settings read, text_of_ok settings more_read,
      text_of_ok settings whole, joined_listing _ _ _ (ne_nil_of_kinds_eq_ok nonempty read)
        (ne_nil_of_kinds_eq_ok present more_read)⟩
  · obtain ⟨message, refused⟩ := exists_usage unread
    exact ⟨message, text_of_error settings refused, fun others =>
      text_of_error settings (kinds_append_of_error refused others)⟩
  · obtain ⟨found, read⟩ := forall_readable_iff.mp readable
    obtain ⟨message, refused⟩ := exists_usage unread
    refine ⟨message, text_of_error settings refused, text_of_error settings ?_⟩
    rw [kinds_append_of_ok read, refused]
    rfl
  · exact text_of_error settings (kinds_of_first_unreadable readable unread)

/-- A name of a kind, then two texts that denote none. -/
theorem operands_independent_mixed :
    text {} (["PlusEqualsToken"] ++ ["+", "nothing"]) =
        .error (.usage "Error: unknown syntax kind `+`") ∧
      classify {} (["if"] ++ ["+=", "foo"]) =
        classify {} ["if"] ++ "\n" ++ classify {} ["+=", "foo"] := by
  obtain ⟨-, -, -, -, first⟩ :=
    operands_independent {} ["PlusEqualsToken"] ["+", "nothing"] (by simp) (by simp)
  obtain ⟨joined, -, -, -, -⟩ := operands_independent {} ["if"] ["+=", "foo"] (by simp) (by simp)
  refine ⟨first ["PlusEqualsToken"] "+" ["nothing"] (.unknownName "+") ?_ ?_, joined⟩
  · simp only [List.mem_singleton, forall_eq]
    exact ⟨.plusEqualsToken, Kind.parse_eq_ok_iff.mpr (.inl rfl)⟩
  · exact Kind.parse_eq_unknownName_of_forall (by simp)

end Lexicon.Answer
