import Std.Data.String.ToNat
import Lexicon.Audit.Report
import Lexicon.Proofs.Kind.Category
import Lexicon.Proofs.Kind.Name

/-!
# Messages tell violations apart

A message is a fixed text with fields set into it. The name of a registry and a spelling may be any
text at all, also one that imitates a message. They are the first field of theirs, though, and a
message can be read from its end: what stands behind the last field tells which rule is violated, and
each field but the first can be cut off at the character in front of it, which it does not hold
itself. Names of kinds hold no backtick, numerals and names of categories hold no blank.

## Main statements

* `Violation.ending_eq_of_message_eq`: equal messages are about the same rule.
* `Violation.message_injective`: equal messages are about the same violation.
* `Violation.messages_unambiguous`: reports on different violations have different messages.
-/

namespace Lexicon

/-! ## Cutting off a field -/

variable {α : Type} {c : α} {front back between x y : List α}

theorem eq_nil_of_cons_eq_append (hx : c ∉ x) (split : c :: x = between ++ c :: y) :
    between = [] := by
  cases between with
  | nil => rfl
  | cons d between =>
    obtain ⟨-, rfl⟩ := List.cons.inj split
    simp at hx

theorem append_cons_inj (hx : c ∉ x) (hy : c ∉ y) :
    front ++ c :: x = back ++ c :: y ↔ front = back ∧ x = y := by
  constructor
  · intro same
    obtain ⟨between, rfl, rest⟩ | ⟨between, rfl, rest⟩ := List.append_eq_append_iff.mp same
    · obtain rfl := eq_nil_of_cons_eq_append hx rest
      simpa using rest
    · obtain rfl := eq_nil_of_cons_eq_append hy rest
      simpa [eq_comm] using rest
  · rintro ⟨rfl, rfl⟩
    rfl

/-- A field is cut off at the last character of the text in front of it. -/
theorem append_field_inj {a b mark x y : String} {c : Char} (ends : mark.toList.getLast? = some c)
    (hx : c ∉ x.toList) (hy : c ∉ y.toList) : a ++ mark ++ x = b ++ mark ++ y ↔ a = b ∧ x = y := by
  obtain ⟨front, split⟩ := List.getLast?_eq_some_iff.mp ends
  have cut : a.toList ++ front ++ c :: x.toList = b.toList ++ front ++ c :: y.toList ↔
      a.toList ++ front = b.toList ++ front ∧ x.toList = y.toList := append_cons_inj hx hy
  simpa [← String.toList_inj, split] using cut

theorem ExpressionForm.name_injective : Function.Injective name := by
  intro a b same
  cases a <;> cases b <;> simp_all [name]

theorem blank_not_mem_toString (n : Nat) : ' ' ∉ (toString n).toList := by
  rw [Nat.toString_eq_repr, Nat.toList_repr]
  intro mem
  exact absurd (Nat.isDigit_of_mem_toDigits (by decide) (by decide) mem) (by decide)

namespace Violation

/-! ## Fields of messages -/

variable {a b mark : String}

theorem append_quoted (a text : String) : a ++ quoted text = a ++ "`" ++ text ++ "`" := by
  simp only [quoted, String.append_assoc]

theorem quoted_inj {text other : String} : quoted text = quoted other ↔ text = other := by
  rw [quoted, quoted, String.append_left_inj, String.append_right_inj]

/-- A first field may be any text. -/
theorem append_quoted_append_inj {text other : String} :
    a ++ quoted text ++ mark = a ++ quoted other ++ mark ↔ text = other := by
  rw [String.append_left_inj, String.append_right_inj, quoted_inj]

theorem quoted_name_inj {kind other : Kind} :
    quoted kind.name = quoted other.name ↔ kind = other := by
  rw [quoted_inj, Kind.name_injective.eq_iff]

theorem append_quoted_name_inj {kind other : Kind} :
    a ++ quoted kind.name = b ++ quoted other.name ↔ a = b ∧ kind = other := by
  rw [append_quoted, append_quoted, String.append_left_inj,
    append_field_inj (by decide) kind.tick_not_mem_name other.tick_not_mem_name,
    Kind.name_injective.eq_iff]

theorem append_quoted_name_append_inj {kind other : Kind} :
    a ++ quoted kind.name ++ mark = b ++ quoted other.name ++ mark ↔ a = b ∧ kind = other := by
  rw [String.append_left_inj, append_quoted_name_inj]

theorem append_category_inj {category other : Category} (ends : mark.toList.getLast? = some ' ') :
    a ++ mark ++ category.name = b ++ mark ++ other.name ↔ a = b ∧ category = other := by
  rw [append_field_inj ends category.blank_not_mem_name other.blank_not_mem_name,
    Category.name_injective.eq_iff]

theorem append_number_inj {m n : Nat} (ends : mark.toList.getLast? = some ' ') :
    a ++ mark ++ toString m = b ++ mark ++ toString n ↔ a = b ∧ m = n := by
  rw [append_field_inj ends (blank_not_mem_toString m) (blank_not_mem_toString n),
    Nat.toString_eq_repr, Nat.toString_eq_repr, Nat.repr_inj]

/-! ## Endings -/

/-- What a message says behind its last field. -/
def ending : Violation → String
  | unordered .. => " in the kind table but does not sort after it"
  | uncategorized .. => " lies outside every category block"
  | overlappingBlocks .. => " ends"
  | registryLength .. => " kinds"
  | entryOutOfBounds .. => " lies outside its block"
  | entryMisplaced .. => " belongs"
  | derivedOutOfBounds .. => " lies outside the category block"
  | sharedSpelling .. => "`"

/-- Every ending. -/
def endings : List String :=
  [" in the kind table but does not sort after it", " lies outside every category block", " ends",
   " kinds", " lies outside its block", " belongs", " lies outside the category block", "`"]

theorem ending_mem_endings (violation : Violation) : violation.ending ∈ endings := by
  cases violation <;> simp [ending, endings]

/-- No ending ends in another one. -/
theorem eq_of_suffix_of_mem_endings :
    ∀ first ∈ endings, ∀ second ∈ endings, first.toList <:+ second.toList → first = second := by
  decide

theorem exists_message_eq_append_ending (violation : Violation) :
    ∃ front, violation.message = front ++ violation.ending := by
  cases violation with
  | sharedSpelling spelling first second => exact ⟨_, append_quoted _ second.name⟩
  | _ => exact ⟨_, rfl⟩

theorem ending_suffix_message (violation : Violation) :
    violation.ending.toList <:+ violation.message.toList := by
  obtain ⟨front, eq⟩ := exists_message_eq_append_ending violation
  exact ⟨front.toList, by rw [eq, String.toList_append]⟩

theorem ending_eq_of_message_eq {violation other : Violation}
    (same : violation.message = other.message) : violation.ending = other.ending := by
  have first := ending_mem_endings violation
  have second := ending_mem_endings other
  have ends := ending_suffix_message other
  rw [← same] at ends
  rcases List.suffix_or_suffix_of_suffix (ending_suffix_message violation) ends with within | within
  · exact eq_of_suffix_of_mem_endings _ first _ second within
  · exact (eq_of_suffix_of_mem_endings _ second _ first within).symm

/-! ## Messages -/

theorem message_injective : Function.Injective message := by
  intro violation other same
  have ending := ending_eq_of_message_eq same
  -- both are about one rule, and the fields are cut off one by one, the last one first
  cases violation with
  | unordered previous next =>
    cases other with
    | unordered previous' next' =>
      obtain ⟨rest, rfl⟩ := append_quoted_name_append_inj.mp same
      obtain rfl := quoted_name_inj.mp ((String.append_left_inj _).mp rest)
      rfl
    | _ => simp [Violation.ending] at ending
  | uncategorized kind =>
    cases other with
    | uncategorized kind' =>
      obtain rfl := quoted_name_inj.mp ((String.append_left_inj _).mp same)
      rfl
    | _ => simp [Violation.ending] at ending
  | overlappingBlocks first second =>
    cases other with
    | overlappingBlocks first' second' =>
      obtain ⟨rest, rfl⟩ := (append_category_inj rfl).mp ((String.append_left_inj _).mp same)
      obtain rfl := Category.name_injective ((String.append_right_inj _).mp rest)
      rfl
    | _ => simp [Violation.ending] at ending
  | registryLength registry expected found =>
    cases other with
    | registryLength registry' expected' found' =>
      obtain ⟨rest, rfl⟩ := (append_number_inj rfl).mp ((String.append_left_inj _).mp same)
      obtain ⟨front, rfl⟩ := (append_number_inj rfl).mp rest
      obtain rfl := quoted_inj.mp ((String.append_right_inj _).mp front)
      rfl
    | _ => simp [Violation.ending] at ending
  | entryOutOfBounds registry kind =>
    cases other with
    | entryOutOfBounds registry' kind' =>
      obtain ⟨rest, rfl⟩ := append_quoted_name_append_inj.mp same
      obtain rfl := append_quoted_append_inj.mp rest
      rfl
    | _ => simp [Violation.ending] at ending
  | entryMisplaced registry expected found =>
    cases other with
    | entryMisplaced registry' expected' found' =>
      obtain ⟨rest, rfl⟩ := append_quoted_name_append_inj.mp same
      obtain ⟨front, rfl⟩ := append_quoted_name_append_inj.mp rest
      obtain rfl := append_quoted_append_inj.mp front
      rfl
    | _ => simp [Violation.ending] at ending
  | derivedOutOfBounds form token result =>
    cases other with
    | derivedOutOfBounds form' token' result' =>
      obtain ⟨rest, rfl⟩ := append_quoted_name_append_inj.mp same
      obtain ⟨front, rfl⟩ := append_quoted_name_append_inj.mp rest
      obtain rfl := ExpressionForm.name_injective ((String.append_left_inj _).mp front)
      rfl
    | _ => simp [Violation.ending] at ending
  | sharedSpelling spelling first second =>
    cases other with
    | sharedSpelling spelling' first' second' =>
      obtain ⟨rest, rfl⟩ := append_quoted_name_inj.mp same
      obtain ⟨front, rfl⟩ := append_quoted_name_append_inj.mp rest
      obtain rfl := append_quoted_append_inj.mp front
      rfl
    | _ => simp [Violation.ending] at ending

/-- Violations with one message are one violation, so different violations make a report with
different messages. -/
theorem messages_unambiguous :
    (∀ violation other : Violation, violation.message = other.message → violation = other) ∧
    ∀ violations others : List Violation, violations ≠ others →
      (Audit.Report.mk violations).related.map (·.message) ≠
        (Audit.Report.mk others).related.map (·.message) := by
  refine ⟨fun _ _ same => message_injective same, fun violations others different same => ?_⟩
  have messages : violations.map message = others.map message := by
    simpa [Audit.Report.related, Audit.diagnostic, Function.comp_def] using same
  exact different (List.map_injective_iff.mpr message_injective messages)

end Violation

end Lexicon
