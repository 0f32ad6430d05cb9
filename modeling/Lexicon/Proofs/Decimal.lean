import Mathlib.Data.List.Induction
import Mathlib.Data.Nat.Digits.Defs
import Lexicon.Decimal

/-!
# What a numeral denotes

A numeral denotes the sum of its digits by their places, and it denotes nothing else. Reading finds
that number exactly if it is within the limit, however many zeros the numeral starts with.

## Main statements

* `Decimal.read?_eq_some_iff`: reading a text finds what it denotes.
* `Decimal.Denotes.unique`: a text denotes one number at most.
-/

namespace Lexicon.Decimal

/-- Each digit counts ten times as much as the one behind it. -/
def placeValue (digits : List Char) : Nat :=
  Nat.ofDigits 10 (digits.reverse.map fun c => c.toNat - '0'.toNat)

/-- A text is a numeral for a number: at most one plus sign, then one or more ASCII digits. -/
def Denotes (text : String) (value : Nat) : Prop :=
  ∃ sign digits, text.toList = sign ++ digits ∧ (sign = [] ∨ sign = ['+']) ∧ digits ≠ [] ∧
    (∀ c ∈ digits, '0' ≤ c ∧ c ≤ '9') ∧ placeValue digits = value

variable {text : String} {value limit : Nat}

theorem isDigit_iff {c : Char} : c.isDigit ↔ '0' ≤ c ∧ c ≤ '9' := by
  simp [Char.isDigit, Char.le_def]

theorem ofDigitChars_eq_placeValue (digits : List Char) :
    Nat.ofDigitChars 10 digits 0 = placeValue digits := by
  induction digits using List.reverseRecOn with
  | nil => rfl
  | append_singleton digits c ih =>
    rw [Nat.ofDigitChars_append, ih]
    simp [placeValue, Nat.ofDigitChars, Nat.ofDigits_cons, Nat.add_comm]

theorem exists_sign (cs : List Char) :
    ∃ sign, cs = sign ++ unsigned cs ∧ (sign = [] ∨ sign = ['+']) := by
  unfold unsigned
  split
  · exact ⟨['+'], rfl, .inr rfl⟩
  · exact ⟨[], rfl, .inl rfl⟩

theorem unsigned_append {sign digits : List Char} (isSign : sign = [] ∨ sign = ['+'])
    (areDigits : ∀ c ∈ digits, '0' ≤ c ∧ c ≤ '9') : unsigned (sign ++ digits) = digits := by
  rcases isSign with rfl | rfl
  · rw [List.nil_append]
    unfold unsigned
    split
    · exact absurd (areDigits '+' List.mem_cons_self) (by decide)
    · rfl
  · rfl

/-- A text without its sign is all there is to a numeral. -/
theorem denotes_iff : Denotes text value ↔
    (unsigned text.toList ≠ [] ∧ (unsigned text.toList).all Char.isDigit) ∧
      Nat.ofDigitChars 10 (unsigned text.toList) 0 = value := by
  simp only [List.all_eq_true, isDigit_iff, ofDigitChars_eq_placeValue]
  constructor
  · rintro ⟨sign, digits, split, isSign, some, areDigits, rfl⟩
    rw [split, unsigned_append isSign areDigits]
    exact ⟨⟨some, areDigits⟩, rfl⟩
  · rintro ⟨⟨some, areDigits⟩, rfl⟩
    obtain ⟨sign, split, isSign⟩ := exists_sign text.toList
    exact ⟨sign, _, split, isSign, some, areDigits, rfl⟩

theorem Denotes.unique {other : Nat} (first : Denotes text value) (second : Denotes text other) :
    value = other :=
  (denotes_iff.mp first).2.symm.trans (denotes_iff.mp second).2

theorem read?_eq_some_iff : read? limit text = some value ↔ Denotes text value ∧ value ≤ limit := by
  rw [denotes_iff, read?]
  grind

theorem read?_eq_none_iff : read? limit text = none ↔ ∀ value ≤ limit, ¬Denotes text value := by
  simp only [Option.eq_none_iff_forall_ne_some, ne_eq, read?_eq_some_iff, not_and]
  exact forall_congr' fun value => ⟨fun h le den => h den le, fun h den le => h le den⟩

/-- The characters of a numeral are digits and perhaps a plus sign, and there is a digit. -/
theorem Denotes.exists_digit (numeral : Denotes text value) :
    ∃ c ∈ text.toList, '0' ≤ c ∧ c ≤ '9' := by
  obtain ⟨sign, digits, split, -, some, areDigits, -⟩ := numeral
  obtain ⟨c, others, rfl⟩ := List.exists_cons_of_ne_nil some
  exact ⟨c, by simp [split], areDigits c List.mem_cons_self⟩

theorem Denotes.of_mem (numeral : Denotes text value) {c : Char} (hc : c ∈ text.toList) :
    c = '+' ∨ '0' ≤ c ∧ c ≤ '9' := by
  obtain ⟨sign, digits, split, isSign, -, areDigits, -⟩ := numeral
  rw [split] at hc
  rcases List.mem_append.mp hc with inSign | inDigits
  · rcases isSign with rfl | rfl <;> simp_all
  · exact .inr (areDigits c inDigits)

end Lexicon.Decimal
