import Lexicon.Kind.Parse
import Lexicon.Proofs.Decimal
import Lexicon.Proofs.Kind.Name

/-!
# What a text reads as

A text is the name of a kind, a numeral, or neither; it is never both, since names are made of
letters. So reading has three outcomes that exclude each other: a kind, a code that no kind has, and
an unknown text.

## Main statements

* `Kind.parse_eq_ok_iff`, `Kind.parse_eq_unassignedCode_iff`, `Kind.parse_eq_unknownName_iff`: when
  each outcome comes.
* `Kind.parse_outcome`: all three, and texts that are unknown whatever the kinds are.
-/

namespace Lexicon.Kind

open Decimal (Denotes)

variable {text : String} {kind : Kind} {code : Nat}

theorem code_le_maxCode (kind : Kind) : kind.code ≤ maxCode :=
  kind.code_le.trans (by decide)

/-- No name is a numeral. -/
theorem not_denotes_name (kind : Kind) (code : Nat) : ¬Denotes kind.name code := by
  intro numeral
  obtain ⟨c, mem, -, upTo⟩ := numeral.exists_digit
  have letter := toNat_of_mem_name mem
  have digit : c.toNat ≤ 57 := upTo
  omega

theorem ofName?_eq_none (numeral : Denotes text code) : ofName? text = none := by
  refine ofName?_eq_none_iff.mpr fun kind same => not_denotes_name kind code ?_
  rwa [← same]

/-- A text is looked up as a name, then read as a numeral, and a number is looked up as a code. -/
theorem parse_cases (text : String) :
    (∃ kind, text = kind.name ∧ parse text = .ok kind) ∨
    (∃ kind, Denotes text kind.code ∧ parse text = .ok kind) ∨
    (∃ code, (Denotes text code ∧ code ≤ maxCode ∧ ∀ kind : Kind, kind.code ≠ code) ∧
      parse text = .error (.unassignedCode code)) ∨
    (((∀ kind : Kind, text ≠ kind.name) ∧ ∀ code ≤ maxCode, ¬Denotes text code) ∧
      parse text = .error (.unknownName text)) := by
  cases named : ofName? text with
  | some kind => exact .inl ⟨kind, ofName?_eq_some_iff.mp named, by simp [parse, named]⟩
  | none =>
    cases number : Decimal.read? maxCode text with
    | none =>
      refine .inr (.inr (.inr ⟨⟨ofName?_eq_none_iff.mp named, ?_⟩, ?_⟩))
      · exact Decimal.read?_eq_none_iff.mp number
      · simp [parse, named, number]
    | some code =>
      obtain ⟨numeral, small⟩ := Decimal.read?_eq_some_iff.mp number
      cases coded : ofCode? code with
      | some kind =>
        obtain rfl := ofCode?_eq_some_iff.mp coded
        exact .inr (.inl ⟨kind, numeral, by simp [parse, named, number, coded]⟩)
      | none =>
        refine .inr (.inr (.inl ⟨code, ⟨numeral, small, ofCode?_eq_none_iff.mp coded⟩, ?_⟩))
        simp [parse, named, number, coded]

theorem parse_eq_ok_iff : parse text = .ok kind ↔ text = kind.name ∨ Denotes text kind.code := by
  constructor
  · intro ok
    rcases parse_cases text with ⟨_, same, eq⟩ | ⟨_, numeral, eq⟩ | ⟨_, -, eq⟩ | ⟨-, eq⟩ <;>
      rw [eq] at ok <;> cases ok
    · exact .inl same
    · exact .inr numeral
  · rintro (rfl | numeral)
    · simp [parse, ofName?_eq_some_iff.mpr rfl]
    · have number := Decimal.read?_eq_some_iff.mpr ⟨numeral, kind.code_le_maxCode⟩
      simp [parse, ofName?_eq_none numeral, number, ofCode?_eq_some_iff.mpr rfl]

theorem parse_eq_unassignedCode_iff : parse text = .error (.unassignedCode code) ↔
    Denotes text code ∧ code ≤ maxCode ∧ ∀ kind : Kind, kind.code ≠ code := by
  constructor
  · intro unassigned
    rcases parse_cases text with ⟨_, -, eq⟩ | ⟨_, -, eq⟩ | ⟨_, why, eq⟩ | ⟨-, eq⟩ <;>
      rw [eq] at unassigned <;> cases unassigned
    exact why
  · rintro ⟨numeral, small, unassigned⟩
    have number := Decimal.read?_eq_some_iff.mpr ⟨numeral, small⟩
    simp [parse, ofName?_eq_none numeral, number, ofCode?_eq_none_iff.mpr unassigned]

theorem parse_eq_unknownName_iff {other : String} :
    parse text = .error (.unknownName other) ↔
      other = text ∧ (∀ kind : Kind, text ≠ kind.name) ∧ ∀ code ≤ maxCode, ¬Denotes text code := by
  constructor
  · intro unknown
    rcases parse_cases text with ⟨_, -, eq⟩ | ⟨_, -, eq⟩ | ⟨_, -, eq⟩ | ⟨why, eq⟩ <;>
      rw [eq] at unknown <;> cases unknown
    exact ⟨rfl, why⟩
  · rintro ⟨rfl, unnamed, noNumeral⟩
    simp [parse, ofName?_eq_none_iff.mpr unnamed, Decimal.read?_eq_none_iff.mpr noNumeral]

/-! ## Unknown texts -/

/-- A character that is no letter, no digit and no plus sign spoils a text. -/
theorem parse_eq_unknownName_of_mem {c : Char} (hc : c ∈ text.toList)
    (noLetter : c.toNat < 65 ∨ 122 < c.toNat) (noSign : c ≠ '+') (noDigit : ¬('0' ≤ c ∧ c ≤ '9')) :
    parse text = .error (.unknownName text) := by
  refine parse_eq_unknownName_iff.mpr ⟨rfl, fun kind same => ?_, fun code _ numeral => ?_⟩
  · have letter := toNat_of_mem_name (same ▸ hc)
    omega
  · rcases numeral.of_mem hc with sign | digit
    · exact noSign sign
    · exact noDigit digit

/-- A text without letters and digits is neither a name nor a numeral. -/
theorem parse_eq_unknownName_of_forall (unspelled : ∀ c ∈ text.toList, c = '+') :
    parse text = .error (.unknownName text) := by
  refine parse_eq_unknownName_iff.mpr ⟨rfl, fun kind same => ?_, fun code _ numeral => ?_⟩
  · obtain ⟨c, mem⟩ := List.exists_mem_of_ne_nil _
      (String.toList_eq_nil_iff.not.mpr (name_ne_empty kind))
    obtain rfl := unspelled c (same ▸ mem)
    have letter := toNat_of_mem_name mem
    exact absurd letter.1 (by decide)
  · obtain ⟨c, mem, digit⟩ := numeral.exists_digit
    obtain rfl := unspelled c mem
    exact absurd digit.1 (by decide)

/-- A numeral above the code range is as unknown as a text that is no numeral. -/
theorem parse_eq_unknownName_of_denotes (large : maxCode < code) (numeral : Denotes text code) :
    parse text = .error (.unknownName text) := by
  refine parse_eq_unknownName_iff.mpr ⟨rfl, fun kind same => ?_, fun other small also => ?_⟩
  · exact not_denotes_name kind code (same ▸ numeral)
  · rw [also.unique numeral] at small
    omega

/-- A text reads as a kind exactly if it is its name or a numeral for its code, as an unassigned
code exactly if it is a numeral for that code within the code range, and as an unknown text, which
is kept unchanged, in every other case. -/
theorem parse_outcome (text : String) :
    (∀ kind, parse text = .ok kind ↔ text = kind.name ∨ Denotes text kind.code) ∧
    (∀ code, parse text = .error (.unassignedCode code) ↔
      Denotes text code ∧ code ≤ 65535 ∧ ∀ kind : Kind, kind.code ≠ code) ∧
    (∀ other, parse text = .error (.unknownName other) ↔
      other = text ∧ (∀ kind : Kind, text ≠ kind.name) ∧ ∀ code ≤ 65535, ¬Denotes text code) ∧
    (text = "" ∨ text = "+" ∨ '-' ∈ text.toList ∨ (∃ c ∈ text.toList, 127 < c.toNat) ∨
      (∃ code, 65535 < code ∧ Denotes text code) → parse text = .error (.unknownName text)) := by
  refine ⟨fun kind => parse_eq_ok_iff, fun code => parse_eq_unassignedCode_iff,
    fun other => parse_eq_unknownName_iff, ?_⟩
  rintro (rfl | rfl | minus | ⟨c, mem, wide⟩ | ⟨code, large, numeral⟩)
  · exact parse_eq_unknownName_of_forall (by simp)
  · exact parse_eq_unknownName_of_forall (by simp)
  · exact parse_eq_unknownName_of_mem minus (.inl (by decide)) (by decide) (by decide)
  · refine parse_eq_unknownName_of_mem mem (.inr (by omega)) ?_ ?_
    · rintro rfl
      exact absurd wide (by decide)
    · rintro ⟨-, upTo⟩
      have digit : c.toNat ≤ 57 := upTo
      omega
  · exact parse_eq_unknownName_of_denotes large numeral

/-- A sign and leading zeros before an assigned and an unassigned code, a number that is too large,
and digits of another script. -/
theorem parse_outcome_numerals :
    parse "+00220" = .ok .plusEqualsToken ∧
    parse "0150" = .error (.unassignedCode 150) ∧
    parse "0065536" = .error (.unknownName "0065536") ∧
    parse "２２０" = .error (.unknownName "２２０") := by
  obtain ⟨ok, -, -, -⟩ := parse_outcome "+00220"
  obtain ⟨-, unassigned, -, -⟩ := parse_outcome "0150"
  obtain ⟨-, -, -, large⟩ := parse_outcome "0065536"
  obtain ⟨-, -, -, foreign⟩ := parse_outcome "２２０"
  refine ⟨(ok _).mpr (.inr ?_), (unassigned 150).mpr ⟨?_, by decide, by decide +kernel⟩,
    large (.inr (.inr (.inr (.inr ⟨65536, by decide, ?_⟩)))),
    foreign (.inr (.inr (.inr (.inl ⟨'２', by simp, by decide⟩))))⟩
  · exact ⟨['+'], ['0', '0', '2', '2', '0'], by simp, .inr rfl, by simp, by simp, rfl⟩
  · exact ⟨[], ['0', '1', '5', '0'], by simp, .inl rfl, by simp, by simp, rfl⟩
  · exact ⟨[], ['0', '0', '6', '5', '5', '3', '6'], by simp, .inl rfl, by simp, by simp, rfl⟩

end Lexicon.Kind
