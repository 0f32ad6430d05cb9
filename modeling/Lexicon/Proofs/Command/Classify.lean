import Mathlib.Data.List.Forall2
import Lexicon.Command.Answer
import Lexicon.Proofs.Json.Fields
import Lexicon.Proofs.Json.RoundTrip

/-!
# What is said about spellings

The lines for readers and the objects of the JSON form tell the same of a spelling. They find out in
different ways that it is an identifier: a line has no part to show, an object asks each look-up.

## Main statements

* `Classification.IsDescribedBy`: what an object tells of a classification.
* `Answer.read?_classify`: the JSON form, read again, describes every spelling in turn.
-/

namespace Lexicon

namespace Classification

variable {c : Classification} {object : Json}

/-! ## Lines -/

theorem parts_eq_nil_iff : c.parts = [] ↔ c.isIdentifier := by
  simp [parts, isIdentifier, and_assoc]

/-- Every part consists of more than one word. -/
theorem space_mem_of_mem_parts {part : String} (mem : part ∈ c.parts) : ' ' ∈ part.toList := by
  simp only [parts, List.mem_append, Option.mem_toList, Option.map_eq_some_iff] at mem
  rcases mem with ((⟨kind, -, rfl⟩ | ⟨kind, -, rfl⟩) | ⟨kind, -, rfl⟩) | ⟨marker, -, rfl⟩
  · simp [keywordPart]
  · simp
  · simp
  · show ' ' ∈ ("pseudo-keyword " ++ marker.canonical ++ synonymRemark _ _).toList
    simp

/-- A line says that a spelling is an identifier exactly if no look-up has found anything. -/
theorem line_eq_iff : c.line = c.spelling ++ ": identifier" ↔ c.isIdentifier := by
  rw [← parts_eq_nil_iff, line]
  cases parts : c.parts with
  | nil => simp [String.append_assoc]
  | cons part more =>
    have inside : ' ' ∈ ("; ".intercalate (part :: more)).toList := by
      have mem : part ∈ c.parts := by simp [parts]
      cases more <;> simp [space_mem_of_mem_parts mem]
    have different : "; ".intercalate (part :: more) ≠ "identifier" := fun same => by
      rw [same] at inside
      exact absurd inside (by decide)
    simpa [← String.toList_inj, String.toList_append] using different

/-! ## Objects -/

/-- The object tells what the look-ups have found for a spelling. Its mark of an identifier agrees
with the line. -/
structure IsDescribedBy (c : Classification) (object : Json) : Prop where
  spelling : object.field? "spelling" = some (.string c.spelling)
  directive : object.field? "directive" = some (.ofText? (c.directive.map Kind.name))
  punctuation : object.field? "punctuation" = some (.ofText? (c.punctuation.map Kind.name))
  marker : object.field? "pseudo" = some (.ofText? (c.marker.map Marker.canonical))
  keyword : object.field? "keyword" = some .null ↔ c.keyword = none
  keyword_fields : ∀ kind, c.keyword = some kind → ∃ fields,
    object.field? "keyword" = some fields ∧ fields.field? "kind" = some (.string kind.name) ∧
      fields.field? "canonical" = some (.ofText? (Keyword.canonical? kind))
  identifier : object.field? "identifier" =
    some (.bool (c.line = c.spelling ++ ": identifier"))

theorem field?_keyword_json (c : Classification) :
    c.json.field? "keyword" = some ((c.keyword.map keywordJson).getD .null) :=
  Json.field?_ofFields _ _

theorem isDescribedBy_json (c : Classification) : c.IsDescribedBy c.json where
  spelling := Json.field?_ofFields _ _
  directive := Json.field?_ofFields _ _
  punctuation := Json.field?_ofFields _ _
  marker := Json.field?_ofFields _ _
  keyword := by
    cases keyword : c.keyword <;>
      simp [field?_keyword_json, keyword, keywordJson, Json.ofFields]
  keyword_fields kind found := by
    refine ⟨keywordJson kind, ?_, Json.field?_ofFields _ _, Json.field?_ofFields _ _⟩
    rw [field?_keyword_json, found]
    rfl
  identifier := by
    have field : c.json.field? "identifier" = some (.bool c.isIdentifier) :=
      Json.field?_ofFields _ _
    simpa only [line_eq_iff, Bool.decide_eq_true] using field

end Classification

end Lexicon
