import Mathlib.Data.List.Induction
import Mathlib.Data.String.Basic
import Lexicon.Json.Basic

/-!
# Fields of objects

Fields are put into an object by name, so no name stands in it twice. A field that is looked up is
the last one of its name that was put in.
-/

namespace Lexicon.Json

variable {name other : String} {value : Json} {fields : List (String × Json)}

/-- The value of the only field of a name. -/
def field? (name : String) : Json → Option Json
  | object fields =>
    match fields.filter fun field => field.1 = name with
    | [(_, value)] => some value
    | _ => none
  | _ => none

theorem mem_insertField {field : String × Json} (mem : field ∈ insertField name value fields) :
    field = (name, value) ∨ field ∈ fields := by
  induction fields with
  | nil => grind [insertField]
  | cons first fields ih => grind [insertField]

/-- The names stay in ascending order. -/
theorem pairwise_insertField (sorted : fields.Pairwise (·.1 < ·.1)) :
    (insertField name value fields).Pairwise (·.1 < ·.1) := by
  induction fields with
  | nil => simp [insertField]
  | cons first fields ih =>
    obtain ⟨other, old⟩ := first
    obtain ⟨above, sorted⟩ := List.pairwise_cons.mp sorted
    unfold insertField
    split_ifs with less same
    · refine List.pairwise_cons.mpr ⟨fun field mem => ?_, List.pairwise_cons.mpr ⟨above, sorted⟩⟩
      rcases List.mem_cons.mp mem with rfl | mem
      · exact less
      · exact less.trans (above field mem)
    · exact List.pairwise_cons.mpr ⟨same ▸ above, sorted⟩
    · refine List.pairwise_cons.mpr ⟨fun field mem => ?_, ih sorted⟩
      rcases mem_insertField mem with rfl | mem
      · exact lt_of_le_of_ne (not_lt.mp less) (Ne.symm same)
      · exact above field mem

theorem filter_insertField_self (sorted : fields.Pairwise (·.1 < ·.1)) :
    (insertField name value fields).filter (·.1 = name) = [(name, value)] := by
  induction fields with
  | nil => simp [insertField]
  | cons first fields ih =>
    obtain ⟨other, old⟩ := first
    obtain ⟨above, sorted⟩ := List.pairwise_cons.mp sorted
    have others (bound : name ≤ other) : fields.filter (·.1 = name) = [] := by
      refine List.filter_eq_nil_iff.mpr fun field mem => ?_
      simpa using (bound.trans_lt (above field mem)).ne'
    unfold insertField
    split_ifs with less same
    · simp [less.ne', others less.le]
    · simp [others same.le]
    · simp [Ne.symm same, ih sorted]

theorem filter_insertField_of_ne (different : name ≠ other) :
    (insertField name value fields).filter (·.1 = other) = fields.filter (·.1 = other) := by
  induction fields with
  | nil => simp [insertField, different]
  | cons first fields ih => grind [insertField]

/-- Fields put in one after the other stand in order, and of each name there is the last one. -/
theorem foldl_insertField (fields : List (String × Json)) :
    (fields.foldl (fun sorted (name, value) => insertField name value sorted) []).Pairwise
      (·.1 < ·.1) ∧
    ∀ name, (fields.foldl (fun sorted (name, value) => insertField name value sorted) []).filter
      (·.1 = name) = ((fields.reverse.lookup name).map fun value => (name, value)).toList := by
  induction fields using List.reverseRecOn with
  | nil => simp
  | append_singleton fields field ih =>
    obtain ⟨other, value⟩ := field
    obtain ⟨sorted, ih⟩ := ih
    rw [List.foldl_append, List.reverse_append]
    refine ⟨pairwise_insertField sorted, fun name => ?_⟩
    by_cases same : name = other
    · subst same
      simp [filter_insertField_self sorted]
    · have unequal : (name == other) = false := by simpa using same
      simp [filter_insertField_of_ne (Ne.symm same), ih, List.lookup_cons, unequal]

/-- A field of an object is the last one of its name that the object was made of. -/
theorem field?_ofFields (name : String) (fields : List (String × Json)) :
    field? name (ofFields fields) = fields.reverse.lookup name := by
  rw [ofFields, field?, (foldl_insertField fields).2]
  cases fields.reverse.lookup name <;> rfl

end Lexicon.Json
