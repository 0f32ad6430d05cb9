import Lexicon.Kind.Family
import Lexicon.Proofs.Bytes
import Lexicon.Proofs.Kind.Table

/-!
# The block of a kind

The blocks share no code, so the category of a kind is the one category whose block holds it. The
names of the categories are single words.
-/

namespace Lexicon

namespace Category

theorem mem_all (category : Category) : category ∈ all := by cases category <;> decide

theorem name_injective : Function.Injective name := by
  have distinct : (all.map name).Nodup := Bytes.nodup_of_isChain (by decide +kernel)
  intro a b same
  exact List.inj_on_of_nodup_map distinct (mem_all a) (mem_all b) same

theorem blank_not_mem_name (category : Category) : ' ' ∉ category.name.toList := by
  have visible : (Bytes.ofText category.name).all fun byte =>
      33 ≤ byte.toNat && byte.toNat < 128 := by
    cases category <;> rfl
  intro mem
  have bounds := Bytes.forall_toList_of_all (p := fun n => 33 ≤ n && n < 128)
    (fun n bounds => by simp at bounds; omega) visible ' ' mem
  simp at bounds

/-- Of two blocks one ends before the other starts. -/
theorem bounds_apart {a b : Category} (different : a ≠ b) :
    a.bounds.last < b.bounds.first ∨ b.bounds.last < a.bounds.first := by
  have apart : ∀ a ∈ all, ∀ b ∈ all,
      a ≠ b → a.bounds.last < b.bounds.first ∨ b.bounds.last < a.bounds.first := by
    decide
  exact apart a a.mem_all b b.mem_all different

theorem eq_of_mem_bounds {a b : Category} {kind : Kind} (ha : kind ∈ a.bounds)
    (hb : kind ∈ b.bounds) : a = b := by
  by_contra different
  rcases bounds_apart different with less | less <;> grind

end Category

theorem Kind.category?_eq_some_iff {kind : Kind} {category : Category} :
    kind.category? = some category ↔ kind ∈ category.bounds := by
  constructor
  · intro found
    simpa using List.find?_some found
  · intro mem
    cases found : kind.category? with
    | none => simpa [mem] using List.find?_eq_none.mp found category category.mem_all
    | some other =>
      have other_mem : kind ∈ other.bounds := by simpa using List.find?_some found
      rw [Category.eq_of_mem_bounds mem other_mem]

end Lexicon
