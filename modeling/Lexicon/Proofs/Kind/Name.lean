import Mathlib.Data.List.Pairwise
import Lexicon.Kind.Name
import Lexicon.Proofs.Bytes
import Lexicon.Proofs.Kind.Table
import Lexicon.Proofs.Sorted

/-!
# Kinds by name and by code

Names and codes determine kinds, so each look-up is inverse to what it looks for. Names are made of
letters only.
-/

namespace Lexicon.Kind

variable {kind : Kind} {text : String} {code : Nat}

/-- What one kind at most has is found exactly in the kind that has it. -/
theorem find?_all_eq_some_iff {p : Kind → Bool} (unique : ∀ a b, p a → p b → a = b) :
    all.find? p = some kind ↔ p kind := by
  rw [Sorted.find?_eq_some_iff_of_unique fun a _ b _ => unique a b, and_iff_right kind.mem_all]

/-! ## Names -/

theorem name_injective : Function.Injective name := by
  have distinct : (all.map name).Nodup := Bytes.nodup_of_isChain (by decide +kernel)
  intro a b same
  exact List.inj_on_of_nodup_map distinct (mem_all a) (mem_all b) same

theorem ofName?_eq_some_iff : ofName? text = some kind ↔ text = kind.name := by
  rw [ofName?, find?_all_eq_some_iff fun a b ha hb => name_injective (by simp_all)]
  simp [eq_comm]

theorem ofName?_eq_none_iff : ofName? text = none ↔ ∀ kind : Kind, text ≠ kind.name := by
  simp only [Option.eq_none_iff_forall_ne_some, ne_eq, ofName?_eq_some_iff]

def isLetter (code : Nat) : Bool := (65 ≤ code && code ≤ 90) || (97 ≤ code && code ≤ 122)

/-- Each name has a character, and its characters are letters. -/
theorem forall_ofText_name : ∀ kind : Kind, Bytes.ofText kind.name ≠ [] ∧
    (Bytes.ofText kind.name).all fun byte => isLetter byte.toNat := by
  decide +kernel

theorem name_ne_empty (kind : Kind) : kind.name ≠ "" := by
  intro empty
  refine (forall_ofText_name kind).1 ?_
  rw [empty]
  rfl

theorem isLetter_of_mem_name {c : Char} (hc : c ∈ kind.name.toList) : isLetter c.toNat :=
  Bytes.forall_toList_of_all (fun n letter => by simp [isLetter] at letter; omega)
    (forall_ofText_name kind).2 c hc

theorem toNat_of_mem_name {c : Char} (hc : c ∈ kind.name.toList) :
    65 ≤ c.toNat ∧ c.toNat ≤ 122 := by
  have letter := isLetter_of_mem_name hc
  simp only [isLetter, Bool.or_eq_true, Bool.and_eq_true, decide_eq_true_eq] at letter
  omega

theorem tick_not_mem_name (kind : Kind) : '`' ∉ kind.name.toList := by
  intro mem
  exact absurd (isLetter_of_mem_name mem) (by decide)

/-! ## Codes -/

/-- No kind sorts after the last one of the table. -/
theorem code_le (kind : Kind) : kind.code ≤ removeAccessorDeclaration.code := by
  have ascending : (all.map code).Pairwise (· ≤ ·) := pairwise_map_code_all.imp Nat.le_of_lt
  exact ascending.rel_getLast (List.mem_map_of_mem kind.mem_all)

theorem ofCode?_eq_some_iff : ofCode? code = some kind ↔ kind.code = code := by
  have guides : Sorted.Guides (fun kind => compare kind.code code) all :=
    pairwise_all.imp fun {a b} less notLeft => by
      rw [Ne, compare_lt_iff_lt] at notLeft
      rw [compare_gt_iff_gt]
      grind
  rw [ofCode?, Sorted.search_eq_find? guides,
    find?_all_eq_some_iff fun a b ha hb => code_injective (by simp_all)]
  simp

theorem ofCode?_eq_none_iff : ofCode? code = none ↔ ∀ kind : Kind, kind.code ≠ code := by
  simp only [Option.eq_none_iff_forall_ne_some, ne_eq, ofCode?_eq_some_iff]

end Lexicon.Kind
