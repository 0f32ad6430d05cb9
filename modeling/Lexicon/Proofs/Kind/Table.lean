import Mathlib.Data.List.Nodup
import Mathlib.Data.List.Chain
import Lexicon.Kind.Basic

/-!
# The kind table

The table lists every kind once, in ascending order of code. Codes therefore determine kinds, and a
statement about all kinds is decided by the table.
-/

namespace Lexicon.Kind

theorem map_ctorIdx_all : all.map Kind.ctorIdx = List.range 324 := by decide +kernel

theorem ctorIdx_lt (kind : Kind) : kind.ctorIdx < 324 := by cases kind <;> decide

theorem ctorIdx_injective : Function.Injective Kind.ctorIdx :=
  Function.LeftInverse.injective ofNat_ctorIdx

/-- No kind is missing from the table. -/
@[simp] theorem mem_all (kind : Kind) : kind ∈ all := by
  have listed : kind.ctorIdx ∈ all.map Kind.ctorIdx := by
    rw [map_ctorIdx_all]
    exact List.mem_range.mpr kind.ctorIdx_lt
  obtain ⟨other, mem, same⟩ := List.mem_map.mp listed
  exact ctorIdx_injective same ▸ mem

theorem pairwise_map_code_all : (all.map code).Pairwise (· < ·) := by
  have neighbours : (all.map code).IsChain (· < ·) := by decide +kernel
  exact List.isChain_iff_pairwise.mp neighbours

theorem pairwise_all : all.Pairwise (· < ·) :=
  (List.pairwise_map.mp pairwise_map_code_all).imp lt_def.mpr

theorem code_injective : Function.Injective code := by
  have distinct : (all.map code).Nodup := pairwise_map_code_all.imp fun less => less.ne
  intro a b same
  exact List.inj_on_of_nodup_map distinct (mem_all a) (mem_all b) same

@[simp] theorem code_inj {a b : Kind} : a.code = b.code ↔ a = b := code_injective.eq_iff

instance (p : Kind → Prop) [DecidablePred p] : Decidable (∀ kind, p kind) :=
  decidable_of_iff (∀ kind ∈ all, p kind) (by simp)

/-- An ascending list of kinds is determined by its members. -/
theorem eq_of_pairwise_of_mem_iff {a b : List Kind} (ha : a.Pairwise (· < ·))
    (hb : b.Pairwise (· < ·)) (same : ∀ kind, kind ∈ a ↔ kind ∈ b) : a = b := by
  have distinct {l : List Kind} (ascending : l.Pairwise (· < ·)) : l.Nodup :=
    ascending.imp fun less => by grind
  refine List.Perm.eq_of_pairwise (fun x y _ _ less more => ?_) ha hb
    ((List.perm_ext_iff_of_nodup (distinct ha) (distinct hb)).mpr same)
  grind

/-- A code that belongs to a kind. -/
def Assigned (code : Nat) : Prop := ∃ kind : Kind, kind.code = code

end Lexicon.Kind
