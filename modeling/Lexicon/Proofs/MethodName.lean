import Mathlib.Data.List.Nodup
import Lexicon.MethodName
import Lexicon.Proofs.Bytes.Order
import Lexicon.Proofs.Sorted

/-!
# Looking up method names

The method names are sorted byte by byte, so any name is looked up rightly: it is found exactly if
it is one of the well-known names. No two names belong to one token in the same fixity, so looking a
token up leads back to the name that leads to it.

## Main statements

* `MethodName.find?_eq_some_iff`: what looking a name up finds.
* `MethodName.ofToken?_eq_some_iff`: what looking a token up finds.
* `MethodName.lookups_agree`: both, and that each undoes the other.
-/

namespace Lexicon

namespace MethodName

variable {name : String} {token : Kind} {fixity : Fixity} {method : MethodName}

/-! ## Names -/

theorem pairwise_name_lt : all.Pairwise (·.name < ·.name) := by
  have neighbours : (all.map (·.name)).IsChain (· < ·) := by decide
  exact List.pairwise_map.mp (List.isChain_iff_pairwise.mp neighbours)

theorem find?_eq_find? (name : String) : find? name = all.find? (·.name = name) := by
  have guides : Sorted.Guides (fun method => compare method.name name) all :=
    pairwise_name_lt.imp fun {a b} less notLeft => by
      rw [compare_gt_iff_gt]
      rw [Ne, compare_lt_iff_lt, not_lt] at notLeft
      exact notLeft.trans_lt less
  rw [find?, Sorted.search_eq_find? guides]
  simp

theorem find?_eq_none_iff {name : String} : find? name = none ↔ name ∉ all.map (·.name) := by
  simp [find?_eq_find?]

theorem find?_eq_some_iff : find? name = some method ↔ method ∈ all ∧ method.name = name := by
  have distinct : (all.map (·.name)).Nodup :=
    List.pairwise_map.mpr (pairwise_name_lt.imp fun less => less.ne)
  rw [find?_eq_find?, Sorted.find?_eq_some_iff_of_unique fun a ha b hb own also =>
    List.inj_on_of_nodup_map distinct ha hb (by simp_all)]
  simp

/-- The order by which the table is searched is that of the bytes. -/
theorem find?_eq_search_bytes (name : String) : find? name =
    Sorted.search (fun method => compare (Bytes.ofText method.name) (Bytes.ofText name)) all := by
  simp only [find?, Bytes.compare_ofText]

/-! ## Tokens -/

theorem token?_eq_some_iff :
    token? name = some token ↔ ∃ method, find? name = some method ∧ method.token = some token :=
  Option.bind_eq_some_iff

/-- A token has one name at most in each fixity. -/
theorem eq_of_declared {other : MethodName} (mem : method ∈ all) (listed : other ∈ all)
    (own : method.token = some token ∧ method.fixity = fixity)
    (also : other.token = some token ∧ other.fixity = fixity) : method = other := by
  have distinct : ((all.filter (·.token.isSome)).map fun method =>
      (method.token, method.fixity)).Nodup := by decide
  refine List.inj_on_of_nodup_map distinct ?_ ?_ ?_
  · simp [mem, own]
  · simp [listed, also]
  · simp [own, also]

theorem ofToken?_eq_some_iff : ofToken? token fixity = some name ↔
    ∃ method, find? name = some method ∧ method.token = some token ∧ method.fixity = fixity := by
  have unique : ∀ a ∈ all, ∀ b ∈ all,
      decide (a.token = some token ∧ a.fixity = fixity) →
      decide (b.token = some token ∧ b.fixity = fixity) → a = b := fun a ha b hb own also =>
    eq_of_declared ha hb (of_decide_eq_true own) (of_decide_eq_true also)
  simp only [ofToken?, Option.map_eq_some_iff, Sorted.find?_eq_some_iff_of_unique unique,
    decide_eq_true_eq, find?_eq_some_iff]
  constructor
  · rintro ⟨method, ⟨mem, declared⟩, own⟩
    exact ⟨method, ⟨mem, own⟩, declared⟩
  · rintro ⟨method, ⟨mem, own⟩, declared⟩
    exact ⟨method, ⟨mem, declared⟩, own⟩

/-- A name that a token leads to leads back to the token. -/
theorem token?_eq_of_ofToken?_eq (declares : ofToken? token fixity = some name) :
    token? name = some token := by
  obtain ⟨method, found, declared, -⟩ := ofToken?_eq_some_iff.mp declares
  exact token?_eq_some_iff.mpr ⟨method, found, declared⟩

/-- Looking a name up halves the table in the order of the bytes and finds what going through the
table would find, the one entry of that name. Looking a token up finds the name whose entry has the
token and the fixity. So this name leads back to the token, and a name without one is not found. -/
theorem lookups_agree (name : String) (token : Kind) (fixity : Fixity) :
    find? name = Sorted.search
      (fun method => compare (Bytes.ofText method.name) (Bytes.ofText name)) all ∧
    find? name = all.find? (·.name = name) ∧
    (∀ method, find? name = some method ↔ method ∈ all ∧ method.name = name) ∧
    (find? name = none ↔ ∀ method ∈ all, method.name ≠ name) ∧
    (ofToken? token fixity = some name ↔
      ∃ method, find? name = some method ∧ method.token = some token ∧ method.fixity = fixity) ∧
    (ofToken? token fixity = some name → token? name = some token) ∧
    (token? name = none → ofToken? token fixity ≠ some name) := by
  refine ⟨find?_eq_search_bytes name, find?_eq_find? name, fun method => find?_eq_some_iff, ?_,
    ofToken?_eq_some_iff, token?_eq_of_ofToken?_eq, fun undeclared declares => ?_⟩
  · simp [find?_eq_none_iff]
  · rw [token?_eq_of_ofToken?_eq declares] at undeclared
    cases undeclared

/-- A token with two names, and a name that no token has. -/
theorem lookups_agree_minus :
    ofToken? .minusToken .unary = some "op_UnaryNegation" ∧
      token? "op_UnaryNegation" = some .minusToken ∧
      token? "op_Like" = none ∧ ofToken? .minusToken .unary ≠ some "op_Like" := by
  obtain ⟨-, -, -, -, -, back, -⟩ := lookups_agree "op_UnaryNegation" .minusToken .unary
  obtain ⟨-, -, finds, -, -, -, never⟩ := lookups_agree "op_Like" .minusToken .unary
  have found : ofToken? .minusToken .unary = some "op_UnaryNegation" := by decide
  have listed : find? "op_Like" = some ⟨"op_Like", none, .binary⟩ :=
    (finds _).mpr ⟨by simp [all], rfl⟩
  have bare : token? "op_Like" = none := by rw [token?, listed]; rfl
  exact ⟨found, back found, bare, never bare⟩

end MethodName

end Lexicon
