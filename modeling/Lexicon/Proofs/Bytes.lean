import Mathlib.Data.List.Sort
import Mathlib.Data.List.Nodup

/-!
# Texts as bytes

The kernel evaluates the bytes of a text that is written out far quicker than its characters, and it
compares numbers far quicker than texts. So what holds of each text in a long table is read off the
bytes.

## Main statements

* `Bytes.nodup_of_isChain`: texts whose bytes make different numbers differ.
* `Bytes.forall_toList_of_all`: a text with ASCII bytes only has those bytes for characters.
-/

namespace Lexicon.Bytes

def ofText (text : String) : List UInt8 := text.toByteArray.data.toList

/-- The bytes of a text as the digits of one number. -/
def key (text : String) : Nat :=
  (ofText text).foldl (fun number byte => number * 256 + byte.toNat) 0

theorem nodup_of_isChain {texts : List String}
    (ascending : ((texts.map key).insertionSort (· ≤ ·)).IsChain (· < ·)) : texts.Nodup := by
  have distinct := (List.isChain_iff_pairwise.mp ascending).imp fun less => Nat.ne_of_lt less
  exact List.Nodup.of_map key ((List.perm_insertionSort _ _).nodup_iff.mp distinct)

theorem ofText_eq_flatMap (text : String) :
    ofText text = text.toList.flatMap String.utf8EncodeChar := by
  conv_lhs => rw [ofText, ← String.ofList_toList (s := text), String.toByteArray_ofList]
  simp [List.utf8Encode]

/-- The first byte of a character is the character itself, unless it is no ASCII byte. -/
theorem exists_mem_utf8EncodeChar (c : Char) :
    ∃ byte ∈ String.utf8EncodeChar c, byte.toNat < 128 → c.toNat = byte.toNat := by
  have code : c.val.toNat = c.toNat := rfl
  rw [String.utf8EncodeChar]
  split_ifs <;> refine ⟨_, List.mem_cons_self, fun ascii => ?_⟩ <;>
    rw [UInt8.toNat_ofNat'] at ascii ⊢ <;> omega

/-- What holds of the bytes of an ASCII text holds of its characters. The hypothesis is a run over
the bytes, as a quantifier over them may be decided by trying all values of a byte. -/
theorem forall_toList_of_all {p : Nat → Bool} (ascii : ∀ n, p n → n < 128) {text : String}
    (holds : (ofText text).all fun byte => p byte.toNat) : ∀ c ∈ text.toList, p c.toNat := by
  intro c hc
  obtain ⟨byte, mem, same⟩ := exists_mem_utf8EncodeChar c
  rw [ofText_eq_flatMap, List.all_eq_true] at holds
  have small := holds byte (List.mem_flatMap.mpr ⟨c, hc, mem⟩)
  rwa [same (ascii _ small)]

end Lexicon.Bytes
