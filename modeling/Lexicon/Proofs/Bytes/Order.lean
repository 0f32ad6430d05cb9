import Mathlib.Data.String.Basic
import Lexicon.Proofs.Bytes

/-!
# Texts in the order of their bytes

A character with more bytes starts with a larger byte, and the bytes of a character hold the digits
of its code, the highest ones first. So to compare two texts byte by byte is to compare them
character by character.
-/

namespace Lexicon.Bytes

theorem compare_cons_eq_lt_iff {m n : Nat} (hm : m < 256) (hn : n < 256) {rest other : List UInt8} :
    compare (UInt8.ofNat m :: rest) (UInt8.ofNat n :: other) = .lt ↔
      m < n ∨ m = n ∧ compare rest other = .lt := by
  rw [List.compare_cons_cons, Ordering.then_eq_lt, UInt8.compare_eq_toNat_compare_toNat,
    Nat.compare_eq_lt, Nat.compare_eq_eq, UInt8.toNat_ofNat_of_lt' hm, UInt8.toNat_ofNat_of_lt' hn]

theorem compare_append_left (front rest other : List UInt8) :
    compare (front ++ rest) (front ++ other) = compare rest other := by
  induction front with
  | nil => rfl
  | cons byte front ih =>
    rw [List.cons_append, List.cons_append, List.compare_cons_cons, Std.ReflOrd.compare_self, ih,
      Ordering.eq_then]

/-- The bytes of different characters differ before the shorter ones end, so what stands behind them
does not matter. -/
theorem compare_utf8EncodeChar_of_lt {c d : Char} (less : c < d) (rest other : List UInt8) :
    compare (String.utf8EncodeChar c ++ rest) (String.utf8EncodeChar d ++ other) = .lt := by
  have codes : c.val.toNat < d.val.toNat := UInt32.lt_iff_toNat_lt.mp less
  have bound : d.val.toNat < 1114112 := by
    have valid : d.val.toNat < 55296 ∨ 57343 < d.val.toNat ∧ d.val.toNat < 1114112 := d.valid
    omega
  rw [String.utf8EncodeChar, String.utf8EncodeChar]
  generalize c.val.toNat = v at *
  generalize d.val.toNat = w at *
  -- Each byte behind the first one is a digit to the base 64.
  have third (n : Nat) : n / 4096 = n / 64 / 64 := by omega
  have fourth (n : Nat) : n / 262144 = n / 64 / 64 / 64 := by omega
  simp only [third, fourth]
  split_ifs <;> simp (disch := omega) only [List.cons_append, compare_cons_eq_lt_iff] <;> omega

theorem compare_flatMap_of_lt {front text : List Char} (less : front < text) :
    compare (front.flatMap String.utf8EncodeChar) (text.flatMap String.utf8EncodeChar) = .lt := by
  induction less with
  | @nil c text =>
    obtain ⟨byte, rest, bytes⟩ := List.exists_cons_of_ne_nil (String.utf8EncodeChar_ne_nil (c := c))
    rw [List.flatMap_nil, List.flatMap_cons, bytes]
    rfl
  | rel less => exact compare_utf8EncodeChar_of_lt less _ _
  | cons _ ih => rw [List.flatMap_cons, List.flatMap_cons, compare_append_left, ih]

/-- Texts are in the order of their bytes. -/
theorem compare_ofText (text other : String) :
    compare (ofText text) (ofText other) = compare text other := by
  have before {text other : String} (less : text < other) :
      compare (ofText text) (ofText other) = .lt := by
    rw [ofText_eq_flatMap, ofText_eq_flatMap]
    exact compare_flatMap_of_lt (String.lt_iff_toList_lt.mp less)
  rcases lt_trichotomy text other with less | rfl | more
  · rw [before less, compare_lt_iff_lt.mpr less]
  · rw [Std.ReflOrd.compare_self, compare_eq_iff_eq.mpr rfl]
  · rw [Std.OrientedOrd.eq_swap, before more, Ordering.swap_lt, compare_gt_iff_gt.mpr more]

end Lexicon.Bytes
