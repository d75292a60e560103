import Mathlib.Data.List.Basic
import Mathlib.Tactic.SplitIfs

set_option autoImplicit false

namespace FleetSearch.Text

theorem lt_of_not_lt {a b : String} (no : ¬ a < b) (apart : a ≠ b) : b < a :=
  String.not_le.mp fun less => apart (String.le_antisymm less (String.not_lt.mp no))

def bytesOf (text : List Char) : List UInt8 :=
  (String.ofList text).toUTF8.data.toList

theorem bytesOf_eq (text : List Char) : bytesOf text = text.flatMap String.utf8EncodeChar := by
  rw [bytesOf, String.toUTF8_eq_toByteArray, String.toByteArray_ofList]
  exact List.toList_data_toByteArray

theorem encode_lt {c d : Char} (less : c < d) (more further : List UInt8) :
    String.utf8EncodeChar c ++ more < String.utf8EncodeChar d ++ further := by
  have less : c.val.toNat < d.val.toNat := UInt32.lt_iff_toNat_lt.mp less
  have wide : d.val.toNat < 0x110000 := by
    rcases d.valid with low | high
    · exact Nat.lt_of_lt_of_le low (by decide)
    · exact high.2
  have compare : ∀ (a b : Nat) (l m : List UInt8), a < 256 -> b < 256 ->
      (UInt8.ofNat a :: l < UInt8.ofNat b :: m ↔ a < b ∨ a = b ∧ l < m) := by
    intro a b l m small tiny
    rw [List.cons_lt_cons_iff, UInt8.lt_iff_toNat_lt, ← UInt8.toNat_inj, UInt8.toNat_ofNat',
      UInt8.toNat_ofNat', Nat.mod_eq_of_lt small, Nat.mod_eq_of_lt tiny]
  -- the digits to base 64 that make up the bytes
  have digits : ∀ v < 0x110000,
      v / 64 / 64 = v / 4096 ∧ v / 4096 / 64 = v / 262144 ∧ v / 262144 % 8 = v / 262144 := by
    intro v bound
    exact ⟨Nat.div_div_eq_div_mul .., Nat.div_div_eq_div_mul .., Nat.mod_eq_of_lt (by omega)⟩
  have own := digits c.val.toNat (by omega)
  have other := digits d.val.toNat wide
  unfold String.utf8EncodeChar
  simp only
  split_ifs <;> simp (disch := omega) only [List.cons_append, List.nil_append, compare] <;> omega

theorem bytesOf_lt {text later : List Char} (less : text < later) : bytesOf text < bytesOf later := by
  rw [bytesOf_eq, bytesOf_eq]
  induction less with
  | nil =>
    rename_i c rest
    obtain ⟨first, more, bytes⟩ := List.exists_cons_of_ne_nil (String.utf8EncodeChar_ne_nil (c := c))
    rw [List.flatMap_cons, bytes]
    exact List.Lex.nil
  | cons _ ih =>
    rw [List.flatMap_cons, List.flatMap_cons]
    exact List.append_left_lt ih
  | rel less =>
    rw [List.flatMap_cons, List.flatMap_cons]
    exact encode_lt less _ _

theorem bytesOf_lt_of_lt {text later : String} (less : text < later) :
    bytesOf text.toList < bytesOf later.toList :=
  bytesOf_lt less

end FleetSearch.Text
