import FleetSearch.Git.Layout
import Mathlib.Data.List.Basic

set_option autoImplicit false

namespace FleetSearch.Git

theorem toList_loop (bytes : ByteArray) (i : Nat) (read : List UInt8) :
    ByteArray.toList.loop bytes i read = read.reverse ++ bytes.data.toList.drop i := by
  induction i, read using ByteArray.toList.loop.induct bytes with
  | case1 i read more ih =>
    have inside : i < bytes.data.toList.length := by simpa using more
    have here : bytes.get! i = bytes.data.toList[i] := by
      rw [Array.getElem_toList]
      exact getElem!_pos bytes.data i more
    rw [ByteArray.toList.loop, if_pos more, ih, List.drop_eq_getElem_cons inside, here,
      List.reverse_cons, List.append_assoc, List.singleton_append]
  | case2 i read rest =>
    have outside : bytes.data.toList.length ≤ i := by simpa using rest
    rw [ByteArray.toList.loop, if_neg rest, List.drop_eq_nil_of_le outside, List.append_nil]

theorem toList_toByteArray (bytes : List UInt8) : bytes.toByteArray.toList = bytes := by
  rw [ByteArray.toList, toList_loop, List.reverse_nil, List.nil_append, List.drop_zero,
    List.data_toByteArray]

namespace Stream

def stored (data : List UInt8) : List UInt8 :=
  [0x78, 0x01, 0x01, data.length.toUInt8, (data.length / 256).toUInt8,
      (65535 - data.length).toUInt8, ((65535 - data.length) / 256).toUInt8]
    ++ data ++ Index.word32 (checksum data)

theorem word16_of_lt {n : Nat} (short : n < 65536) : word16 n.toUInt8 (n / 256).toUInt8 = n := by
  simp only [word16, Nat.toUInt8, UInt8.toNat_ofNat']
  omega

theorem bigEndian_word32 {n : Nat} (short : n < 4294967296) : bigEndian (Index.word32 n) = n := by
  simp only [bigEndian, Index.word32, List.map, List.foldl, Nat.toUInt8, UInt8.toNat_ofNat']
  omega

theorem checksum_lt (data : List UInt8) : checksum data < 4294967296 := by
  have sums : ∀ (data : List UInt8) (a b : Nat), a < checksumBase -> b < checksumBase ->
      ∀ p, data.foldl (fun sums byte =>
        let a := (sums.1 + byte.toNat) % checksumBase
        (a, (sums.2 + a) % checksumBase)) (a, b) = p -> p.1 < checksumBase ∧ p.2 < checksumBase := by
    intro data
    induction data with
    | nil =>
      rintro a b left right p rfl
      exact ⟨left, right⟩
    | cons byte rest ih =>
      intro a b left right p same
      exact ih _ _ (Nat.mod_lt _ (by decide)) (Nat.mod_lt _ (by decide)) p same
  unfold checksum
  generalize same : data.foldl _ (1, 0) = p
  obtain ⟨left, right⟩ := sums data 1 0 (by decide) (by decide) p same
  unfold checksumBase at left right
  simp only
  omega

theorem blocks_stored {data rest : List UInt8} (short : data.length < 65536) (fuel : Nat) :
    blocks (fuel + 1) (0x01 :: data.length.toUInt8 :: (data.length / 256).toUInt8 ::
      (65535 - data.length).toUInt8 :: ((65535 - data.length) / 256).toUInt8 :: (data ++ rest)) =
        some (data, rest) := by
  have length := word16_of_lt short
  have complement := word16_of_lt (n := 65535 - data.length) (by omega)
  have sum : data.length + (65535 - data.length) = 65535 := by omega
  simp [blocks, length, complement, sum]

theorem unpack_stored {data : List UInt8} (short : data.length < 65536) :
    unpack (stored data) = some data := by
  have sum := bigEndian_word32 (checksum_lt data)
  have whole : (Index.word32 (checksum data)).take 4 = Index.word32 (checksum data) := rfl
  simp only [stored, unpack, List.cons_append, List.nil_append]
  rw [if_neg (by decide), List.length_cons, blocks_stored short]
  simp only [whole, sum, if_true]

end Stream

theorem decodeFrom_plain {cs : List Char} (plain : ∀ c ∈ cs, c.val ≤ 127) :
    Text.Utf8.decodeFrom none (cs.flatMap String.utf8EncodeChar) = cs := by
  induction cs with
  | nil => rfl
  | cons c rest ih =>
    have small : c.toNat ≤ 127 := plain c List.mem_cons_self
    have one := String.utf8EncodeChar_eq_singleton (Char.utf8Size_eq_one_iff.mpr small)
    have byte : c.val.toUInt8.toNat = c.toNat := by
      rw [UInt32.toNat_toUInt8]
      exact Nat.mod_eq_of_lt (Nat.lt_of_le_of_lt small (by decide))
    have first : Text.Utf8.first c.toNat = ([c], none) := by
      rw [Text.Utf8.first, if_pos (show c.toNat < 0x80 by omega), Char.ofNat_toNat]
    rw [List.flatMap_cons, one, List.singleton_append, Text.Utf8.decodeFrom]
    simp only [byte, first]
    rw [ih fun other member => plain other (List.mem_cons_of_mem _ member), List.singleton_append]

theorem textOf_plain {text : String}
    (plain : (text.toList.all fun c => c.val ≤ 127) = true) :
    textOf text.toUTF8 = text.toList := by
  have bytes : (String.ofList text.toList).toUTF8.toList =
      text.toList.flatMap String.utf8EncodeChar :=
    toList_toByteArray _
  rw [String.ofList_toList] at bytes
  rw [textOf, bytes, Text.Utf8.decode, String.toList_ofList, decodeFrom_plain (by simpa using plain)]

end FleetSearch.Git
