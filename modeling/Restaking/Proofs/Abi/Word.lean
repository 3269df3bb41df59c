import Mathlib.Algebra.Group.Nat.Defs
import Restaking.Abi.Decoding

/-!
# Reading back single words and byte strings

What stands at the front of the data is read back whatever follows it. A word holds a number below 2^256;
a byte string is behind its length, which is such a number.
-/
namespace Restaking.Abi

theorem length_natWord (n : Nat) : (natWord n).length = 32 := by
  rw [natWord, List.length_map, List.length_range]

theorem natOfBytes_append_singleton (bs : List UInt8) (b : UInt8) :
    natOfBytes (bs ++ [b]) = 256 * natOfBytes bs + b.toNat := by
  rw [natOfBytes, natOfBytes, List.foldl_append, List.foldl_cons, List.foldl_nil]

/-- The last `k` digits of a number to the base 256 spell the number up to its multiples of 256^k. -/
theorem natOfBytes_digits (k n : Nat) :
    natOfBytes ((List.range k).map fun i => UInt8.ofNat (n / 256 ^ (k - 1 - i))) = n % 256 ^ k := by
  induction k generalizing n with
  | zero => rw [Nat.pow_zero, Nat.mod_one]; rfl
  | succ k ih =>
    have hfirst : (List.range k).map (fun i => UInt8.ofNat (n / 256 ^ (k + 1 - 1 - i))) =
        (List.range k).map fun i => UInt8.ofNat (n / 256 / 256 ^ (k - 1 - i)) := by
      refine List.map_congr_left fun i hi => ?_
      have hi := List.mem_range.1 hi
      rw [show k + 1 - 1 - i = k - 1 - i + 1 by omega, Nat.pow_succ', Nat.div_div_eq_div_mul]
    rw [List.range_succ, List.map_append, hfirst, List.map_singleton, natOfBytes_append_singleton, ih]
    have hpow : 256 ^ (k + 1) = 256 * 256 ^ k := Nat.pow_succ'
    rw [show k + 1 - 1 - k = 0 by omega, Nat.pow_zero, Nat.div_one, UInt8.toNat_ofNat', hpow, Nat.mod_mul]
    exact Nat.add_comm _ _

theorem natOfBytes_natWord {n : Nat} (h : n < 2 ^ 256) : natOfBytes (natWord n) = n := by
  have hn := natOfBytes_digits 32 n
  rw [Nat.mod_eq_of_lt (by simpa using h)] at hn
  exact hn

theorem take32?_append {bs : List UInt8} (h : bs.length = 32) (rest : List UInt8) :
    take32? (bs ++ rest) = some bs := by
  have htake : (bs ++ rest).take 32 = bs := by rw [← h, List.take_left]
  rw [take32?, htake, if_pos h]

theorem readNat?_natWord {n : Nat} (h : n < 2 ^ 256) (rest : List UInt8) :
    readNat? (natWord n ++ rest) = some n := by
  rw [readNat?, take32?_append (length_natWord n), Option.map_some, natOfBytes_natWord h]

theorem drop_natWord (n : Nat) (rest : List UInt8) : (natWord n ++ rest).drop 32 = rest := by
  rw [← length_natWord n, List.drop_left]

theorem readWord?_append (w : Word) (rest : List UInt8) : readWord? (w.bytes ++ rest) = some w := by
  have htake : (w.bytes ++ rest).take 32 = w.bytes := by rw [← w.length_eq, List.take_left]
  simp only [readWord?, htake, w.length_eq, dif_pos]

theorem readAddress?_append (a : Address) (rest : List UInt8) :
    readAddress? (List.replicate 12 0 ++ a.bytes ++ rest) = some a := by
  have hlength : (List.replicate 12 (0 : UInt8) ++ a.bytes).length = 32 := by
    rw [List.length_append, List.length_replicate, a.length_eq]
  rw [readAddress?, take32?_append hlength]
  have htake : (List.replicate 12 (0 : UInt8) ++ a.bytes).take 12 = List.replicate 12 0 := rfl
  have hdrop : (List.replicate 12 (0 : UInt8) ++ a.bytes).drop 12 = a.bytes := rfl
  simp only [htake, hdrop, Address.ofBytes?, a.length_eq, dif_pos]
  rfl

theorem length_padRight (bs : List UInt8) :
    (padRight bs).length = bs.length + (32 - bs.length % 32) % 32 := by
  rw [padRight, List.length_append, List.length_replicate]

/-- A byte string reads back, whatever follows its padding. -/
theorem readBytes?_append {bs : List UInt8} (h : bs.length < 2 ^ 256) (rest : List UInt8) :
    readBytes? (lengthPrefixed bs ++ rest) = some bs := by
  have hbody : (padRight bs ++ rest).length ≥ bs.length + (32 - bs.length % 32) % 32 := by
    rw [List.length_append, length_padRight]
    omega
  have hpadded : (padRight bs ++ rest).take (bs.length + (32 - bs.length % 32) % 32) = padRight bs := by
    rw [← length_padRight, List.take_left]
  have hpadding : (padRight bs).drop bs.length = List.replicate ((32 - bs.length % 32) % 32) 0 := by
    rw [padRight, List.drop_left]
  have hvalue : (padRight bs ++ rest).take bs.length = bs := by
    rw [padRight, List.append_assoc, List.take_left]
  rw [lengthPrefixed, List.append_assoc, readBytes?, readNat?_natWord h]
  simp only [Option.bind_eq_bind, Option.bind_some, drop_natWord, hpadded, hpadding, hvalue]
  rw [if_neg (by omega), if_pos (by simp)]

theorem toList_loop (bs : ByteArray) (i : Nat) (acc : List UInt8) :
    ByteArray.toList.loop bs i acc = acc.reverse ++ bs.data.toList.drop i := by
  fun_induction ByteArray.toList.loop bs i acc with
  | case1 i acc h ih =>
    have hi : i < bs.data.toList.length := by simpa using h
    have hget : bs.get! i = bs.data.toList[i] := by
      rw [Array.getElem_toList]
      exact getElem!_pos bs.data i (by simpa using h)
    rw [ih, List.drop_eq_getElem_cons hi, List.reverse_cons, List.append_assoc, hget]
    rfl
  | case2 i acc h => rw [List.drop_eq_nil_of_le (by simpa using h), List.append_nil]

/-- A text reads back from its bytes. -/
theorem fromUTF8?_toUTF8 (s : String) : String.fromUTF8? ⟨s.toUTF8.toList.toArray⟩ = some s := by
  have hbytes : s.toUTF8.toList = s.toUTF8.data.toList := by
    rw [ByteArray.toList, toList_loop]
    rfl
  rw [hbytes, Array.toArray_toList]
  exact dif_pos s.isValidUTF8

end Restaking.Abi
