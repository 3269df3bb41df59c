import Mathlib.Data.List.Induction
import Restaking.Proofs.Abi.Accepted

/-!
# Types of fixed length

Strict decoding of a type without byte strings and arrays inverts encoding: what is decoded stands in front of
the data in its own encoding, padding included. Types of variable length are not considered, since an offset
may lead anywhere.
-/
namespace Restaking.Abi

open AbiType

/-! ## Words -/

/-- Bytes are the digits to the base 256 of the number that they spell. -/
theorem digits_natOfBytes (bs : List UInt8) :
    ((List.range bs.length).map fun i => UInt8.ofNat (natOfBytes bs / 256 ^ (bs.length - 1 - i))) = bs := by
  induction bs using List.reverseRecOn with
  | nil => rfl
  | append_singleton bs b ih =>
    have hb : b.toNat < 256 := b.toNat_lt
    have hshift (i : Nat) (hi : i < bs.length) :
        natOfBytes (bs ++ [b]) / 256 ^ (bs.length + 1 - 1 - i) =
          natOfBytes bs / 256 ^ (bs.length - 1 - i) := by
      have hexponent : bs.length + 1 - 1 - i = bs.length - 1 - i + 1 := by omega
      have hdiv : (256 * natOfBytes bs + b.toNat) / 256 = natOfBytes bs := by omega
      rw [natOfBytes_append_singleton, hexponent, Nat.pow_succ', ← Nat.div_div_eq_div_mul, hdiv]
    have hfirst : ((List.range bs.length).map fun i =>
        UInt8.ofNat (natOfBytes (bs ++ [b]) / 256 ^ (bs.length + 1 - 1 - i))) =
          (List.range bs.length).map fun i => UInt8.ofNat (natOfBytes bs / 256 ^ (bs.length - 1 - i)) :=
      List.map_congr_left fun i hi => by rw [hshift i (List.mem_range.1 hi)]
    have hlast : UInt8.ofNat (natOfBytes (bs ++ [b])) = b := by
      rw [natOfBytes_append_singleton, ← UInt8.toNat_inj, UInt8.toNat_ofNat']
      omega
    have hzero : bs.length + 1 - 1 - bs.length = 0 := by omega
    rw [List.length_append, List.length_singleton, List.range_succ, List.map_append, hfirst, ih,
      List.map_singleton, hzero, Nat.pow_zero, Nat.div_one, hlast]

theorem natWord_natOfBytes {bs : List UInt8} (h : bs.length = 32) : natWord (natOfBytes bs) = bs := by
  have hdigits := digits_natOfBytes bs
  rw [h] at hdigits
  exact hdigits

theorem natOfBytes_lt (bs : List UInt8) : natOfBytes bs < 256 ^ bs.length := by
  induction bs using List.reverseRecOn with
  | nil => decide
  | append_singleton bs b ih =>
    have hb : b.toNat < 256 := b.toNat_lt
    rw [natOfBytes_append_singleton, List.length_append, List.length_singleton, Nat.pow_succ]
    omega

theorem take32?_eq_some {data bs : List UInt8} (h : take32? data = some bs) :
    bs.length = 32 ∧ ∃ rest, data = bs ++ rest := by
  unfold take32? at h
  dsimp only at h
  split at h
  · rename_i hlength
    cases h
    exact ⟨hlength, data.drop 32, (List.take_append_drop 32 data).symm⟩
  · cases h

theorem readNat?_eq_some {data : List UInt8} {n : Nat} (h : readNat? data = some n) :
    n < 2 ^ 256 ∧ ∃ rest, data = natWord n ++ rest := by
  obtain ⟨bs, hbs, rfl⟩ := Option.map_eq_some_iff.1 h
  obtain ⟨hlength, rest, hdata⟩ := take32?_eq_some hbs
  have hlt := natOfBytes_lt bs
  rw [hlength] at hlt
  refine ⟨lt_of_lt_of_eq hlt (by decide), rest, ?_⟩
  rw [natWord_natOfBytes hlength, hdata]

theorem readWord?_eq_some {data : List UInt8} {w : Word} (h : readWord? data = some w) :
    ∃ rest, data = w.bytes ++ rest := by
  unfold readWord? at h
  dsimp only at h
  split at h
  · cases h
    exact ⟨data.drop 32, (List.take_append_drop 32 data).symm⟩
  · cases h

theorem readAddress?_eq_some {data : List UInt8} {a : Address} (h : readAddress? data = some a) :
    ∃ rest, data = List.replicate 12 0 ++ a.bytes ++ rest := by
  unfold readAddress? at h
  cases hbs : take32? data with
  | none => simp [hbs] at h
  | some bs =>
    obtain ⟨hlength, rest, hdata⟩ := take32?_eq_some hbs
    simp only [hbs] at h
    split at h
    · rename_i hzeros
      have hpadding : bs.take 12 = List.replicate 12 0 := by
        refine List.eq_replicate_iff.2 ⟨by rw [List.length_take]; omega, fun b hb => ?_⟩
        exact eq_of_beq (List.all_eq_true.1 hzeros b hb)
      unfold Address.ofBytes? at h
      split at h
      · cases h
        exact ⟨rest, by rw [hdata, ← hpadding, List.take_append_drop]⟩
      · cases h
    · cases h

/-! ## Values -/

namespace AbiType

/-- The encodings of values of fixed length follow each other. -/
theorem heads_static {components : List (String × AbiType)} {xs : List AbiValue}
    (hstatic : anyDynamic components = false) (h : AdmitsMembers components xs) (offset : Nat) :
    (AbiValue.tuple xs).encode = Part.heads offset (AbiValue.parts xs) := by
  have hmembers := members_of_admits components xs h
  have hnone : AbiValue.anyDynamic xs = false := hmembers.anyDynamic_eq.trans hstatic
  have hoffset (n m : Nat) : Part.heads n (AbiValue.parts xs) = Part.heads m (AbiValue.parts xs) := by
    clear hmembers h
    induction xs with
    | nil => rfl
    | cons x xs ih =>
      rw [AbiValue.anyDynamic, Bool.or_eq_false_iff] at hnone
      rw [AbiValue.parts, hnone.1, Part.heads_cons_static, Part.heads_cons_static, ih hnone.2]
  -- An offset is only written for a member of variable length, so any offset will do.
  rw [AbiValue.encode_tuple, Part.assemble, tails_of_static hnone, List.append_nil]
  exact hoffset _ _

mutual

theorem encode_of_decode? : (t : AbiType) → t.standard = true → t.isDynamic = false →
    (data : List UInt8) → (x : AbiValue) → t.decode? data = some x →
    t.Admits x ∧ ∃ rest, data = x.encode ++ rest
  | .uint bits, ht, _, data, x, h => by
    rw [decode?] at h
    cases hn : readNat? data with
    | none => simp [hn] at h
    | some n =>
      simp only [hn] at h
      split at h
      · rename_i hlt
        cases h
        exact ⟨⟨by simpa [standard] using ht, hlt⟩, (readNat?_eq_some hn).2⟩
      · cases h
  | .address contract, _, _, data, x, h => by
    rw [decode?] at h
    obtain ⟨a, ha, rfl⟩ := Option.map_eq_some_iff.1 h
    exact ⟨trivial, readAddress?_eq_some ha⟩
  | .bool, _, _, data, x, h => by
    rw [decode?] at h
    split at h
    · rename_i hn
      cases h
      exact ⟨trivial, (readNat?_eq_some hn).2⟩
    · rename_i hn
      cases h
      exact ⟨trivial, (readNat?_eq_some hn).2⟩
    · cases h
  | .word, _, _, data, x, h => by
    rw [decode?] at h
    obtain ⟨w, hw, rfl⟩ := Option.map_eq_some_iff.1 h
    exact ⟨trivial, readWord?_eq_some hw⟩
  | .bytes, _, hd, _, _, _ => by cases hd
  | .string, _, hd, _, _, _ => by cases hd
  | .array _, _, hd, _, _, _ => by cases hd
  | .tuple struct components, ht, hd, data, x, h => by
    rw [decode?_tuple] at h
    obtain ⟨xs, hxs, rfl⟩ := Option.map_eq_some_iff.1 h
    have hstatic : anyDynamic components = false := by simpa [isDynamic] using hd
    obtain ⟨hadmits, rest, hdata⟩ := heads_of_decodeMembers? components ht hstatic data 0 xs hxs 0
    refine ⟨hadmits, rest, ?_⟩
    rw [heads_static hstatic hadmits 0, ← hdata, List.drop_zero]

theorem heads_of_decodeMembers? : (components : List (String × AbiType)) →
    membersStandard components = true → anyDynamic components = false → (frame : List UInt8) →
    (position : Nat) → (xs : List AbiValue) → decodeMembers? components frame position = some xs →
    (offset : Nat) → AdmitsMembers components xs ∧
      ∃ rest, frame.drop position = Part.heads offset (AbiValue.parts xs) ++ rest
  | [], _, _, frame, position, xs, h, offset => by
    cases h
    exact ⟨trivial, _, rfl⟩
  | (_, t) :: rest, ht, hd, frame, position, xs, h, offset => by
    rw [membersStandard, Bool.and_eq_true] at ht
    rw [anyDynamic, Bool.or_eq_false_iff] at hd
    rw [decodeMembers?, hd.1, member?, if_neg (by decide)] at h
    cases hx : t.decode? (frame.drop position) with
    | none => simp [hx] at h
    | some x =>
      simp only [hx] at h
      obtain ⟨ys, hys, rfl⟩ := Option.map_eq_some_iff.1 h
      obtain ⟨hadmits, after, hdata⟩ := encode_of_decode? t ht.1 hd.1 _ x hx
      have hfaithful := faithful t x hadmits
      have hnext : frame.drop (position + t.headLength) = after := by
        rw [← List.drop_drop, hdata, ← hfaithful.length_eq hd.1, List.drop_left]
      obtain ⟨hmembers, last, hlast⟩ := heads_of_decodeMembers? rest ht.2 hd.2 frame _ ys hys offset
      refine ⟨⟨hadmits, hmembers⟩, last, ?_⟩
      rw [AbiValue.parts, hfaithful.isDynamic_eq, hd.1, Part.heads_cons_static, List.append_assoc,
        ← hlast, hnext, hdata]

end

/-- A type of fixed length decodes exactly the data that start with an encoding of one of its values. -/
theorem decode?_eq_some_iff {t : AbiType} (ht : t.standard = true) (hd : t.isDynamic = false)
    (hlength : t.headLength < 2 ^ 256) {data : List UInt8} {x : AbiValue} :
    t.decode? data = some x ↔ t.Admits x ∧ ∃ rest, data = x.encode ++ rest := by
  constructor
  · exact encode_of_decode? t ht hd data x
  · rintro ⟨hadmits, rest, rfl⟩
    have hfaithful := faithful t x hadmits
    refine hfaithful.decode_eq rest ?_
    rw [hfaithful.length_eq hd]
    exact hlength

/-! ## Padding -/

mutual

/-- Whether the bytes in front of each number, address and truth value are zero. -/
def ZeroPadded : AbiType → List UInt8 → Prop
  | uint bits, data => ∀ b ∈ data.take (32 - (bits + 7) / 8), b = 0
  | address _, data => ∀ b ∈ data.take 12, b = 0
  | bool, data => ∀ b ∈ data.take 31, b = 0
  | tuple _ components, data => MembersZeroPadded components data
  | _, _ => True

def MembersZeroPadded : List (String × AbiType) → List UInt8 → Prop
  | [], _ => True
  | (_, t) :: rest, data => t.ZeroPadded data ∧ MembersZeroPadded rest (data.drop t.headLength)

end

/-- A number below 256^k leaves all but the last `k` bytes of its word zero. -/
theorem eq_zero_of_mem_natWord {n k : Nat} (hn : n < 256 ^ k) (hk : k ≤ 32) {rest : List UInt8} {b : UInt8}
    (hb : b ∈ (natWord n ++ rest).take (32 - k)) : b = 0 := by
  have hlength : 32 - k ≤ (natWord n).length := by rw [length_natWord]; omega
  rw [List.take_append_of_le_length hlength] at hb
  obtain ⟨i, hi, rfl⟩ := List.getElem_of_mem hb
  rw [List.length_take, length_natWord] at hi
  have hpow : 256 ^ k ≤ 256 ^ (31 - i) := Nat.pow_le_pow_right (by decide) (by omega)
  have hdiv : n / 256 ^ (31 - i) = 0 := Nat.div_eq_of_lt (Nat.lt_of_lt_of_le hn hpow)
  rw [List.getElem_take]
  simp only [natWord, List.getElem_map, List.getElem_range, Nat.pow_eq, hdiv]
  rfl

mutual

theorem zeroPadded_of_admits : (t : AbiType) → t.isDynamic = false → (x : AbiValue) → t.Admits x →
    (rest : List UInt8) → t.ZeroPadded (x.encode ++ rest)
  | .uint bits, _, x, h, rest => by
    cases x with
    | number n =>
      have hbits : 2 ^ bits ≤ 256 ^ ((bits + 7) / 8) := by
        rw [show 256 = 2 ^ 8 by rfl, ← Nat.pow_mul]
        exact Nat.pow_le_pow_right (by decide) (by omega)
      intro b hb
      have hsize := h.1
      exact eq_zero_of_mem_natWord (Nat.lt_of_lt_of_le h.2 hbits) (by omega) hb
    | _ => exact h.elim
  | .address contract, _, x, h, rest => by
    cases x with
    | address a =>
      intro b hb
      rw [AbiValue.encode, List.append_assoc, List.take_append_of_le_length (by simp)] at hb
      exact List.eq_of_mem_replicate (List.mem_of_mem_take hb)
    | _ => exact h.elim
  | .bool, _, x, h, rest => by
    cases x with
    | flag b =>
      intro c hc
      have hflag : (if b then 1 else 0) < 256 ^ 1 := by cases b <;> decide
      exact eq_zero_of_mem_natWord hflag (by decide) hc
    | _ => exact h.elim
  | .word, _, _, _, _ => trivial
  | .bytes, hd, _, _, _ => by cases hd
  | .string, hd, _, _, _ => by cases hd
  | .array _, hd, _, _, _ => by cases hd
  | .tuple struct components, hd, x, h, rest => by
    have hstatic : anyDynamic components = false := by simpa [isDynamic] using hd
    cases x with
    | tuple xs =>
      rw [ZeroPadded, heads_static hstatic h 0]
      exact membersZeroPadded_of_admits components hstatic xs h rest
    | _ => exact h.elim

theorem membersZeroPadded_of_admits : (components : List (String × AbiType)) →
    anyDynamic components = false → (xs : List AbiValue) → AdmitsMembers components xs →
    (rest : List UInt8) → MembersZeroPadded components (Part.heads 0 (AbiValue.parts xs) ++ rest)
  | [], _, _, _, _ => trivial
  | (_, t) :: more, hd, x :: xs, h, rest => by
    rw [anyDynamic, Bool.or_eq_false_iff] at hd
    have hfaithful := faithful t x h.1
    rw [AbiValue.parts, hfaithful.isDynamic_eq, hd.1, Part.heads_cons_static, List.append_assoc,
      MembersZeroPadded, ← hfaithful.length_eq hd.1, List.drop_left]
    exact ⟨zeroPadded_of_admits t hd.1 x h.1 _, membersZeroPadded_of_admits more hd.2 xs h.2 rest⟩
  | _ :: _, _, [], h, _ => h.elim

end

end AbiType

end Restaking.Abi
