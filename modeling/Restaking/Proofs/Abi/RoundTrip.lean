import Mathlib.Data.List.Forall2
import Restaking.Proofs.Abi.Word

/-!
# Decoding what was encoded

A value of a type is decoded from its own encoding, whatever follows, as long as a word can measure the
encoding. The induction is on the type. In a sequence it carries where the next head stands and where the
next bytes of the tail do; the offset in a head is the latter.
-/
namespace Restaking.Abi

namespace AbiType

mutual

/-- Whether a value is one of the type. Members of an array must take room in its head. -/
def Admits : AbiType → AbiValue → Prop
  | uint bits, .number n => bits ≤ 256 ∧ n < 2 ^ bits
  | address _, .address _ => True
  | bool, .flag _ => True
  | word, .word _ => True
  | bytes, .bytes _ => True
  | string, .text _ => True
  | array element, .array xs => 0 < element.headLength ∧ ∀ x ∈ xs, element.Admits x
  | tuple _ components, .tuple xs => AdmitsMembers components xs
  | _, _ => False

def AdmitsMembers : List (String × AbiType) → List AbiValue → Prop
  | [], [] => True
  | (_, t) :: rest, x :: xs => t.Admits x ∧ AdmitsMembers rest xs
  | _, _ => False

end

/-- A value that the type decodes as it was encoded, with the layout that the type foresees. -/
structure Faithful (t : AbiType) (x : AbiValue) : Prop where
  isDynamic_eq : x.isDynamic = t.isDynamic
  length_eq : t.isDynamic = false → x.encode.length = t.headLength
  decode_eq : ∀ rest, x.encode.length < 2 ^ 256 → t.decode? (x.encode ++ rest) = some x

theorem headLength_of_isDynamic {t : AbiType} (h : t.isDynamic = true) : t.headLength = 32 := by
  cases t with
  | tuple struct components => rw [headLength, if_pos (by simpa [isDynamic] using h)]
  | _ => rfl

end AbiType

open AbiType

/-! ## Sequences -/

namespace Part

theorem length_heads (offset : Nat) (parts : List Part) :
    (heads offset parts).length = headLengths parts := by
  induction parts generalizing offset with
  | nil => rfl
  | cons p rest ih =>
    rw [heads, headLengths, headLength]
    cases p.inTail with
    | true => simp only [if_true, List.length_append, length_natWord, ih]
    | false => simp only [Bool.false_eq_true, if_false, List.length_append, ih]

theorem tails_cons_dynamic (bytes : List UInt8) (rest : List Part) :
    tails (⟨true, bytes⟩ :: rest) = bytes ++ tails rest := rfl

theorem tails_cons_static (bytes : List UInt8) (rest : List Part) :
    tails (⟨false, bytes⟩ :: rest) = tails rest := rfl

theorem heads_cons_dynamic (offset : Nat) (bytes : List UInt8) (rest : List Part) :
    heads offset (⟨true, bytes⟩ :: rest) = natWord offset ++ heads (offset + bytes.length) rest := rfl

theorem heads_cons_static (offset : Nat) (bytes : List UInt8) (rest : List Part) :
    heads offset (⟨false, bytes⟩ :: rest) = bytes ++ heads offset rest := rfl

end Part

/-- Types beside values that they decode as they were encoded. -/
abbrev Members (components : List (String × AbiType)) (xs : List AbiValue) : Prop :=
  List.Forall₂ (fun c x => Faithful c.2 x) components xs

variable {components : List (String × AbiType)} {xs : List AbiValue}

theorem Members.sum_headLength (h : Members components xs) :
    Part.headLengths (AbiValue.parts xs) = headLengths components := by
  induction h with
  | nil => rfl
  | @cons c x components xs hx _ ih =>
    have hhead : Part.headLength ⟨x.isDynamic, x.encode⟩ = c.2.headLength := by
      rw [Part.headLength, hx.isDynamic_eq]
      cases hd : c.2.isDynamic with
      | true => exact (headLength_of_isDynamic hd).symm
      | false => exact hx.length_eq hd
    rw [AbiValue.parts, Part.headLengths, hhead, ih, headLengths]

theorem Members.anyDynamic_eq (h : Members components xs) :
    AbiValue.anyDynamic xs = AbiType.anyDynamic components := by
  induction h with
  | nil => rfl
  | cons hx _ ih => rw [AbiValue.anyDynamic, AbiType.anyDynamic, hx.isDynamic_eq, ih]

theorem tails_of_static (h : AbiValue.anyDynamic xs = false) : Part.tails (AbiValue.parts xs) = [] := by
  induction xs with
  | nil => rfl
  | cons x rest ih =>
    rw [AbiValue.anyDynamic, Bool.or_eq_false_iff] at h
    rw [AbiValue.parts, h.1, Part.tails_cons_static, ih h.2]

/-- In a frame where the heads of a sequence stand at `position` and its tail at `offset`, the sequence is
read back. -/
theorem Members.decodeMembers?_eq (h : Members components xs) {frame : List UInt8} {position offset : Nat}
    (hheads : ∃ more, frame.drop position = Part.heads offset (AbiValue.parts xs) ++ more)
    (htails : ∃ more, frame.drop offset = Part.tails (AbiValue.parts xs) ++ more)
    (hheadLength : Part.headLengths (AbiValue.parts xs) < 2 ^ 256)
    (htailLength : offset + (Part.tails (AbiValue.parts xs)).length < 2 ^ 256) :
    decodeMembers? components frame position = some xs := by
  induction h generalizing position offset with
  | nil => rfl
  | @cons c x components xs hx _ ih =>
    obtain ⟨name, t⟩ := c
    obtain ⟨moreHeads, hheads⟩ := hheads
    obtain ⟨moreTails, htails⟩ := htails
    rw [AbiValue.parts, hx.isDynamic_eq] at hheads htails hheadLength htailLength
    rw [Part.headLengths] at hheadLength
    cases hd : t.isDynamic with
    | true =>
      -- The head has the offset, and the tail goes on behind the member.
      rw [hd, Part.heads_cons_dynamic, List.append_assoc] at hheads
      rw [hd, Part.tails_cons_dynamic, List.append_assoc] at htails
      rw [hd, Part.tails_cons_dynamic, List.length_append] at htailLength
      have hmember : member? true t.decode? frame position = some x := by
        rw [member?, if_pos rfl, hheads, readNat?_natWord (by omega)]
        simp only [htails]
        exact hx.decode_eq _ (by omega)
      have hheads' : frame.drop (position + t.headLength) =
          Part.heads (offset + x.encode.length) (AbiValue.parts xs) ++ moreHeads := by
        rw [headLength_of_isDynamic hd, ← List.drop_drop, hheads, drop_natWord]
      have htails' : frame.drop (offset + x.encode.length) =
          Part.tails (AbiValue.parts xs) ++ moreTails := by
        rw [← List.drop_drop, htails, List.drop_left]
      rw [← hd] at hmember
      exact decodeMembers?_cons hmember (ih ⟨_, hheads'⟩ ⟨_, htails'⟩ (by omega) (by omega))
    | false =>
      rw [hd, Part.heads_cons_static, List.append_assoc] at hheads
      rw [hd, Part.tails_cons_static] at htails htailLength
      rw [hd] at hheadLength
      simp only [Part.headLength, Bool.false_eq_true, if_false] at hheadLength
      have hmember : member? false t.decode? frame position = some x := by
        rw [member?, if_neg (by decide), hheads]
        exact hx.decode_eq _ (by omega)
      have hheads' : frame.drop (position + t.headLength) =
          Part.heads offset (AbiValue.parts xs) ++ moreHeads := by
        rw [← hx.length_eq hd, ← List.drop_drop, hheads, List.drop_left]
      rw [← hd] at hmember
      exact decodeMembers?_cons hmember (ih ⟨_, hheads'⟩ ⟨_, htails⟩ (by omega) htailLength)

theorem length_assemble (parts : List Part) :
    (Part.assemble parts).length = Part.headLengths parts + (Part.tails parts).length := by
  rw [Part.assemble, List.length_append, Part.length_heads]

/-- A sequence is read back from its own encoding. -/
theorem Members.decodeMembers?_assemble (h : Members components xs)
    (hlength : (Part.assemble (AbiValue.parts xs)).length < 2 ^ 256) (rest : List UInt8) :
    decodeMembers? components (Part.assemble (AbiValue.parts xs) ++ rest) 0 = some xs := by
  rw [length_assemble] at hlength
  have hheads : (Part.assemble (AbiValue.parts xs) ++ rest).drop 0 =
      Part.heads (Part.headLengths (AbiValue.parts xs)) (AbiValue.parts xs) ++
        (Part.tails (AbiValue.parts xs) ++ rest) := by
    rw [List.drop_zero, Part.assemble, List.append_assoc]
  have htails : (Part.assemble (AbiValue.parts xs) ++ rest).drop
      (Part.headLengths (AbiValue.parts xs)) = Part.tails (AbiValue.parts xs) ++ rest := by
    rw [← Part.length_heads (Part.headLengths (AbiValue.parts xs)), Part.assemble,
      List.append_assoc, List.drop_left]
  exact h.decodeMembers?_eq ⟨_, hheads⟩ ⟨_, htails⟩ (by omega) hlength

/-- An array is read as a sequence of its elements. -/
theorem mapM_member?_eq (element : AbiType) (frame : List UInt8) (n k : Nat) :
    ((List.range' k n).mapM fun i =>
        member? element.isDynamic element.decode? frame (i * element.headLength)) =
      decodeMembers? (List.replicate n ("", element)) frame (k * element.headLength) := by
  induction n generalizing k with
  | zero => rfl
  | succ n ih =>
    rw [List.range'_succ, List.mapM_cons, List.replicate_succ, decodeMembers?, ih, Nat.succ_mul]
    cases member? element.isDynamic element.decode? frame (k * element.headLength) with
    | none => rfl
    | some x =>
      cases decodeMembers? (List.replicate n ("", element)) frame
        (k * element.headLength + element.headLength) <;> rfl

/-! ## Types -/

theorem faithful_uint {bits n : Nat} (h : bits ≤ 256 ∧ n < 2 ^ bits) : Faithful (.uint bits) (.number n) where
  isDynamic_eq := rfl
  length_eq _ := length_natWord n
  decode_eq rest _ := by
    have hn : n < 2 ^ 256 := Nat.lt_of_lt_of_le h.2 (Nat.pow_le_pow_right (by decide) h.1)
    rw [AbiValue.encode, decode?, readNat?_natWord hn]
    exact if_pos h.2

theorem faithful_bool (b : Bool) : Faithful .bool (.flag b) where
  isDynamic_eq := rfl
  length_eq _ := length_natWord _
  decode_eq rest _ := by
    rw [AbiValue.encode, decode?, readNat?_natWord (by cases b <;> decide)]
    cases b <;> rfl

theorem faithful_address (contract : Option String) (a : Address) :
    Faithful (.address contract) (.address a) where
  isDynamic_eq := rfl
  length_eq _ := by rw [AbiValue.encode, List.length_append, List.length_replicate, a.length_eq]; rfl
  decode_eq rest _ := by
    rw [AbiValue.encode, decode?, readAddress?_append]
    rfl

theorem faithful_word (w : Word) : Faithful .word (.word w) where
  isDynamic_eq := rfl
  length_eq _ := w.length_eq
  decode_eq rest _ := by
    rw [AbiValue.encode, decode?, readWord?_append]
    rfl

theorem length_lt_of_lengthPrefixed {bs : List UInt8} (h : (lengthPrefixed bs).length < 2 ^ 256) :
    bs.length < 2 ^ 256 := by
  rw [lengthPrefixed, List.length_append, length_padRight] at h
  omega

theorem faithful_bytes (bs : List UInt8) : Faithful .bytes (.bytes bs) where
  isDynamic_eq := rfl
  length_eq h := by cases h
  decode_eq rest h := by
    rw [AbiValue.encode] at h ⊢
    rw [decode?, readBytes?_append (length_lt_of_lengthPrefixed h)]
    rfl

theorem faithful_string (s : String) : Faithful .string (.text s) where
  isDynamic_eq := rfl
  length_eq h := by cases h
  decode_eq rest h := by
    rw [AbiValue.encode] at h ⊢
    rw [decode?, readBytes?_append (length_lt_of_lengthPrefixed h)]
    simp only [fromUTF8?_toUTF8, Option.map_some]

theorem faithful_tuple {struct : String} (h : Members components xs) :
    Faithful (.tuple struct components) (.tuple xs) where
  isDynamic_eq := by rw [AbiValue.isDynamic, isDynamic, h.anyDynamic_eq]
  length_eq hd := by
    have hstatic : AbiType.anyDynamic components = false := by simpa [isDynamic] using hd
    rw [AbiValue.encode_tuple, length_assemble, tails_of_static (h.anyDynamic_eq.trans hstatic), headLength,
      if_neg (by simp [hstatic]), h.sum_headLength]
    rfl
  decode_eq rest hlength := by
    rw [AbiValue.encode_tuple] at hlength ⊢
    rw [decode?_tuple, h.decodeMembers?_assemble hlength]
    rfl

theorem members_replicate {element : AbiType} (h : ∀ x ∈ xs, Faithful element x) :
    Members (List.replicate xs.length ("", element)) xs := by
  induction xs with
  | nil => exact .nil
  | cons x xs ih => exact .cons (h x (by simp)) (ih fun y hy => h y (by simp [hy]))

theorem headLengths_replicate (element : AbiType) (n : Nat) :
    headLengths (List.replicate n ("", element)) = n * element.headLength := by
  induction n with
  | zero => rw [Nat.zero_mul]; rfl
  | succ n ih => rw [List.replicate_succ, headLengths, ih, Nat.succ_mul, Nat.add_comm]

theorem faithful_array {element : AbiType} (hroom : 0 < element.headLength)
    (h : ∀ x ∈ xs, Faithful element x) : Faithful (.array element) (.array xs) where
  isDynamic_eq := rfl
  length_eq hd := by cases hd
  decode_eq rest hlength := by
    have hmembers := members_replicate h
    have hheads := headLengths_replicate element xs.length
    rw [AbiValue.encode] at hlength ⊢
    rw [List.length_append, length_natWord] at hlength
    have hassembled := hlength
    rw [length_assemble, hmembers.sum_headLength, hheads] at hassembled
    have hcount : xs.length < 2 ^ 256 := by
      have := Nat.le_mul_of_pos_right xs.length hroom
      omega
    rw [List.append_assoc, decode?, readNat?_natWord hcount]
    simp only [drop_natWord]
    rw [if_neg, List.range_eq_range', mapM_member?_eq, Nat.zero_mul,
      hmembers.decodeMembers?_assemble (by omega)]
    · rfl
    · rw [List.length_append, length_assemble, hmembers.sum_headLength, hheads]
      omega

mutual

/-- Every value of a type is decoded as it was encoded. -/
theorem faithful : (t : AbiType) → (x : AbiValue) → t.Admits x → Faithful t x
  | .uint bits, x, h => by
    cases x with
    | number n => exact faithful_uint h
    | _ => exact h.elim
  | .address contract, x, h => by
    cases x with
    | address a => exact faithful_address contract a
    | _ => exact h.elim
  | .bool, x, h => by
    cases x with
    | flag b => exact faithful_bool b
    | _ => exact h.elim
  | .word, x, h => by
    cases x with
    | word w => exact faithful_word w
    | _ => exact h.elim
  | .bytes, x, h => by
    cases x with
    | bytes bs => exact faithful_bytes bs
    | _ => exact h.elim
  | .string, x, h => by
    cases x with
    | text s => exact faithful_string s
    | _ => exact h.elim
  | .array element, x, h => by
    cases x with
    | array xs => exact faithful_array h.1 fun x hx => faithful element x (h.2 x hx)
    | _ => exact h.elim
  | .tuple struct components, x, h => by
    cases x with
    | tuple xs => exact faithful_tuple (members_of_admits components xs h)
    | _ => exact h.elim

theorem members_of_admits : (components : List (String × AbiType)) → (xs : List AbiValue) →
    AdmitsMembers components xs → Members components xs
  | [], [], _ => .nil
  | (_, t) :: rest, x :: xs, h => .cons (faithful t x h.1) (members_of_admits rest xs h.2)
  | [], _ :: _, h => h.elim
  | _ :: _, [], h => h.elim

end

end Restaking.Abi
