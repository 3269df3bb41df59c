import Restaking.Abi.Argument
import Restaking.Proofs.Address.Text
import Restaking.Proofs.Abi.RoundTrip
import Restaking.Proofs.Except

/-!
# Arguments that a type accepts

What a type accepts is a value of the type, so that it can be decoded. If the argument is in the one spelling
that decoding gives, it is also the argument that is decoded.
-/
namespace Restaking.Abi

open AbiType

variable {lookUp : String → Except NodeError Address}

namespace AbiType

mutual

/-- Whether numbers fit into words, and members of arrays take room. -/
def standard : AbiType → Bool
  | uint bits => bits ≤ 256
  | array element => 0 < element.headLength && element.standard
  | tuple _ components => membersStandard components
  | _ => true

def membersStandard : List (String × AbiType) → Bool
  | [] => true
  | (_, t) :: rest => t.standard && membersStandard rest

end

mutual

/-- Whether an argument is spelled as decoding would give it: addresses are canonical, byte strings no text,
arrays lists and tuples tuples. -/
def Plain : AbiType → Value → Prop
  | address _, .text s => ∃ a : Address, s = a.text
  | address _, .bytes _ | address _, .buffer _ => False
  | word, .text _ | word, .buffer _ | bytes, .text _ | bytes, .buffer _ => False
  | array element, .list xs => ∀ x ∈ xs, element.Plain x
  | array _, .tuple _ | tuple .., .list _ => False
  | tuple _ components, .tuple xs => PlainMembers components xs
  | _, _ => True

def PlainMembers : List (String × AbiType) → List Value → Prop
  | (_, t) :: rest, x :: xs => t.Plain x ∧ PlainMembers rest xs
  | _, _ => True

end

mutual

theorem admits_of_accept : (t : AbiType) → t.standard = true → (v : Value) → (x : AbiValue) →
    t.accept lookUp v = .ok x → t.Admits x
  | .uint bits, ht, v, x, h => by
    cases v with
    | int n =>
      rw [accept] at h
      split at h
      · rename_i hn
        cases h
        refine ⟨by simpa [standard] using ht, ?_⟩
        have hlt : (n.toNat : Int) < ((2 ^ bits : Nat) : Int) := by
          rw [Int.toNat_of_nonneg hn.1]
          exact hn.2
        exact Int.ofNat_lt.1 hlt
      · cases h
    | _ => cases h
  | .address contract, _, v, x, h => by
    rw [accept] at h
    obtain ⟨a, -, rfl⟩ := map_eq_ok h
    trivial
  | .bool, _, v, x, h => by
    cases v with
    | bool b => cases h; trivial
    | _ => cases h
  | .word, _, v, x, h => by
    rw [accept] at h
    obtain ⟨bs, -, h⟩ := bind_eq_ok h
    split at h
    · cases h; trivial
    · cases h
  | .bytes, _, v, x, h => by
    rw [accept] at h
    obtain ⟨bs, -, rfl⟩ := map_eq_ok h
    trivial
  | .string, _, v, x, h => by
    cases v with
    | text s => cases h; trivial
    | _ => cases h
  | .array element, ht, v, x, h => by
    rw [standard, Bool.and_eq_true, decide_eq_true_eq] at ht
    have all {vs : List Value} {xs : List AbiValue} (hxs : vs.mapM (element.accept lookUp) = .ok xs) :
        ∀ y ∈ xs, element.Admits y := by
      intro y hy
      obtain ⟨v, -, hv⟩ := exists_of_mem_mapM hxs hy
      exact admits_of_accept element ht.2 v y hv
    cases v with
    | list vs =>
      rw [accept] at h
      obtain ⟨xs, hxs, rfl⟩ := map_eq_ok h
      exact ⟨ht.1, all hxs⟩
    | tuple vs =>
      rw [accept] at h
      obtain ⟨xs, hxs, rfl⟩ := map_eq_ok h
      exact ⟨ht.1, all hxs⟩
    | _ => cases h
  | .tuple struct components, ht, v, x, h => by
    cases v with
    | list vs =>
      rw [accept] at h
      split at h
      · obtain ⟨xs, hxs, rfl⟩ := map_eq_ok h
        exact admitsMembers_of_accept components ht vs xs hxs
      · cases h
    | tuple vs =>
      rw [accept] at h
      split at h
      · obtain ⟨xs, hxs, rfl⟩ := map_eq_ok h
        exact admitsMembers_of_accept components ht vs xs hxs
      · cases h
    | _ => cases h

theorem admitsMembers_of_accept : (components : List (String × AbiType)) →
    membersStandard components = true → (vs : List Value) → (xs : List AbiValue) →
    acceptMembers lookUp components vs = .ok xs → AdmitsMembers components xs
  | [], _, [], xs, h => by cases h; trivial
  | (_, t) :: rest, ht, v :: vs, xs, h => by
    rw [membersStandard, Bool.and_eq_true] at ht
    rw [acceptMembers] at h
    obtain ⟨y, hy, h⟩ := bind_eq_ok h
    obtain ⟨ys, hys, h⟩ := bind_eq_ok h
    cases h
    exact ⟨admits_of_accept t ht.1 v y hy, admitsMembers_of_accept rest ht.2 vs ys hys⟩
  | [], _, _ :: _, _, h => by cases h
  | _ :: _, _, [], _, h => by cases h

end

end AbiType

/-! ## Plain arguments are decoded as they were given -/

theorem toValues_eq_map (xs : List AbiValue) : AbiValue.toValues xs = xs.map AbiValue.toValue := by
  induction xs with
  | nil => rfl
  | cons x xs ih => rw [AbiValue.toValues, ih, List.map_cons]

namespace AbiType

mutual

theorem toValue_of_accept : (t : AbiType) → (v : Value) → t.Plain v → (x : AbiValue) →
    t.accept lookUp v = .ok x → x.toValue = v
  | .uint bits, v, _, x, h => by
    cases v with
    | int n =>
      rw [accept] at h
      split at h
      · rename_i hn
        cases h
        rw [AbiValue.toValue, Int.toNat_of_nonneg hn.1]
      · cases h
    | _ => cases h
  | .address contract, v, hv, x, h => by
    rw [accept] at h
    obtain ⟨a, ha, rfl⟩ := map_eq_ok h
    cases v with
    | text s =>
      obtain ⟨b, rfl⟩ := hv
      have hread : Address.ofValue? (.text b.text) = some b := Address.ofText?_text b
      simp only [givenAddress, hread, Except.ok.injEq] at ha
      subst ha
      rfl
    | bytes bs => exact hv.elim
    | buffer bs => exact hv.elim
    | _ => cases ha
  | .bool, v, _, x, h => by
    cases v with
    | bool b => cases h; rfl
    | _ => cases h
  | .word, v, hv, x, h => by
    cases v with
    | bytes bs =>
      rw [accept] at h
      obtain ⟨cs, hcs, h⟩ := bind_eq_ok h
      cases hcs
      split at h
      · cases h; rfl
      · cases h
    | text s => exact hv.elim
    | buffer bs => exact hv.elim
    | _ => cases h
  | .bytes, v, hv, x, h => by
    cases v with
    | bytes bs => cases h; rfl
    | text s => exact hv.elim
    | buffer bs => exact hv.elim
    | _ => cases h
  | .string, v, _, x, h => by
    cases v with
    | text s => cases h; rfl
    | _ => cases h
  | .array element, v, hv, x, h => by
    cases v with
    | list vs =>
      rw [accept] at h
      obtain ⟨xs, hxs, rfl⟩ := map_eq_ok h
      have hback := map_eq_of_mapM hxs fun y hy => toValue_of_accept element y (hv y hy)
      rw [AbiValue.toValue, toValues_eq_map, hback]
    | tuple vs => exact hv.elim
    | _ => cases h
  | .tuple struct components, v, hv, x, h => by
    cases v with
    | tuple vs =>
      rw [accept] at h
      split at h
      · obtain ⟨xs, hxs, rfl⟩ := map_eq_ok h
        rw [AbiValue.toValue, toValues_of_accept components vs hv xs hxs]
      · cases h
    | list vs => exact hv.elim
    | _ => cases h

theorem toValues_of_accept : (components : List (String × AbiType)) → (vs : List Value) →
    PlainMembers components vs → (xs : List AbiValue) →
    acceptMembers lookUp components vs = .ok xs → AbiValue.toValues xs = vs
  | [], [], _, xs, h => by cases h; rfl
  | (_, t) :: rest, v :: vs, hv, xs, h => by
    rw [acceptMembers] at h
    obtain ⟨y, hy, h⟩ := bind_eq_ok h
    obtain ⟨ys, hys, h⟩ := bind_eq_ok h
    cases h
    rw [AbiValue.toValues, toValue_of_accept t v hv.1 y hy, toValues_of_accept rest vs hv.2 ys hys]
  | [], _ :: _, _, _, h => by cases h
  | _ :: _, [], _, _, h => by cases h

end

end AbiType

/-! ## Calls -/

namespace Function

theorem length_selector (f : Function) : f.selector.length = 4 := by
  rw [selector, List.length_take, Keccak.hashText, Keccak.length_hash]
  decide

/-- What goes out for plain arguments is the selector, followed by what decodes to those arguments. -/
theorem decode_of_encode {f : Function} {arguments : List Value} {data : List UInt8}
    (hstandard : membersStandard f.inputs = true) (halign : f.align arguments = .ok arguments)
    (hplain : PlainMembers f.inputs arguments) (h : f.encode arguments = .ok data) :
    data.take 4 = f.selector ∧
      ∃ xs, decodeMembers? f.inputs (data.drop 4) 0 = some xs ∧ xs.map AbiValue.toValue = arguments ∧
        AdmitsMembers f.inputs xs := by
  obtain ⟨_, -, h⟩ := bind_eq_ok h
  obtain ⟨aligned, ha, h⟩ := bind_eq_ok h
  cases halign.symm.trans ha
  split at h
  · obtain ⟨xs, hxs, h⟩ := bind_eq_ok h
    rw [accept, halign] at hxs
    dsimp only at h
    split at h
    · rename_i hlength
      cases h
      have hadmits := admitsMembers_of_accept f.inputs hstandard arguments xs hxs
      have hmembers := members_of_admits f.inputs xs hadmits
      have hback := toValues_of_accept f.inputs arguments hplain xs hxs
      rw [callData, List.length_append, AbiValue.encode_tuple, Nat.pow_eq] at hlength
      have hdecode := hmembers.decodeMembers?_assemble (by omega) []
      rw [List.append_nil] at hdecode
      refine ⟨?_, xs, ?_, ?_, hadmits⟩
      · rw [callData, ← f.length_selector, List.take_left]
      · rw [callData, ← f.length_selector, List.drop_left, AbiValue.encode_tuple, hdecode]
      · rw [← toValues_eq_map, hback]
    · cases h
  · cases h

end Function

end Restaking.Abi
