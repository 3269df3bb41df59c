import Mathlib.Algebra.Group.Int.Defs
import Restaking.Contract
import Restaking.Session
import Restaking.Proofs.Abi.Accepted

/-!
# The reader's arguments

A normalised argument is spelled plainly, so it is decoded as it was given. Its integers are in the range of
their types whenever it is accepted at all, and its value determines it. Claims that a caller laid out are not
considered: what is accepted of those depends on their spelling. A claim that fits its type goes out.
-/
namespace Restaking

open Abi Abi.AbiType

/-- The integers of a claim are in the range of their types. -/
structure ClaimForm.InRange (c : ClaimForm) : Prop where
  rootIndex : 0 ≤ c.rootIndex ∧ c.rootIndex < 2 ^ 32
  earnerIndex : 0 ≤ c.earnerIndex ∧ c.earnerIndex < 2 ^ 32
  tokenIndices : ∀ n ∈ c.tokenIndices, 0 ≤ n ∧ n < 2 ^ 32
  cumulativeEarnings : ∀ a n, .token a n ∈ c.tokenLeaves → 0 ≤ n ∧ n < 2 ^ 256

namespace Argument

/-- The kinds of arguments that a reader gives for types. -/
inductive Suits : Argument → AbiType → Prop where
  | address (a : Address) (contract : Option String) : Suits (.address a) (.address contract)
  | word (w : Word) : Suits (.word w) .word
  | integer (n : Int) : Suits (.integer n) (.uint 256)
  | claim (c : ClaimForm) : Suits (.claim c) Contract.claimType

/-- The integers of an argument are in the range of their types. -/
def InRange : Argument → Prop
  | integer n => 0 ≤ n ∧ n < 2 ^ 256
  | claim c => c.InRange
  | _ => True

end Argument

theorem word_ext {v w : Word} (h : v.bytes = w.bytes) : v = w := by
  cases v
  cases w
  cases h
  rfl

namespace LeafForm

theorem toValue_injective {l m : LeafForm} (h : l.toValue = m.toValue) : l = m := by
  cases l <;> cases m <;> simp only [toValue, Value.tuple.injEq, List.cons.injEq, Value.text.injEq,
    Value.bytes.injEq, Value.int.injEq, and_true, reduceCtorEq, and_false] at h
  · obtain ⟨ha, hw⟩ := h
    rw [Address.text_injective ha, word_ext hw]
  · obtain ⟨ha, hn⟩ := h
    rw [Address.text_injective ha, hn]

theorem align_toValue (l : LeafForm) (first second : String) :
    (Shape.record [(first, .leaf), (second, .leaf)]).align l.toValue = .ok l.toValue := by
  cases l <;> rfl

theorem plain_toValue (l : LeafForm) :
    Contract.earnerLeafType.Plain l.toValue ∧ Contract.tokenLeafType.Plain l.toValue := by
  cases l <;> exact ⟨⟨⟨_, rfl⟩, trivial, trivial⟩, ⟨_, rfl⟩, trivial, trivial⟩

end LeafForm

namespace Abi.AbiType

theorem exists_of_admitsMembers_cons {name : String} {t : AbiType} {rest : List (String × AbiType)}
    {xs : List AbiValue} (h : AdmitsMembers ((name, t) :: rest) xs) :
    ∃ y ys, xs = y :: ys ∧ t.Admits y ∧ AdmitsMembers rest ys := by
  cases xs with
  | nil => exact h.elim
  | cons y ys => exact ⟨y, ys, rfl, h.1, h.2⟩

/-- A value that is decoded as an integer is in the range of its type. -/
theorem range_of_admits {bits : Nat} {x : AbiValue} (hx : (uint bits).Admits x) {n : Int}
    (h : x.toValue = .int n) : 0 ≤ n ∧ n < 2 ^ bits := by
  cases x with
  | number m =>
    cases h
    exact ⟨Int.natCast_nonneg m, by exact_mod_cast hx.2⟩
  | _ => exact hx.elim

theorem exists_of_admits_tuple {struct : String} {components : List (String × AbiType)} {x : AbiValue}
    (hx : (tuple struct components).Admits x) : ∃ xs, x = .tuple xs ∧ AdmitsMembers components xs := by
  cases x with
  | tuple xs => exact ⟨xs, rfl, hx⟩
  | _ => exact hx.elim

theorem exists_of_admits_array {element : AbiType} {x : AbiValue} (hx : (array element).Admits x)
    {vs : List Value} (h : x.toValue = .list vs) {v : Value} (hv : v ∈ vs) :
    ∃ y, element.Admits y ∧ y.toValue = v := by
  cases x with
  | array ys =>
    cases h
    rw [toValues_eq_map] at hv
    obtain ⟨y, hy, rfl⟩ := List.mem_map.1 hv
    exact ⟨y, hx.2 y hy, rfl⟩
  | _ => exact hx.elim

end Abi.AbiType

namespace ClaimForm

theorem toValue_injective {c d : ClaimForm} (h : c.toValue = d.toValue) : c = d := by
  obtain ⟨rootIndex, earnerIndex, proof, leaf, indices, proofs, leaves⟩ := c
  obtain ⟨rootIndex', earnerIndex', proof', leaf', indices', proofs', leaves'⟩ := d
  simp only [toValue, Value.tuple.injEq, List.cons.injEq, Value.int.injEq, Value.bytes.injEq,
    Value.list.injEq, and_true] at h
  obtain ⟨rfl, rfl, rfl, hleaf, hindices, hproofs, hleaves⟩ := h
  rw [LeafForm.toValue_injective hleaf, (List.map_inj_right fun _ _ => Value.int.inj).1 hindices,
    (List.map_inj_right fun _ _ => Value.bytes.inj).1 hproofs,
    (List.map_inj_right fun _ _ => LeafForm.toValue_injective).1 hleaves]

theorem align_toValue (c : ClaimForm) : Contract.claimType.shape.align c.toValue = .ok c.toValue := by
  have hleaves : (c.tokenLeaves.map LeafForm.toValue).mapM
      (Shape.record [("token", .leaf), ("cumulativeEarnings", .leaf)]).align =
        .ok (c.tokenLeaves.map LeafForm.toValue) := by
    rw [mapM_eq_ok_iff, List.map_map, List.map_map]
    exact List.map_congr_left fun l _ => l.align_toValue _ _
  have hleaf := c.earnerLeaf.align_toValue "earner" "earnerTokenRoot"
  show (Shape.record [("rootIndex", .leaf), ("earnerIndex", .leaf), ("earnerTreeProof", .leaf),
    ("earnerLeaf", .record [("earner", .leaf), ("earnerTokenRoot", .leaf)]), ("tokenIndices", .leaf),
    ("tokenTreeProofs", .leaf),
    ("tokenLeaves", .sequence (.record [("token", .leaf), ("cumulativeEarnings", .leaf)]))]).align _ = _
  simp only [toValue, Shape.align, Shape.alignMembers, hleaf, hleaves]
  rfl

theorem plain_toValue (c : ClaimForm) : Contract.claimType.Plain c.toValue := by
  refine ⟨trivial, trivial, trivial, ?_, ?_, ?_, ?_, trivial⟩
  · exact c.earnerLeaf.plain_toValue.1
  · intro v hv
    obtain ⟨n, -, rfl⟩ := List.mem_map.1 hv
    trivial
  · intro v hv
    obtain ⟨bs, -, rfl⟩ := List.mem_map.1 hv
    trivial
  · intro v hv
    obtain ⟨l, -, rfl⟩ := List.mem_map.1 hv
    exact l.plain_toValue.2

theorem inRange_of_admits {c : ClaimForm} {x : AbiValue} (hx : Contract.claimType.Admits x)
    (h : x.toValue = c.toValue) : c.InRange := by
  obtain ⟨xs, rfl, hx⟩ := exists_of_admits_tuple hx
  obtain ⟨rootIndex, xs, rfl, hrootIndex, hx⟩ := exists_of_admitsMembers_cons hx
  obtain ⟨earnerIndex, xs, rfl, hearnerIndex, hx⟩ := exists_of_admitsMembers_cons hx
  obtain ⟨proof, xs, rfl, -, hx⟩ := exists_of_admitsMembers_cons hx
  obtain ⟨leaf, xs, rfl, -, hx⟩ := exists_of_admitsMembers_cons hx
  obtain ⟨indices, xs, rfl, hindices, hx⟩ := exists_of_admitsMembers_cons hx
  obtain ⟨proofs, xs, rfl, -, hx⟩ := exists_of_admitsMembers_cons hx
  obtain ⟨leaves, xs, rfl, hleaves, -⟩ := exists_of_admitsMembers_cons hx
  simp only [AbiValue.toValue, AbiValue.toValues, toValue, Value.tuple.injEq, List.cons.injEq] at h
  obtain ⟨h₁, h₂, -, -, h₅, -, h₇, -⟩ := h
  refine ⟨range_of_admits hrootIndex h₁, range_of_admits hearnerIndex h₂, fun n hn => ?_,
    fun a n hn => ?_⟩
  · obtain ⟨y, hy, hyn⟩ := exists_of_admits_array hindices h₅ (List.mem_map_of_mem hn)
    exact range_of_admits hy hyn
  · obtain ⟨y, hy, hyn⟩ := exists_of_admits_array hleaves h₇ (List.mem_map_of_mem hn)
    obtain ⟨ys, rfl, hy⟩ := exists_of_admits_tuple hy
    obtain ⟨token, ys, rfl, -, hy⟩ := exists_of_admitsMembers_cons hy
    obtain ⟨earnings, ys, rfl, hearnings, -⟩ := exists_of_admitsMembers_cons hy
    simp only [AbiValue.toValue, AbiValue.toValues, LeafForm.toValue, Value.tuple.injEq,
      List.cons.injEq] at hyn
    exact range_of_admits hearnings hyn.2.1

end ClaimForm

namespace Argument

variable {a b : Argument} {t : AbiType}

theorem standard_of_suits (h : a.Suits t) : t.standard = true := by
  cases h with
  | address | word | integer => rfl
  | claim c => decide

theorem align_of_suits (h : a.Suits t) : t.shape.align a.toValue = .ok a.toValue := by
  cases h with
  | address | word | integer => rfl
  | claim c => exact c.align_toValue

theorem plain_of_suits (h : a.Suits t) : t.Plain a.toValue := by
  cases h with
  | address a contract => exact ⟨a, rfl⟩
  | word | integer => trivial
  | claim c => exact c.plain_toValue

theorem inRange_of_suits (h : a.Suits t) {x : AbiValue} (hx : t.Admits x) (hv : x.toValue = a.toValue) :
    a.InRange := by
  cases h with
  | address | word => trivial
  | integer n => exact range_of_admits hx hv
  | claim c => exact ClaimForm.inRange_of_admits hx hv

/-- Of two arguments for one type, different ones have different values. -/
theorem eq_of_suits (ha : a.Suits t) (hb : b.Suits t) (h : a.toValue = b.toValue) : a = b := by
  cases ha with
  | address a contract =>
    cases hb with
    | address b contract => rw [Address.text_injective (Value.text.inj h)]
  | word v =>
    cases hb with
    | word w => rw [word_ext (Value.bytes.inj h)]
  | integer m =>
    cases hb with
    | integer n => rw [Value.int.inj h]
  | claim c =>
    cases hb with
    | claim d => rw [ClaimForm.toValue_injective h]

end Argument

/-! ## All arguments of a call -/

/-- The arguments are of the kinds that a reader gives for inputs. -/
abbrev Argument.SuitAll (inputs : List (String × AbiType)) (arguments : List Argument) : Prop :=
  List.Forall₂ (fun input a => Argument.Suits a input.2) inputs arguments

namespace Argument.SuitAll

variable {inputs : List (String × AbiType)} {as bs : List Argument}

theorem standard (h : SuitAll inputs as) : membersStandard inputs = true := by
  induction h with
  | nil => rfl
  | cons ha _ ih => rw [membersStandard, standard_of_suits ha, ih]; rfl

theorem align_eq (h : SuitAll inputs as) :
    ((inputs.zip (as.map toValue)).mapM fun p => p.1.2.shape.align p.2) = .ok (as.map toValue) := by
  induction h with
  | nil => rfl
  | cons ha _ ih =>
    rw [List.map_cons, List.zip_cons_cons, List.mapM_cons, align_of_suits ha, ih]
    rfl

theorem plain (h : SuitAll inputs as) : PlainMembers inputs (as.map toValue) := by
  induction h with
  | nil => trivial
  | cons ha _ ih => exact ⟨plain_of_suits ha, ih⟩

theorem inRange (h : SuitAll inputs as) {xs : List AbiValue} (hx : AdmitsMembers inputs xs)
    (hv : xs.map AbiValue.toValue = as.map toValue) : ∀ a ∈ as, a.InRange := by
  induction h generalizing xs with
  | nil => simp
  | cons ha _ ih =>
    obtain ⟨y, ys, rfl, hy, hys⟩ := exists_of_admitsMembers_cons hx
    rw [List.map_cons, List.map_cons, List.cons.injEq] at hv
    intro a hmem
    rcases List.mem_cons.1 hmem with rfl | hmem
    · exact inRange_of_suits ha hy hv.1
    · exact ih hys hv.2 a hmem

theorem eq_of_map_toValue (ha : SuitAll inputs as) (hb : SuitAll inputs bs)
    (h : as.map toValue = bs.map toValue) : as = bs := by
  induction ha generalizing bs with
  | nil =>
    cases hb
    rfl
  | cons ha _ ih =>
    cases hb with
    | cons hb hbs =>
      rw [List.map_cons, List.map_cons, List.cons.injEq] at h
      rw [eq_of_suits ha hb h.1, ih hbs h.2]

end Argument.SuitAll

/-! ## Values that are accepted -/

namespace Abi.AbiType

variable {lookUp : String → Except NodeError Address} {name struct : String} {t : AbiType}
  {components : List (String × AbiType)} {v : Value} {x : AbiValue} {vs : List Value} {xs : List AbiValue}

theorem accept_uint {bits : Nat} {n : Int} (h : 0 ≤ n ∧ n < 2 ^ bits) :
    (uint bits).accept lookUp (.int n) = .ok (.number n.toNat) := by
  rw [accept, if_pos ⟨h.1, by exact_mod_cast h.2⟩]

theorem accept_address_text (contract : Option String) (a : Address) :
    (address contract).accept lookUp (.text a.text) = .ok (.address a) := by
  have ha : Address.ofValue? (.text a.text) = some a := Address.ofText?_text a
  rw [accept]
  unfold givenAddress
  rw [ha]
  rfl

theorem accept_word (w : Word) : word.accept lookUp (.bytes w.bytes) = .ok (.word w) := by
  simp only [accept, givenBytes, bind, Except.bind, dif_pos w.length_eq]

theorem accept_array (h : vs.mapM (t.accept lookUp) = .ok xs) :
    (array t).accept lookUp (.list vs) = .ok (.array xs) := by
  rw [accept, h]
  rfl

theorem accept_tuple (hlength : vs.length = components.length)
    (h : acceptMembers lookUp components vs = .ok xs) :
    (tuple struct components).accept lookUp (.tuple vs) = .ok (.tuple xs) := by
  rw [accept, if_pos hlength, h]
  rfl

theorem acceptMembers_cons (hv : t.accept lookUp v = .ok x)
    (hvs : acceptMembers lookUp components vs = .ok xs) :
    acceptMembers lookUp ((name, t) :: components) (v :: vs) = .ok (x :: xs) := by
  rw [acceptMembers, hv, hvs]
  rfl

theorem wellFormed_text (contract : Option String) (a : Address) :
    (address contract).wellFormed (.text a.text) = true := by
  rw [wellFormed]
  simp only [Address.ofText?_text, BEq.rfl]

theorem membersWellFormed_cons (hv : t.wellFormed v = true) (hvs : membersWellFormed components vs = true) :
    membersWellFormed ((name, t) :: components) (v :: vs) = true := by
  rw [membersWellFormed, hv, hvs]
  rfl

end Abi.AbiType

/-! ## Claims that go out -/

namespace LeafForm

/-- The typed form of a leaf. -/
def typed : LeafForm → AbiValue
  | .earner account root => .tuple [.address account, .word root]
  | .token account amount => .tuple [.address account, .number amount.toNat]

theorem wellFormed_toValue (l : LeafForm) :
    Contract.earnerLeafType.wellFormed l.toValue = true ∧
      Contract.tokenLeafType.wellFormed l.toValue = true := by
  cases l <;> exact ⟨membersWellFormed_cons (wellFormed_text _ _) rfl,
    membersWellFormed_cons (wellFormed_text _ _) rfl⟩

end LeafForm

namespace ClaimForm

/-- The leaves stand where their kinds belong, and the integers are in range. -/
structure Fits (c : ClaimForm) : Prop where
  inRange : c.InRange
  earnerLeaf : ∃ account root, c.earnerLeaf = .earner account root
  tokenLeaves : ∀ l ∈ c.tokenLeaves, ∃ account amount, l = .token account amount

/-- The typed form of a claim. -/
def typed (c : ClaimForm) : AbiValue :=
  .tuple [.number c.rootIndex.toNat, .number c.earnerIndex.toNat, .bytes c.earnerTreeProof,
    c.earnerLeaf.typed, .array (c.tokenIndices.map fun n => .number n.toNat),
    .array (c.tokenTreeProofs.map .bytes), .array (c.tokenLeaves.map LeafForm.typed)]

theorem accept_toValue {c : ClaimForm} (h : c.Fits) (lookUp : String → Except NodeError Address) :
    Contract.claimType.accept lookUp c.toValue = .ok c.typed := by
  have hleaf : Contract.earnerLeafType.accept lookUp c.earnerLeaf.toValue = .ok c.earnerLeaf.typed := by
    obtain ⟨account, root, hleaf⟩ := h.earnerLeaf
    rw [hleaf]
    exact accept_tuple rfl
      (acceptMembers_cons (accept_address_text _ account) (acceptMembers_cons (accept_word root) rfl))
  have hindices : (c.tokenIndices.map Value.int).mapM (Contract.uint32.accept lookUp) =
      .ok (c.tokenIndices.map fun n => .number n.toNat) := by
    rw [mapM_eq_ok_iff, List.map_map, List.map_map]
    exact List.map_congr_left fun n hn => accept_uint (h.inRange.tokenIndices n hn)
  have hproofs : (c.tokenTreeProofs.map Value.bytes).mapM (AbiType.bytes.accept lookUp) =
      .ok (c.tokenTreeProofs.map AbiValue.bytes) := by
    rw [mapM_eq_ok_iff, List.map_map, List.map_map]
    exact List.map_congr_left fun bs _ => rfl
  have hleaves : (c.tokenLeaves.map LeafForm.toValue).mapM (Contract.tokenLeafType.accept lookUp) =
      .ok (c.tokenLeaves.map LeafForm.typed) := by
    rw [mapM_eq_ok_iff, List.map_map, List.map_map]
    refine List.map_congr_left fun l hl => ?_
    obtain ⟨account, amount, rfl⟩ := h.tokenLeaves l hl
    refine accept_tuple rfl (acceptMembers_cons (accept_address_text _ account) (acceptMembers_cons ?_ rfl))
    exact accept_uint (h.inRange.cumulativeEarnings account amount hl)
  exact accept_tuple rfl <| acceptMembers_cons (accept_uint h.inRange.rootIndex) <|
    acceptMembers_cons (accept_uint h.inRange.earnerIndex) <| acceptMembers_cons rfl <|
    acceptMembers_cons hleaf <| acceptMembers_cons (accept_array hindices) <|
    acceptMembers_cons (accept_array hproofs) <| acceptMembers_cons (accept_array hleaves) rfl

theorem wellFormed_toValue (c : ClaimForm) : Contract.claimType.wellFormed c.toValue = true := by
  have hindices : (c.tokenIndices.map Value.int).all Contract.uint32.wellFormed = true := by
    rw [List.all_map, List.all_eq_true]
    exact fun n _ => rfl
  have hproofs : (c.tokenTreeProofs.map Value.bytes).all AbiType.bytes.wellFormed = true := by
    rw [List.all_map, List.all_eq_true]
    exact fun bs _ => rfl
  have hleaves : (c.tokenLeaves.map LeafForm.toValue).all Contract.tokenLeafType.wellFormed = true := by
    rw [List.all_map, List.all_eq_true]
    exact fun l _ => l.wellFormed_toValue.2
  exact membersWellFormed_cons rfl <| membersWellFormed_cons rfl <| membersWellFormed_cons rfl <|
    membersWellFormed_cons c.earnerLeaf.wellFormed_toValue.1 <| membersWellFormed_cons hindices <|
    membersWellFormed_cons hproofs <| membersWellFormed_cons hleaves rfl

theorem align_call (c : ClaimForm) : Contract.checkClaim.align [c.toValue] = .ok [c.toValue] := by
  have hsuits : Argument.SuitAll Contract.checkClaim.inputs [.claim c] := .cons (.claim c) .nil
  exact hsuits.align_eq

theorem accept_call {c : ClaimForm} (h : c.Fits) (lookUp : String → Except NodeError Address) :
    Contract.checkClaim.accept lookUp [c.toValue] = .ok [c.typed] := by
  have hmembers : acceptMembers lookUp Contract.checkClaim.inputs [c.toValue] = .ok [c.typed] :=
    acceptMembers_cons (accept_toValue h lookUp) rfl
  rw [Function.accept, align_call]
  exact hmembers

/-- A claim whose leaves are of the right kinds and whose integers are in range goes out, as long as words can
measure it. -/
theorem encode_toValue {c : ClaimForm} (h : c.Fits)
    (hlength : (Contract.checkClaim.callData [c.typed]).length < 2 ^ 256) :
    Contract.checkClaim.encode [c.toValue] = .ok (Contract.checkClaim.callData [c.typed]) := by
  have hformed : membersWellFormed Contract.checkClaim.inputs [c.toValue] = true :=
    membersWellFormed_cons c.wellFormed_toValue rfl
  unfold Function.encode
  simp only [accept_call h, align_call, bind, Except.bind, hformed, if_true]
  exact if_pos hlength

end ClaimForm

end Restaking
