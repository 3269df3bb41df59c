import Mathlib.Data.List.Forall2
import Restaking.Node.Direct
import Restaking.Proofs.Reader.Plan
import Restaking.Proofs.Word.Grammar

/-!
# Claims and their normal form

What a claim is normalised to is told by a relation, component by component; which failure it comes to
otherwise is told by its conversions, listed in the order in which they are made. The kinds of a claim's
leaves are as given: either kind may stand in the place of the other.
-/
namespace Restaking

variable {ρ σ α β : Type}

/-! ## Conversions in their order -/

/-- The conversions of a leaf: the account before what it is owed. -/
def Value.leafConversions : Value → List (Except Failure Unit)
  | .earnerLeaf l => [stage (ofInput (Address.ofInput "earner address" l.earner)),
      stage (ofInput (Word.ofInput "earner token root" l.tokenRoot))]
  | .tokenLeaf l => [stage (ofInput (Address.ofInput "token address" l.token)),
      stage (ofConversion l.cumulativeEarnings.toInteger)]
  | .claim _ => [.error (.conversion .claimAsLeaf)]
  | v => [.error (.conversion (.notLeaf v.typeName))]

/-- The conversions of a list's elements, from left to right. -/
def Value.elementConversions (each : Value → List (Except Failure Unit)) (v : Value) :
    List (Except Failure Unit) :=
  match v.elements with
  | .ok xs => xs.flatMap each
  | .error e => [.error (.conversion e)]

/-- The conversions of a claim. -/
def Claim.conversions (c : Claim Value) : List (Except Failure Unit) :=
  stage (ofConversion c.rootIndex.toInteger) :: stage (ofConversion c.earnerIndex.toInteger) ::
    stage (ofConversion c.earnerTreeProof.toBytes) ::
      (c.earnerLeaf.leafConversions ++
        (c.tokenIndices.elementConversions (fun v => [stage (ofConversion v.toInteger)]) ++
          (c.tokenTreeProofs.elementConversions (fun v => [stage (ofConversion v.toBytes)]) ++
            c.tokenLeaves.elementConversions Value.leafConversions)))

theorem failsAs_normalizeLeaf (v : Value) : FailsAs v.normalizeLeaf v.leafConversions := by
  cases v with
  | earnerLeaf l =>
    refine (failsAs_stage _).bind fun earner _ => ?_
    exact (failsAs_stage _).map fun root => LeafForm.earner earner root
  | tokenLeaf l =>
    refine (failsAs_stage _).bind fun token _ => ?_
    exact (failsAs_stage _).map fun earnings => LeafForm.token token earnings
  | _ => rfl

/-- A list is taken apart, its elements are converted, and then the rest follows. -/
theorem FailsAs.elements {f : Value → Except Failure α} {each : Value → List (Except Failure Unit)}
    (hf : ∀ x, FailsAs (f x) (each x)) {g : List α → Except Failure β} {rest : List (Except Failure Unit)}
    (hg : ∀ ys, FailsAs (g ys) rest) (v : Value) :
    FailsAs (ofConversion v.elements >>= fun xs => xs.mapM f >>= g)
      (v.elementConversions each ++ rest) := by
  unfold Value.elementConversions
  cases v.elements with
  | error e => rfl
  | ok xs => exact (FailsAs.mapM hf xs).bind fun ys _ => hg ys

theorem failsAs_normalize (c : Claim Value) : FailsAs c.normalize c.conversions := by
  refine (failsAs_stage _).bind fun rootIndex _ => ?_
  refine (failsAs_stage _).bind fun earnerIndex _ => ?_
  refine (failsAs_stage _).bind fun earnerTreeProof _ => ?_
  refine (failsAs_normalizeLeaf _).bind fun earnerLeaf _ => ?_
  refine FailsAs.elements (fun v => failsAs_stage _) (fun tokenIndices => ?_) _
  refine FailsAs.elements (fun v => failsAs_stage _) (fun tokenTreeProofs => ?_) _
  rw [← List.append_nil (c.tokenLeaves.elementConversions Value.leafConversions)]
  exact FailsAs.elements failsAs_normalizeLeaf (fun tokenLeaves => failsAs_ok _) _

/-! ## The normal form -/

/-- A leaf's components convert to those of its form. -/
inductive LeafConverts : Value → LeafForm → Prop where
  | earner {l : EarnerLeaf Value} {earner : Address} {root : Word} :
    Address.ofInput "earner address" l.earner = .ok earner →
    Word.ofInput "earner token root" l.tokenRoot = .ok root →
    LeafConverts (.earnerLeaf l) (.earner earner root)
  | token {l : TokenLeaf Value} {token : Address} {earnings : Int} :
    Address.ofInput "token address" l.token = .ok token → l.cumulativeEarnings.toInteger = .ok earnings →
    LeafConverts (.tokenLeaf l) (.token token earnings)

/-- The elements of a value convert one by one, each to the member at its place. -/
def EachConverts (converts : Value → α → Prop) (v : Value) (ys : List α) : Prop :=
  ∃ xs, v.elements = .ok xs ∧ List.Forall₂ converts xs ys

/-- Each component of a claim converts to that of the form. -/
structure Claim.Converts (c : Claim Value) (t : ClaimForm) : Prop where
  rootIndex : c.rootIndex.toInteger = .ok t.rootIndex
  earnerIndex : c.earnerIndex.toInteger = .ok t.earnerIndex
  earnerTreeProof : c.earnerTreeProof.toBytes = .ok t.earnerTreeProof
  earnerLeaf : LeafConverts c.earnerLeaf t.earnerLeaf
  tokenIndices : EachConverts (fun x n => x.toInteger = .ok n) c.tokenIndices t.tokenIndices
  tokenTreeProofs : EachConverts (fun x bs => x.toBytes = .ok bs) c.tokenTreeProofs t.tokenTreeProofs
  tokenLeaves : EachConverts LeafConverts c.tokenLeaves t.tokenLeaves

theorem ofInput_eq_ok_iff {x : Except InputError α} {a : α} : ofInput x = .ok a ↔ x = .ok a := by
  cases x <;> simp [ofInput, Except.mapError]

theorem ofConversion_eq_ok_iff {x : Except ConversionError α} {a : α} :
    ofConversion x = .ok a ↔ x = .ok a := by
  cases x <;> simp [ofConversion, Except.mapError]

theorem normalizeLeaf_eq_ok_iff {v : Value} {l : LeafForm} : v.normalizeLeaf = .ok l ↔ LeafConverts v l := by
  constructor
  · intro h
    cases v with
    | earnerLeaf leaf =>
      obtain ⟨earner, hearner, h⟩ := bind_eq_ok h
      obtain ⟨root, hroot, h⟩ := bind_eq_ok h
      cases h
      exact .earner (ofInput_eq_ok_iff.1 hearner) (ofInput_eq_ok_iff.1 hroot)
    | tokenLeaf leaf =>
      obtain ⟨token, htoken, h⟩ := bind_eq_ok h
      obtain ⟨earnings, hearnings, h⟩ := bind_eq_ok h
      cases h
      exact .token (ofInput_eq_ok_iff.1 htoken) (ofConversion_eq_ok_iff.1 hearnings)
    | _ => cases h
  · intro h
    cases h with
    | earner hearner hroot =>
      rw [Value.normalizeLeaf, EarnerLeaf.normalize, hearner, hroot]
      rfl
    | token htoken hearnings =>
      rw [Value.normalizeLeaf, TokenLeaf.normalize, htoken, hearnings]
      rfl

theorem mapM_eq_ok_iff_forall₂ {ε : Type} {f : α → Except ε β} {xs : List α} {ys : List β} :
    xs.mapM f = .ok ys ↔ List.Forall₂ (fun x y => f x = .ok y) xs ys := by
  rw [mapM_eq_ok_iff, ← List.forall₂_eq_eq_eq, List.forall₂_map_left_iff, List.forall₂_map_right_iff]

theorem elements_eq_ok_iff {f : Value → Except Failure α} {converts : Value → α → Prop}
    (h : ∀ x y, f x = .ok y ↔ converts x y) {v : Value} {ys : List α} :
    (∃ xs, ofConversion v.elements = .ok xs ∧ xs.mapM f = .ok ys) ↔ EachConverts converts v ys := by
  have hconverts : (fun x y => f x = .ok y) = converts := funext₂ fun x y => propext (h x y)
  simp only [ofConversion_eq_ok_iff, mapM_eq_ok_iff_forall₂, hconverts, EachConverts]

namespace Claim

theorem converts_of_normalize {c : Claim Value} {t : ClaimForm} (h : c.normalize = .ok t) : c.Converts t := by
  obtain ⟨rootIndex, hrootIndex, h⟩ := bind_eq_ok h
  obtain ⟨earnerIndex, hearnerIndex, h⟩ := bind_eq_ok h
  obtain ⟨earnerTreeProof, hproof, h⟩ := bind_eq_ok h
  obtain ⟨earnerLeaf, hleaf, h⟩ := bind_eq_ok h
  obtain ⟨indices, hindices, h⟩ := bind_eq_ok h
  obtain ⟨tokenIndices, htokenIndices, h⟩ := bind_eq_ok h
  obtain ⟨proofs, hproofs, h⟩ := bind_eq_ok h
  obtain ⟨tokenTreeProofs, htokenTreeProofs, h⟩ := bind_eq_ok h
  obtain ⟨leaves, hleaves, h⟩ := bind_eq_ok h
  obtain ⟨tokenLeaves, htokenLeaves, h⟩ := bind_eq_ok h
  cases h
  exact {
    rootIndex := ofConversion_eq_ok_iff.1 hrootIndex
    earnerIndex := ofConversion_eq_ok_iff.1 hearnerIndex
    earnerTreeProof := ofConversion_eq_ok_iff.1 hproof
    earnerLeaf := normalizeLeaf_eq_ok_iff.1 hleaf
    tokenIndices :=
      (elements_eq_ok_iff fun _ _ => ofConversion_eq_ok_iff).1 ⟨indices, hindices, htokenIndices⟩
    tokenTreeProofs :=
      (elements_eq_ok_iff fun _ _ => ofConversion_eq_ok_iff).1 ⟨proofs, hproofs, htokenTreeProofs⟩
    tokenLeaves := (elements_eq_ok_iff fun _ _ => normalizeLeaf_eq_ok_iff).1 ⟨leaves, hleaves, htokenLeaves⟩ }

theorem normalize_eq_ok_iff {c : Claim Value} {t : ClaimForm} : c.normalize = .ok t ↔ c.Converts t := by
  refine ⟨converts_of_normalize, fun h => ?_⟩
  obtain ⟨indices, hindices, htokenIndices⟩ :=
    (elements_eq_ok_iff fun _ _ => ofConversion_eq_ok_iff).2 h.tokenIndices
  obtain ⟨proofs, hproofs, htokenTreeProofs⟩ :=
    (elements_eq_ok_iff fun _ _ => ofConversion_eq_ok_iff).2 h.tokenTreeProofs
  obtain ⟨leaves, hleaves, htokenLeaves⟩ :=
    (elements_eq_ok_iff fun _ _ => normalizeLeaf_eq_ok_iff).2 h.tokenLeaves
  have hrootIndex := ofConversion_eq_ok_iff.2 h.rootIndex
  have hearnerIndex := ofConversion_eq_ok_iff.2 h.earnerIndex
  have hproof := ofConversion_eq_ok_iff.2 h.earnerTreeProof
  have hleaf := normalizeLeaf_eq_ok_iff.2 h.earnerLeaf
  simp only [normalize, hrootIndex, hearnerIndex, hproof, hleaf, hindices, htokenIndices, hproofs,
    htokenTreeProofs, hleaves, htokenLeaves, bind, Except.bind]
  rfl

end Claim

/-! ## Back from the normal form -/

/-- The leaf with the components of a form. -/
def LeafForm.rebuild : LeafForm → Value
  | .earner account root => .earnerLeaf ⟨.text account.text, .bytes root.bytes⟩
  | .token account amount => .tokenLeaf ⟨.text account.text, .int amount⟩

/-- The claim with the components of a form. -/
def ClaimForm.rebuild (t : ClaimForm) : Claim Value where
  rootIndex := .int t.rootIndex
  earnerIndex := .int t.earnerIndex
  earnerTreeProof := .bytes t.earnerTreeProof
  earnerLeaf := t.earnerLeaf.rebuild
  tokenIndices := .list (t.tokenIndices.map .int)
  tokenTreeProofs := .list (t.tokenTreeProofs.map .bytes)
  tokenLeaves := .list (t.tokenLeaves.map LeafForm.rebuild)

theorem LeafForm.converts_rebuild (l : LeafForm) : LeafConverts l.rebuild l := by
  cases l with
  | earner account root => exact .earner (Address.ofInput_text _ account) (Word.ofInput_bytes root)
  | token account amount => exact .token (Address.ofInput_text _ account) rfl

theorem eachConverts_map {converts : Value → α → Prop} {back : α → Value} (h : ∀ y, converts (back y) y)
    (ys : List α) : EachConverts converts (.list (ys.map back)) ys := by
  refine ⟨_, rfl, ?_⟩
  rw [List.forall₂_map_left_iff, List.forall₂_same]
  exact fun y _ => h y

theorem ClaimForm.converts_rebuild (t : ClaimForm) : t.rebuild.Converts t where
  rootIndex := rfl
  earnerIndex := rfl
  earnerTreeProof := rfl
  earnerLeaf := t.earnerLeaf.converts_rebuild
  tokenIndices := eachConverts_map (fun n => (rfl : (Value.int n).toInteger = .ok n)) _
  tokenTreeProofs := eachConverts_map (fun bs => (rfl : (Value.bytes bs).toBytes = .ok bs)) _
  tokenLeaves := eachConverts_map LeafForm.converts_rebuild _

/-! ## Claims that do not convert -/

/-- Arguments that come before the function is looked up are refused whatever the node offers. -/
theorem Plan.run_of_first_arguments_eq_error {p : Plan} {reader : Reader} {h : Handle} {e : Failure}
    (hh : reader.handles.get p.contract = some h) (hfirst : p.argumentsFirst = true)
    (ha : p.arguments = .error e) (node : Node ρ σ) (context : Option String) (s : Session ρ σ) :
    p.run node reader context s = (.error e, s) := by
  have hcollect : p.collect node h s = (.error e, s) := by
    rw [collect, if_pos hfirst, ha]
    rfl
  rw [run, hh, Action.bind_apply, Reader.require, Action.ofExcept]
  simp only [Action.bind_apply, hcollect]

/-- What a claim is refused for, the coordinator is not asked about. -/
theorem Query.run_checkClaim_of_error {c : Claim Value} {e : Failure} (hc : c.normalize = .error e)
    (node : Node ρ σ) {reader : Reader} {h : Handle} (hwired : reader.handles.rewardsCoordinator = some h)
    (context : Option String) (s : Session ρ σ) :
    (Query.checkClaim (.claim c)).run node reader context s = (.error e, s) := by
  let p : Plan := ⟨.rewardsCoordinator, Contract.checkClaim, [.claim (.claim c)], Plan.asGiven, true⟩
  have hclaim : (Parameter.claim (.claim c)).normalize = .error e := by
    rw [Parameter.normalize, hc]
    rfl
  have harguments : p.arguments = .error e := by
    have hnone : ∀ x ∈ ([] : List Parameter), ∃ a, x.normalize = .ok a := by simp
    exact mapM_eq_error hnone hclaim []
  have hp : (Query.checkClaim (.claim c)).plan? = some p := rfl
  have hget : reader.handles.get p.contract = some h := hwired
  rw [run_eq_plan hp]
  exact Plan.run_of_first_arguments_eq_error hget rfl harguments node context s

/-- A claim is normalised exactly when each of its conversions succeeds, and then to the form that it converts
to, its lists element by element in their order; the claim rebuilt from the form has the same form. Otherwise
the first conversion that fails, in the order of the components, decides the failure, and a query about the
claim comes to it without a call. -/
theorem Claim.normalize_in_order (c : Claim Value) :
    (∀ t, c.normalize = .ok t ↔ c.Converts t) ∧
    (∀ t, c.normalize = .ok t → t.rebuild.normalize = .ok t) ∧
    ((∃ t, c.normalize = .ok t) ↔ ∀ x ∈ c.conversions, x = .ok ()) ∧
    ∀ before e after, c.conversions = before ++ .error e :: after → (∀ x ∈ before, x = .ok ()) →
      c.normalize = .error e ∧
      ∀ {ρ σ : Type} (node : Node ρ σ) reader h, reader.handles.rewardsCoordinator = some h →
        ∀ context (s : Session ρ σ),
          (Query.checkClaim (.claim c)).run node reader context s = (.error e, s) := by
  refine ⟨fun t => normalize_eq_ok_iff, fun t _ => ?_, (failsAs_normalize c).exists_ok_iff, ?_⟩
  · exact normalize_eq_ok_iff.2 t.converts_rebuild
  · intro before e after hsplit hbefore
    have hfails := failsAs_normalize c
    rw [hsplit] at hfails
    have hc := hfails.eq_error hbefore
    exact ⟨hc, fun node reader h hwired context s => Query.run_checkClaim_of_error hc node hwired context s⟩

/-- Numbers given as bytes, a proof given by its length, and an account given as a buffer have a normal form.
With a proof that is a text, and no indices, the proof decides the failure. -/
theorem Claim.normalize_in_order_mixed :
    let account : Address := ⟨List.replicate 20 1, rfl⟩
    let root : Word := ⟨List.replicate 32 2, rfl⟩
    let c : Claim Value := ⟨.int 1, .bool true, .list [.int 3],
      .earnerLeaf ⟨.bytes account.bytes, .buffer root.bytes⟩, .bytes [7, 8], .tuple [.bytes [9], .int 2],
      .tuple [.tokenLeaf ⟨.buffer account.bytes, .bool true⟩]⟩
    let t : ClaimForm := ⟨1, 1, [3], .earner account root, [7, 8], [[9], [0, 0]], [.token account 1]⟩
    let bad : Claim Value := { c with earnerTreeProof := .text "0x", tokenIndices := .null }
    let e : Failure := .conversion .textWithoutEncoding
    let coordinator : Handle := ⟨"0x000000000000000000000000000000000000c0de", .rewardsCoordinator⟩
    let reader : Reader :=
      ⟨.given, { Bindings.empty with rewardsCoordinator := some coordinator }, .named "reads"⟩
    let s : Session Direct.Call Direct.Chain := Session.start 0.0 ⟨[], []⟩
    c.normalize = .ok t ∧ t.rebuild.normalize = .ok t ∧ bad.normalize = .error e ∧
      (Query.checkClaim (.claim bad)).run Direct.node reader none s = (.error e, s) := by
  intro account root c t bad e coordinator reader s
  have hc : c.Converts t := {
    rootIndex := rfl
    earnerIndex := rfl
    earnerTreeProof := rfl
    earnerLeaf := .earner rfl rfl
    tokenIndices := ⟨_, rfl, .cons rfl (.cons rfl .nil)⟩
    tokenTreeProofs := ⟨_, rfl, .cons rfl (.cons rfl .nil)⟩
    tokenLeaves := ⟨_, rfl, .cons (.token rfl rfl) .nil⟩ }
  obtain ⟨hconverts, hrebuild, -, -⟩ := Claim.normalize_in_order c
  have ht := (hconverts t).2 hc
  have hsplit : bad.conversions = [.ok (), .ok ()] ++ .error e :: bad.conversions.drop 3 := rfl
  have hbefore : ∀ x ∈ [Except.ok (), (Except.ok () : Except Failure Unit)], x = .ok () := by simp
  obtain ⟨hbad, hrun⟩ := (Claim.normalize_in_order bad).2.2.2 _ e _ hsplit hbefore
  exact ⟨ht, hrebuild t ht, hbad, hrun Direct.node reader coordinator rfl none s⟩

end Restaking
