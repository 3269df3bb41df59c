import Restaking.Node.Remote
import Restaking.Proofs.Abi.Argument
import Restaking.Proofs.Reader.Calls

/-!
# What reaches a node behind a wire

A query makes one call at most, and what goes out for it is what was asked: the handle's address, the
function's selector, and data that decode to the normalised arguments. Integers out of range go nowhere.
Claims that a caller laid out are left aside; the far end and its answers may be anything.
-/
namespace Restaking

open Abi

variable {ρ σ : Type}

namespace Query

/-- A query whose claim, if it has one, is not laid out by the caller. -/
def Typed : Query → Prop
  | checkClaim v => ∃ c, v = .claim c
  | _ => True

end Query

/-- The kinds of parameters that stand for types. -/
inductive Parameter.Suits : Parameter → AbiType → Prop where
  | account (label : String) (v : Value) (contract : Option String) :
    Suits (.account label v) (.address contract)
  | hash (label : String) (v : Value) : Suits (.hash label v) .word
  | amount (v : Value) : Suits (.amount v) (.uint 256)
  | claim (c : Claim Value) : Suits (.claim (.claim c)) Contract.claimType

theorem Parameter.Suits.normalize {x : Parameter} {t : AbiType} (hx : x.Suits t) {a : Argument}
    (h : x.normalize = .ok a) : a.Suits t := by
  cases hx <;> obtain ⟨b, -, rfl⟩ := map_eq_ok h <;> constructor

theorem suitAll_of_mapM {inputs : List (String × AbiType)} {parameters : List Parameter}
    (hp : List.Forall₂ (fun input x => Parameter.Suits x input.2) inputs parameters)
    {arguments : List Argument} (h : parameters.mapM Parameter.normalize = .ok arguments) :
    Argument.SuitAll inputs arguments := by
  induction hp generalizing arguments with
  | nil =>
    cases h
    exact .nil
  | cons hx _ ih =>
    rw [List.mapM_cons] at h
    obtain ⟨a, ha, h⟩ := bind_eq_ok h
    obtain ⟨rest, hrest, h⟩ := bind_eq_ok h
    cases h
    exact .cons (hx.normalize ha) (ih hrest)

namespace Query

/-- The parameters of a plan stand for the inputs of its function, one by one. -/
theorem suits_of_plan {q : Query} (hq : q.Typed) {p : Plan} (hp : q.plan? = some p) :
    List.Forall₂ (fun input x => Parameter.Suits x input.2) p.function.inputs p.parameters := by
  cases q
  case checkClaim v =>
    obtain ⟨c, rfl⟩ := hq
    cases hp
    exact .cons (.claim c) .nil
  all_goals
    cases hp
    repeat' constructor

theorem Asks.suitAll {q : Query} (hq : q.Typed) {reader : Reader} {h : Handle} {f : Abi.Function}
    {arguments : List Argument} (ha : q.Asks reader h f arguments) :
    Argument.SuitAll f.inputs arguments := by
  rcases ha with ⟨p, hp, -, rfl, harguments⟩ | ⟨v, a, -, -, -, rfl, rfl⟩
  · exact suitAll_of_mapM (suits_of_plan hq hp) harguments
  · exact .nil

end Query

namespace Remote

/-- The node puts requests on the wire. Its handles, its answers and what it offers are not restricted. -/
def Wired (node : Node Call σ) : Prop := ∀ request, node.prepare request = (wire request).mapError .node

theorem canonical_eq {address : String} {a : Address} (h : Address.ofText? address.toList = some a) :
    canonical address = a.text := by
  rw [canonical, h]
  rfl

/-- What goes out for a request names the target and the function and decodes to the arguments. -/
theorem wire_eq_ok {request : Request} {call : Call}
    (hsuit : Argument.SuitAll request.function.inputs request.arguments)
    (h : wire request = .ok call) :
    call.target = canonical request.target.address ∧
      call.data.take 4 = request.function.selector ∧
      (∃ xs, AbiType.decodeMembers? request.function.inputs (call.data.drop 4) 0 = some xs ∧
        xs.map AbiValue.toValue = request.arguments.map Argument.toValue) ∧
      ∀ a ∈ request.arguments, a.InRange := by
  obtain ⟨block, -, h⟩ := bind_eq_ok h
  obtain ⟨data, hdata, h⟩ := bind_eq_ok h
  cases h
  obtain ⟨hselector, xs, hdecode, hvalues, hadmits⟩ :=
    Function.decode_of_encode hsuit.standard hsuit.align_eq hsuit.plain hdata
  exact ⟨rfl, hselector, ⟨xs, hdecode, hvalues⟩, hsuit.inRange hadmits hvalues⟩

theorem wire_of_prepare {node : Node Call σ} (hnode : Wired node) {request : Request} {call : Call}
    (h : node.prepare request = .ok call) : wire request = .ok call := by
  rw [hnode] at h
  cases hw : wire request with
  | error e => simp [hw, Except.mapError] at h
  | ok c =>
    rw [hw] at h
    cases h
    rfl

end Remote

namespace Query

open Remote

variable {node : Node Call σ} {q : Query} {reader : Reader} {h : Handle} {f : Abi.Function}
  {arguments : List Argument}

/-- The call of a query is the one for its question. -/
theorem decode_of_call (hnode : Wired node) (hq : q.Typed) (ha : q.Asks reader h f arguments)
    {context : Option String} {s : Session Call σ} {call : Call}
    (hcall : (q.run node reader context s).2.calls = s.calls ++ [call]) :
    call.target = canonical h.address ∧ call.data.take 4 = f.selector ∧
      ∃ xs, AbiType.decodeMembers? f.inputs (call.data.drop 4) 0 = some xs ∧
        xs.map AbiValue.toValue = arguments.map Argument.toValue := by
  rcases q.calls_run node reader context s with hc | ⟨h', f', arguments', block, wire, ha', hwire, hc⟩
  · rw [hc] at hcall
    simp at hcall
  · obtain ⟨rfl, rfl, rfl⟩ := ha.unique ha'
    rw [hc] at hcall
    cases List.append_cancel_left hcall
    obtain ⟨htarget, hselector, hdecode, -⟩ := wire_eq_ok (ha.suitAll hq) (wire_of_prepare hnode hwire)
    exact ⟨htarget, hselector, hdecode⟩

/-- No call can be made for integers out of range. -/
theorem prepare_of_outOfRange (hnode : Wired node) (hq : q.Typed) (ha : q.Asks reader h f arguments)
    {a : Argument} (hmem : a ∈ arguments) (hrange : ¬ a.InRange) (block : Option Value) :
    ∃ e, node.prepare ⟨h, f, arguments, block⟩ = .error e := by
  cases hwire : node.prepare ⟨h, f, arguments, block⟩ with
  | error e => exact ⟨e, rfl⟩
  | ok call =>
    obtain ⟨-, -, -, hall⟩ := wire_eq_ok (ha.suitAll hq) (wire_of_prepare hnode hwire)
    exact absurd (hall a hmem) hrange

/-- A parameter that does not convert, or not into range, lets a query fail without a call. -/
theorem run_of_outOfRange (hnode : Wired node) (hq : q.Typed) {p : Plan} (hp : q.plan? = some p)
    {x : Parameter} (hx : x ∈ p.parameters) (hrange : ∀ a, x.normalize = .ok a → ¬ a.InRange)
    (context : Option String) (s : Session Call σ) :
    ∃ e, q.run node reader context s = (.error e, s) := by
  rcases p.run_cases node reader context s with ⟨e, hr⟩ | ⟨h, arguments, hh, ha, -⟩
  · exact ⟨e, by rw [run_eq_plan hp, hr]⟩
  · have hmem : x.normalize ∈ arguments.map .ok := mapM_eq_ok_iff.1 ha ▸ List.mem_map_of_mem hx
    obtain ⟨a, hmem, hxa⟩ := List.mem_map.1 hmem
    have asks : q.Asks reader h p.function arguments := .inl ⟨p, hp, hh, rfl, ha⟩
    exact run_of_prepare_error node reader context hp hh ha
      (prepare_of_outOfRange hnode hq asks hmem (hrange a hxa.symm)) s

/-- What reaches the node is what was asked. A query whose claim is not laid out by the caller makes no call,
or one whose target is the handle's address and whose data are the function's selector and an encoding of the
normalised arguments. Two calls of one function have the same data only for the same arguments. A query with
an integer out of range fails without a call. -/
theorem call_carries_arguments (hnode : Wired node) (hq : q.Typed) (reader : Reader)
    (context : Option String) (s : Session Call σ) :
    let t := (q.run node reader context s).2
    (t.calls = s.calls ∨
      ∃ h f arguments call, t.calls = s.calls ++ [call] ∧ q.Asks reader h f arguments ∧
        call.target = canonical h.address ∧
        (∀ a, Address.ofText? h.address.toList = some a → call.target = a.text) ∧
        call.data.take 4 = f.selector ∧
        ∃ xs, AbiType.decodeMembers? f.inputs (call.data.drop 4) 0 = some xs ∧
          xs.map AbiValue.toValue = arguments.map Argument.toValue) ∧
    (∀ (q' : Query) reader' context' (s' : Session Call σ) h h' f arguments arguments' call call',
      q'.Typed → q.Asks reader h f arguments → q'.Asks reader' h' f arguments' →
      t.calls = s.calls ++ [call] →
      (q'.run node reader' context' s').2.calls = s'.calls ++ [call'] →
      call.data = call'.data → arguments = arguments') ∧
    ∀ p x, q.plan? = some p → x ∈ p.parameters → (∀ a, x.normalize = .ok a → ¬ a.InRange) →
      (∃ e, (q.run node reader context s).1 = .error e) ∧ t.calls = s.calls := by
  intro t
  refine ⟨?_, ?_, ?_⟩
  · rcases q.calls_run node reader context s with hc | ⟨h, f, arguments, _, call, ha, -, hc⟩
    · exact .inl hc
    · obtain ⟨htarget, hdata⟩ := decode_of_call hnode hq ha hc
      refine .inr ⟨h, f, arguments, call, hc, ha, htarget, fun a hread => ?_, hdata⟩
      rw [htarget, canonical_eq hread]
  · intro q' reader' context' s' h h' f arguments arguments' call call' hq' ha ha' hcall hcall' hdata
    obtain ⟨-, -, xs, hxs, hvalues⟩ := decode_of_call hnode hq ha hcall
    obtain ⟨-, -, xs', hxs', hvalues'⟩ := decode_of_call hnode hq' ha' hcall'
    rw [hdata] at hxs
    cases hxs.symm.trans hxs'
    exact (ha.suitAll hq).eq_of_map_toValue (ha'.suitAll hq') (hvalues.symm.trans hvalues')
  · intro p x hp hx hrange
    obtain ⟨e, hr⟩ := run_of_outOfRange hnode hq hp hx hrange context s
    exact ⟨⟨e, congrArg Prod.fst hr⟩, by rw [show t = s from congrArg Prod.snd hr]⟩

/-- A claim with two proofs and two leaves goes out to the coordinator, as `checkClaim` and what decodes to
the claim's normal form. An expiry of 2^256 fits no word, so that no digest is asked for. -/
theorem call_carries_arguments_claim :
    let earner : Address := ⟨List.replicate 20 0xAB, rfl⟩
    let token (n : UInt8) : Address := ⟨List.replicate 20 n, rfl⟩
    let root : Word := ⟨List.replicate 32 2, rfl⟩
    let proof : List UInt8 := List.replicate 33 9
    let claim : Claim Value := ⟨.int 5, .int 1, .bytes proof,
      .earnerLeaf ⟨.bytes earner.bytes, .bytes root.bytes⟩, .tuple [.int 0, .int 3],
      .tuple [.bytes proof, .bytes []], .tuple [.tokenLeaf ⟨.bytes (token 1).bytes, .int (2 ^ 256 - 1)⟩,
        .tokenLeaf ⟨.buffer (token 2).bytes, .int 0⟩]⟩
    let form : ClaimForm := ⟨5, 1, proof, .earner earner root, [0, 3], [proof, []],
      [.token (token 1) (2 ^ 256 - 1), .token (token 2) 0]⟩
    let account : Value := .bytes (List.replicate 20 7)
    let late : Query :=
      .avsRegistrationDigest account account (.bytes (List.replicate 32 1)) (.int (2 ^ 256))
    let target : Address := ⟨List.replicate 18 0 ++ [0xC0, 0xDE], rfl⟩
    let coordinator : Handle := ⟨"0x000000000000000000000000000000000000c0de", .rewardsCoordinator⟩
    let directory : Handle := ⟨"0x000000000000000000000000000000000000c0de", .avsDirectory⟩
    let reader : Reader :=
      ⟨.given, { Bindings.empty with rewardsCoordinator := some coordinator, avsDirectory := some directory },
        .named "reads"⟩
    let s : Session Call Chain := Session.start 0.0 ⟨[], []⟩
    Wired Remote.node ∧
      (∃ call xs, ((checkClaim (.claim claim)).run Remote.node reader none s).2.calls = [call] ∧
        call.target = target.text ∧
        call.data.take 4 = [0x5E, 0x9D, 0x83, 0x48] ∧
        AbiType.decodeMembers? Contract.checkClaim.inputs (call.data.drop 4) 0 = some xs ∧
        xs.map AbiValue.toValue = [form.toValue]) ∧
      (∃ e, (late.run Remote.node reader none s).1 = .error e) ∧
      (late.run Remote.node reader none s).2.calls = [] := by
  intro earner token root proof claim form account late target coordinator directory reader s
  have hnode : Wired Remote.node := fun _ => rfl
  refine ⟨hnode, ?_, ?_⟩
  · let p : Plan := ⟨.rewardsCoordinator, Contract.checkClaim, [.claim (.claim claim)], Plan.asGiven, true⟩
    let out : Call :=
      ⟨canonical coordinator.address, Contract.checkClaim.callData [form.typed], .text "latest"⟩
    have hplan : (checkClaim (.claim claim)).plan? = some p := rfl
    have harguments : p.arguments = .ok [.claim form] := rfl
    have hasks : (checkClaim (.claim claim)).Asks reader coordinator Contract.checkClaim [.claim form] :=
      .inl ⟨p, hplan, rfl, rfl, harguments⟩
    have htyped : (checkClaim (.claim claim)).Typed := ⟨claim, rfl⟩
    have hfits : form.Fits := by
      refine ⟨⟨by decide, by decide, by decide, fun a n hmem => ?_⟩, ⟨earner, root, rfl⟩, fun l hl => ?_⟩
      · rcases List.mem_pair.1 hmem with h | h <;> cases h <;> decide
      · rcases List.mem_pair.1 hl with rfl | rfl <;> exact ⟨_, _, rfl⟩
    have hlength : (Contract.checkClaim.callData [form.typed]).length < 2 ^ 256 := by decide +kernel
    have haccepts : accepted Contract.checkClaim [.claim form] = .ok () := by
      rw [accepted, List.map_singleton, Argument.toValue, ClaimForm.accept_call hfits anyName]
    have hprepare : Remote.node.prepare
        ⟨coordinator, p.function, [.claim form], some (s.contextOf none).block⟩ = .ok out := by
      have hblock : blockName (some (s.contextOf none).block) = .ok (.text "latest") := rfl
      have hencode : Contract.checkClaim.encode [form.toValue] =
          .ok (Contract.checkClaim.callData [form.typed]) := ClaimForm.encode_toValue hfits hlength
      rw [hnode, wire, hblock, List.map_singleton, Argument.toValue, hencode]
      rfl
    have hsent :=
      calls_of_prepare_eq_ok Remote.node reader none hplan rfl rfl harguments haccepts rfl hprepare
    have htarget : Address.ofText? coordinator.address.toList = some target := by decide +kernel
    have hselector : Contract.checkClaim.selector = [0x5E, 0x9D, 0x83, 0x48] := by decide +kernel
    obtain ⟨hcalls | ⟨h, f, arguments, call, hcalls, ha, -, hat, hdata, xs, hdecode, hvalues⟩, -⟩ :=
      call_carries_arguments hnode htyped reader none s
    · cases hsent.symm.trans hcalls
    · obtain ⟨rfl, rfl, rfl⟩ := ha.unique hasks
      exact ⟨call, xs, hcalls, hat target htarget, hdata.trans hselector, hdecode, hvalues⟩
  · have hlate : late.Typed := trivial
    exact (call_carries_arguments hnode hlate reader none s).2.2 _ (.amount (.int (2 ^ 256))) rfl
      (by simp) fun a ha => by
        cases ha
        simp [Argument.InRange]

end Query

end Restaking
