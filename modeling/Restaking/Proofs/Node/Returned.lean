import Restaking.Node.Remote
import Restaking.Proofs.Abi.Argument
import Restaking.Proofs.Abi.Static
import Restaking.Proofs.Reader.Calls
import Restaking.Proofs.Reader.Pipeline

/-!
# From the data of an answer to the caller

The exchange is one in which only the data that come back are open: the contract is wired, the arguments were
accepted, the call went out and the context did not end. The data are arbitrary, and are decoded under the
output types that the contracts declare. Nothing is said about answers that carry no data, such as errors of
the far end, and a claim that the caller laid out counts as any other once the node accepts it.
-/
namespace Restaking

open Abi Abi.AbiType

variable {ρ σ : Type}

/-- A type whose encodings all have the same length, which fits a word. -/
structure Abi.AbiType.Fixed (t : AbiType) : Prop where
  standard : t.standard = true
  static : t.isDynamic = false
  short : t.headLength < 2 ^ 256

theorem Abi.Function.returned?_of_outputs {f : Function} {t : AbiType} (hf : f.outputs = [t])
    (ht : t.Fixed) (data : List UInt8) : f.returned? data = (t.decode? data).map AbiValue.toValue := by
  simp only [returned?, hf, List.map_cons, List.map_nil, decodeMembers?, ht.static, member?, List.drop_zero]
  cases t.decode? data <;> rfl

theorem Remote.resultValue_of_outputs {f : Function} {t : AbiType} (hf : f.outputs = [t]) (ht : t.Fixed)
    (data : List UInt8) :
    resultValue f (.bytes data) =
      (t.decode? data).elim (.error .undecodable) fun x => .ok x.toValue := by
  have hreturned := Function.returned?_of_outputs hf ht data
  simp only [resultValue, resultBytes, bind, Except.bind, hreturned]
  cases t.decode? data <;> rfl

/-! ## A far end that answers data -/

namespace Remote

theorem hexBytes_hexText (data : List UInt8) : hexBytes (hexText data) = .ok data := by
  have hascii : ∀ c ∈ Text.Hex.encode data, Text.isAscii c = true := by
    intro c hc
    obtain ⟨n, hn, rfl⟩ := Text.Hex.exists_digitChar hc
    have all : ∀ m : Fin 16, Text.isAscii (Text.Hex.digitChar m) = true := by decide
    exact all ⟨n, hn⟩
  have htext : (hexText data).toList = '0' :: 'x' :: Text.Hex.encode data := String.toList_ofList
  have heven : (Text.Hex.encode data).length % 2 ≠ 1 := by
    rw [Text.Hex.length_encode]
    omega
  have hall : (hexText data).toList.all Text.isAscii = true := by
    rw [htext, List.all_eq_true]
    intro c hc
    rcases List.mem_cons.1 hc with rfl | hc
    · rfl
    · rcases List.mem_cons.1 hc with rfl | hc
      · rfl
      · exact hascii c hc
  rw [hexBytes, if_pos hall, htext, Text.Hex.dropMark, Text.Hex.evened, if_neg heven,
    Text.Hex.decode?_encode]
  rfl

theorem reply_of_lookup {chain : Chain} {call : Call} {v : Value}
    (h : chain.answers.lookup
      (scriptKey (String.ofList (call.target.toList.map Char.toLower)) call.data) = some (.value v)) :
    ∃ after, reply chain call = (⟨[], .ok v⟩, after) := by
  simp only [reply, Scripts.play?, h]
  exact ⟨_, rfl⟩

/-- A result is decoded from its text as from its bytes. -/
theorem outcome_answer {request : Request} {call : Call} {chain after : Chain} {effects : List Effect}
    {data : List UInt8}
    (h : reply chain call = (⟨effects, .ok (.mapping [("result", .text (hexText data))])⟩, after)) :
    (node.answer request call chain).1.outcome =
      (resultValue request.function (.bytes data)).mapError .node := by
  have hresult : resultValue request.function (.text (hexText data)) =
      resultValue request.function (.bytes data) := by
    change (hexBytes (hexText data)).bind _ = _
    rw [hexBytes_hexText]
    rfl
  simp only [node, h]
  change (resultValue request.function (.text (hexText data))).mapError Failure.node = _
  rw [hresult]

theorem wire_of_no_inputs {f : Abi.Function} (hf : f.inputs = []) (h : Handle) {block : Option Value}
    {name : BlockName} (hblock : blockName block = .ok name) :
    wire ⟨h, f, [], block⟩ = .ok ⟨canonical h.address, f.selector, name⟩ := by
  have hdata : f.callData [] = f.selector := List.append_nil _
  have hlength : f.selector.length < 2 ^ 256 := by
    rw [f.length_selector]
    decide
  have hencode : f.encode [] = .ok f.selector := by
    simp only [Function.encode, Function.accept, Function.align, hf, List.zip_nil_left]
    change (if (f.callData []).length < 2 ^ 256 then .ok (f.callData []) else _ :
      Except NodeError (List UInt8)) = _
    rw [hdata, if_pos hlength]
  rw [wire, hblock]
  change (f.encode []).bind _ = _
  rw [hencode]
  rfl

end Remote

namespace Query

/-! ## What is answered to a query -/

/-- The declared type of the answer. -/
def outputType : Query → AbiType
  | isOperatorRegistered _ | operatorIsFrozen _ | checkClaim _ => .bool
  | operatorDetails _ => Contract.operatorDetailsType
  | operatorShares .. | distributionRootsLength | cumulativeClaimed .. => .uint 256
  | delegationApprovalDigest .. | avsRegistrationDigest .. => .word
  | strategyAndToken _ | strategyAndTokenHandle _ => Contract.tokenContract
  | slashableUntil .. | rewardsCalculationEnd | rootIndexFromHash _ => .uint 32
  | currentClaimableRoot => Contract.distributionRootType
  | operatorAvsSplit .. => .uint 16

/-- The typed value of an answer as the caller is to have it. Of an operator's details the first member is out
of use; `strategy` is the handle that was asked. -/
def rendered (strategy : Handle) : Query → AbiValue → Option Answer
  | operatorDetails operator, .tuple [_, .address approver, .number window] =>
    some (.operator ⟨Reader.operatorAddress operator, .text approver.text, .int window⟩)
  | currentClaimableRoot, .tuple [.word root, .number calculationEnd, .number activatedAt, .flag disabled] =>
    some (.root ⟨root.bytes, calculationEnd, activatedAt, disabled⟩)
  | delegationApprovalDigest .., .word digest | avsRegistrationDigest .., .word digest =>
    some (.digest digest.bytes)
  | strategyAndToken _, .address token => some (.strategyAndToken strategy token)
  | strategyAndTokenHandle _, .address token =>
    some (.strategyAndTokenHandle strategy ⟨token.text, .token⟩ token)
  | _, .number n => some (.value (.int n))
  | _, .flag b => some (.value (.bool b))
  | _, _ => none

/-- What a lookup gives for the address of a token. -/
def found (strategy : Handle) : Query → Address → Answer
  | strategyAndTokenHandle _, token => .strategyAndTokenHandle strategy ⟨token.text, .token⟩ token
  | _, token => .strategyAndToken strategy token

/-- What a query makes of the answer to it. -/
def reading (q : Query) (target : Handle) (v : Value) : Except Failure Answer :=
  match q.plan? with
  | some p => p.shape v
  | none => (ofConversion (Address.ofAnswer v)).map (q.found target)

theorem fixed_outputType (q : Query) : q.outputType.Fixed := by
  cases q <;> exact ⟨rfl, rfl, of_decide_eq_true rfl⟩

variable {q : Query} {reader : Reader} {context : Option String} {h : Handle} {f : Abi.Function}
  {arguments : List Argument}

theorem Asks.outputs_eq (hq : q.Asks reader h f arguments) : f.outputs = [q.outputType] := by
  rcases hq with ⟨p, hp, -, rfl, -⟩ | ⟨v, a, hv, -, -, rfl, -⟩
  · cases q <;> cases hp <;> rfl
  · cases q <;> cases hv <;> rfl

theorem reading_of_plan {p : Plan} (hp : q.plan? = some p) (h : Handle) (v : Value) :
    q.reading h v = p.shape v := by
  unfold reading
  rw [hp]

theorem reading_of_strategy (hq : q.strategy?.isSome) (h : Handle) (v : Value) :
    q.reading h v = (ofConversion (Address.ofAnswer v)).map (q.found h) := by
  cases q <;> cases hq <;> rfl

theorem reading_token {a : Address} (hq : q.strategy?.isSome) (h : Handle) :
    q.reading h (.text a.text) = .ok (q.found h a) := by
  rw [reading_of_strategy hq, Address.ofAnswer_text]
  rfl

theorem ofAnswer_details (operator : Value) (first : AbiValue) (approver : Address) (window : Nat) :
    Operator.ofAnswer operator (AbiValue.tuple [first, .address approver, .number window]).toValue =
      .ok ⟨operator, .text approver.text, .int window⟩ := by
  change (do
    let approver ← ofConversion (Address.ofAnswer (.text approver.text))
    return ⟨operator, .text approver.text, .int window⟩ : Except Failure (Operator Value)) = _
  rw [Address.ofAnswer_text]
  rfl

/-- The caller gets the value that was decoded, whole. -/
theorem reading_of_admits (q : Query) (h : Handle) {x : AbiValue} (hx : q.outputType.Admits x) :
    ∃ a, q.rendered h x = some a ∧ q.reading h x.toValue = .ok a := by
  cases q
  case operatorDetails operator =>
    obtain ⟨xs, rfl, hx⟩ := exists_of_admits_tuple hx
    obtain ⟨first, xs, rfl, -, hx⟩ := exists_of_admitsMembers_cons hx
    obtain ⟨approver, xs, rfl, hsecond, hx⟩ := exists_of_admitsMembers_cons hx
    obtain ⟨window, xs, rfl, hthird, hx⟩ := exists_of_admitsMembers_cons hx
    cases xs with
    | cons _ _ => exact hx.elim
    | nil =>
      cases approver <;> try exact hsecond.elim
      cases window <;> try exact hthird.elim
      refine ⟨_, rfl, ?_⟩
      change (Operator.ofAnswer _ _).map Answer.operator = _
      rw [ofAnswer_details]
      rfl
  case currentClaimableRoot =>
    obtain ⟨xs, rfl, hx⟩ := exists_of_admits_tuple hx
    obtain ⟨root, xs, rfl, h₁, hx⟩ := exists_of_admitsMembers_cons hx
    obtain ⟨calculationEnd, xs, rfl, h₂, hx⟩ := exists_of_admitsMembers_cons hx
    obtain ⟨activatedAt, xs, rfl, h₃, hx⟩ := exists_of_admitsMembers_cons hx
    obtain ⟨disabled, xs, rfl, h₄, hx⟩ := exists_of_admitsMembers_cons hx
    cases xs with
    | cons _ _ => exact hx.elim
    | nil =>
      cases root <;> try exact h₁.elim
      cases calculationEnd <;> try exact h₂.elim
      cases activatedAt <;> try exact h₃.elim
      cases disabled <;> try exact h₄.elim
      exact ⟨_, rfl, rfl⟩
  case strategyAndToken v =>
    cases x <;> try exact hx.elim
    exact ⟨_, rfl, reading_token rfl h⟩
  case strategyAndTokenHandle v =>
    cases x <;> try exact hx.elim
    exact ⟨_, rfl, reading_token rfl h⟩
  all_goals
    cases x <;> try exact hx.elim
    exact ⟨_, rfl, rfl⟩

/-! ## The exchange -/

/-- All of an exchange but the `data` that come back. The question goes out as `wire` in the session `ready`,
where a lookup already has its strategy's handle; of the token's, it is taken that it can be had. -/
structure Exchange (node : Node ρ σ) (reader : Reader) (context : Option String) (q : Query)
    (s ready : Session ρ σ) (request : Request) (wire : ρ) (data : List UInt8) : Prop where
  asks : q.Asks reader request.target request.function request.arguments
  block_eq : request.block = some (ready.contextOf context).block
  wired : q.strategy? = none → ready = s
  connected : ∀ v, q.strategy? = some v → Reader.strategyHandle node v s = (.ok request.target, ready)
  offered : node.offers request.target request.function ready.node = .ok ()
  accepted : node.accepts request.function request.arguments = .ok ()
  prepared : node.prepare request = .ok wire
  open_before : (ready.contextOf context).check ready.clock = .ok ()
  returned : (node.answer request wire ready.node).1.outcome =
    (Remote.resultValue request.function (.bytes data)).mapError .node
  open_after : ((node.answered request wire ready).contextOf context).check
    (node.answered request wire ready).clock = .ok ()
  token_connected : q.strategy?.isSome → ∀ token : Address,
    ∃ t, (node.handle token.text .token (node.answered request wire ready)).1 = .ok t

namespace Exchange

variable {node : Node ρ σ} {s ready : Session ρ σ} {request : Request} {wire : ρ} {data : List UInt8}

theorem call_eq (x : Exchange node reader context q s ready request wire data) :
    node.call ⟨request.target, request.function, request.arguments,
        some (ready.contextOf context).block⟩ ready =
      ((Remote.resultValue request.function (.bytes data)).mapError .node,
        node.answered request wire ready) := by
  rw [← x.block_eq, ← x.returned]
  exact node.call_of_prepare_eq_ok x.prepared ready

theorem finish_eq (x : Exchange node reader context q s ready request wire data)
    (hq : q.strategy?.isSome) (token : Address) :
    (q.finish node request.target token (node.answered request wire ready)).1 =
      .ok (q.found request.target token) := by
  cases q <;> cases hq
  case strategyAndToken v => rfl
  case strategyAndTokenHandle v =>
    obtain ⟨t, ht⟩ := x.token_connected rfl token
    obtain rfl := node.handle_eq_ok ht
    rw [finish, Action.map_apply, Action.mapFailure_apply, ht]
    rfl

/-- The outcome of the query is what it makes of the data, or a failure where the data do not decode. -/
theorem run_eq (x : Exchange node reader context q s ready request wire data) :
    ∃ wrap : Failure → Failure, (q.run node reader context s).1 =
      ((Remote.resultValue request.function (.bytes data)).mapError fun e => wrap (.node e)).bind
        (q.reading request.target) := by
  have hcall := x.call_eq
  rcases q.plan_or_strategy with ⟨p, hp⟩ | ⟨v, hv⟩
  · obtain rfl := x.wired (strategy?_of_plan? hp)
    rcases x.asks with ⟨p', hp', hh, hf, ha⟩ | ⟨v, a, hv, -⟩
    · cases hp.symm.trans hp'
      have hoffers := x.offered
      have haccepts := x.accepted
      rw [hf] at hoffers haccepts
      refine ⟨id, ?_⟩
      rw [run_eq_plan hp, Plan.run_of_arguments_eq_ok hh hoffers ha haccepts, Action.bind_apply,
        Node.callWithin_apply, x.open_before, ← hf, hcall]
      cases Remote.resultValue request.function (.bytes data) with
      | error e => rfl
      | ok v =>
        simp only [Except.mapError, x.open_after, Except.bind, reading_of_plan hp]
        rfl
    · rw [strategy?_of_plan? hp] at hv
      cases hv
  · rcases x.asks with ⟨p, hp, -⟩ | ⟨v', a, hv', -, htarget, hf, ha⟩
    · rw [strategy?_of_plan? hp] at hv
      cases hv
    · have hsome : q.strategy?.isSome := by rw [hv]; rfl
      have hoffers := x.offered
      have haccepts := x.accepted
      rw [hf] at hoffers
      rw [hf, ha] at haccepts
      rw [hf, ha] at hcall
      -- The question alone fails for its data; what is asked after it is had by assumption.
      have htoken : Reader.tokenCall node request.target context ready =
          ((Remote.resultValue request.function (.bytes data)).mapError fun e =>
            Reader.asTokenFailure (.node e), node.answered request wire ready) := by
        rw [Reader.tokenCall_apply, hoffers, haccepts]
        simp only [Action.mapFailure_apply, hcall, hf]
        cases Remote.resultValue Contract.underlyingToken (.bytes data) <;> rfl
      refine ⟨Reader.asTokenFailure, ?_⟩
      rw [run_of_strategyHandle hv (x.connected v hv), x.open_before]
      simp only [htoken]
      cases Remote.resultValue request.function (.bytes data) with
      | error e => rfl
      | ok v =>
        simp only [Except.mapError, x.open_after, Except.bind, reading_of_strategy hsome]
        cases Address.ofAnswer v with
        | error e => rfl
        | ok token => exact x.finish_eq hsome token

/-- Data that begin with an encoding give the encoded value. -/
theorem run_of_encoded (x : Exchange node reader context q s ready request wire data) {v : AbiValue}
    (hv : q.outputType.Admits v) {rest : List UInt8} (hdata : data = v.encode ++ rest) :
    ∃ a, q.rendered request.target v = some a ∧ (q.run node reader context s).1 = .ok a := by
  have ht := q.fixed_outputType
  obtain ⟨wrap, hrun⟩ := x.run_eq
  have hdecode : q.outputType.decode? data = some v :=
    (decode?_eq_some_iff ht.standard ht.static ht.short).2 ⟨hv, rest, hdata⟩
  obtain ⟨a, hrendered, hreading⟩ := q.reading_of_admits request.target hv
  refine ⟨a, hrendered, ?_⟩
  rw [hrun, Remote.resultValue_of_outputs x.asks.outputs_eq ht, hdecode]
  exact hreading

/-- Only data that begin with an encoding give a value. -/
theorem encoded_of_run (x : Exchange node reader context q s ready request wire data) {a : Answer}
    (ha : (q.run node reader context s).1 = .ok a) :
    ∃ v rest, q.outputType.Admits v ∧ data = v.encode ++ rest := by
  have ht := q.fixed_outputType
  obtain ⟨wrap, hrun⟩ := x.run_eq
  rw [hrun, Remote.resultValue_of_outputs x.asks.outputs_eq ht] at ha
  cases hdecode : q.outputType.decode? data with
  | none =>
    rw [hdecode] at ha
    cases ha
  | some v =>
    obtain ⟨hv, rest, hdata⟩ := (decode?_eq_some_iff ht.standard ht.static ht.short).1 hdecode
    exact ⟨v, rest, hv, hdata⟩

theorem run_of_not_encoded (x : Exchange node reader context q s ready request wire data)
    (hdata : ∀ v rest, q.outputType.Admits v → data ≠ v.encode ++ rest) :
    ∃ e, (q.run node reader context s).1 = .error e := by
  cases hrun : (q.run node reader context s).1 with
  | error e => exact ⟨e, rfl⟩
  | ok a =>
    obtain ⟨v, rest, hv, heq⟩ := x.encoded_of_run hrun
    exact absurd heq (hdata v rest hv)

end Exchange

/-- What the node answers is what the caller gets. A query gives a value exactly for data that begin with an
encoding of one of its output type, and then that one; data that are too short or padded with anything but
zeros give none. -/
theorem returns_encoded_value {node : Node ρ σ} {s ready : Session ρ σ} {request : Request} {wire : ρ}
    {data : List UInt8} (x : Exchange node reader context q s ready request wire data) :
    let outcome := (q.run node reader context s).1
    request.function.outputs = [q.outputType] ∧
      ((∃ a, outcome = .ok a) ↔ ∃ v rest, q.outputType.Admits v ∧ data = v.encode ++ rest) ∧
      (∀ v rest, q.outputType.Admits v → data = v.encode ++ rest →
        ∃ a, q.rendered request.target v = some a ∧ outcome = .ok a) ∧
      (data.length < q.outputType.headLength → ∃ e, outcome = .error e) ∧
      (¬ q.outputType.ZeroPadded data → ∃ e, outcome = .error e) := by
  intro outcome
  have hstatic := q.fixed_outputType.static
  refine ⟨x.asks.outputs_eq, ⟨?_, ?_⟩, fun v rest hv hdata => x.run_of_encoded hv hdata, ?_, ?_⟩
  · rintro ⟨a, ha⟩
    exact x.encoded_of_run ha
  · rintro ⟨v, rest, hv, hdata⟩
    obtain ⟨a, -, ha⟩ := x.run_of_encoded hv hdata
    exact ⟨a, ha⟩
  · intro hshort
    refine x.run_of_not_encoded fun v rest hv hdata => ?_
    have hlength := (faithful q.outputType v hv).length_eq hstatic
    rw [hdata, List.length_append, hlength] at hshort
    omega
  · intro hpadding
    refine x.run_of_not_encoded fun v rest hv hdata => hpadding ?_
    rw [hdata]
    exact zeroPadded_of_admits q.outputType hstatic v hv rest

/-- A root with the last of all timestamps arrives whole, whatever follows its encoding. Without its last
byte, and with a timestamp of 2^32, it does not arrive. -/
theorem returns_encoded_value_root :
    let coordinator : Handle := ⟨"0x000000000000000000000000000000000000c0de", .rewardsCoordinator⟩
    let reader : Reader :=
      ⟨.given, { Bindings.empty with rewardsCoordinator := some coordinator }, .named "reads"⟩
    let request : Request := ⟨coordinator, Contract.currentClaimableRoot, [], some CallContext.latest⟩
    let call : Remote.Call :=
      ⟨Remote.canonical coordinator.address, Contract.currentClaimableRoot.selector, .text "latest"⟩
    let key := Remote.scriptKey (String.ofList (call.target.toList.map Char.toLower)) call.data
    let session (data : List UInt8) : Session Remote.Call Remote.Chain :=
      .start 0.0 ⟨[(key, .value (.mapping [("result", .text (Remote.hexText data))]))], []⟩
    let root : Word := ⟨List.replicate 32 7, rfl⟩
    let encoded (timestamp : Nat) : List UInt8 :=
      (AbiValue.tuple [.word root, .number timestamp, .number 5, .flag true]).encode
    let outcome (data : List UInt8) :=
      (Query.currentClaimableRoot.run Remote.node reader none (session data)).1
    (∀ data, Exchange Remote.node reader none .currentClaimableRoot (session data) (session data) request call
      data) ∧
      outcome (encoded (2 ^ 32 - 1) ++ [1, 2, 3]) = .ok (.root ⟨root.bytes, 2 ^ 32 - 1, 5, true⟩) ∧
      (∃ e, outcome ((encoded (2 ^ 32 - 1)).take 127) = .error e) ∧
      ∃ e, outcome (encoded (2 ^ 32)) = .error e := by
  intro coordinator reader request call key session root encoded outcome
  have hoffered : Remote.offered coordinator Contract.currentClaimableRoot = .ok () := if_pos (by decide)
  have hreply (data : List UInt8) : ∃ after, Remote.reply (session data).node call =
      (⟨[], .ok (.mapping [("result", .text (Remote.hexText data))])⟩, after) :=
    Remote.reply_of_lookup List.lookup_cons_self
  have hexchange (data : List UInt8) : Exchange Remote.node reader none .currentClaimableRoot (session data)
      (session data) request call data := by
    obtain ⟨after, hreply⟩ := hreply data
    exact {
      asks := .inl ⟨_, rfl, rfl, rfl, rfl⟩
      block_eq := rfl
      wired := fun _ => rfl
      connected := by rintro v ⟨⟩
      offered := hoffered
      accepted := rfl
      prepared := by
        change (Remote.wire request).mapError Failure.node = _
        rw [Remote.wire_of_no_inputs rfl coordinator rfl]
        rfl
      open_before := rfl
      returned := Remote.outcome_answer hreply
      open_after := rfl
      token_connected := by rintro ⟨⟩ }
  refine ⟨hexchange, ?_, ?_, ?_⟩
  · have hadmits : Contract.distributionRootType.Admits
        (.tuple [.word root, .number (2 ^ 32 - 1), .number 5, .flag true]) :=
      ⟨trivial, ⟨by decide, by decide⟩, ⟨by decide, by decide⟩, trivial, trivial⟩
    obtain ⟨a, ha, hrun⟩ := (returns_encoded_value (hexchange _)).2.2.1 _ [1, 2, 3] hadmits rfl
    cases ha
    exact hrun
  · refine (returns_encoded_value (hexchange _)).2.2.2.1 ?_
    rw [List.length_take]
    change min 127 _ < 128
    omega
  · refine (returns_encoded_value (hexchange _)).2.2.2.2 fun hpadded => ?_
    have hbyte : (1 : UInt8) ∈ ((encoded (2 ^ 32)).drop 32).take 28 := by decide +kernel
    exact absurd (hpadded.2.1 1 hbyte) (by decide)

end Query

end Restaking
