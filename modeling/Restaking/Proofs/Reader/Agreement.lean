import Restaking.Proofs.Reader.Lookup

/-!
# What is written out twice

The discipline of a call inside a context stands twice in the reader, once for all accessors of a wired
contract and once for the lookup of a strategy's token, with another scope of what is reworded. That lookup in
turn stands in two accessors. Either pair is compared from one session on: outcome, calls, wishes for handles,
clock and contexts at once. Nothing is taken of the node but, where calls are compared, that the question can
be put to the contract at all.
-/
namespace Restaking

variable {ρ σ : Type}

/-- How one call inside a context ends. -/
inductive Ending where
  /-- The context refuses, before the call or once it is answered. -/
  | refused (e : Failure)
  /-- The call itself fails. -/
  | failed (e : Failure)
  | answered (v : Value)

namespace Ending

/-- The answer; failures are not told apart. -/
def plain : Ending → Except Failure Value
  | refused e | failed e => .error e
  | answered v => .ok v

/-- The address in the answer. A refusal stays as it is, and what fails in the call itself is reworded. -/
def token : Ending → Except Failure Address
  | refused e => .error e
  | failed e => .error (.contractFetch "Failed to fetch token contract" (some e))
  | answered v => ofConversion (Address.ofAnswer v)

end Ending

namespace Node

variable (node : Node ρ σ)

/-- The contract at a handle offers a function, and the function takes these arguments. -/
def Provides (h : Handle) (f : Abi.Function) (arguments : List Argument) (state : σ) : Prop :=
  node.offers h f state = .ok () ∧ node.accepts f arguments = .ok ()

/-- A call inside a context that starts in `s` ends so, in the session named last. The context is looked at in
`s`, and once more where the call was answered if it did not fail. -/
inductive Ends (context : Option String) (request : Request) (s : Session ρ σ) :
    Ending → Session ρ σ → Prop where
  | refusedBefore {e : Failure} : (s.contextOf context).check s.clock = .error e →
    Ends context request s (.refused e) s
  | failed {e : Failure} {t : Session ρ σ} : (s.contextOf context).check s.clock = .ok () →
    node.call request s = (.error e, t) → Ends context request s (.failed e) t
  | refusedAfter {e : Failure} {v : Value} {t : Session ρ σ} :
    (s.contextOf context).check s.clock = .ok () → node.call request s = (.ok v, t) →
    (t.contextOf context).check t.clock = .error e → Ends context request s (.refused e) t
  | answered {v : Value} {t : Session ρ σ} : (s.contextOf context).check s.clock = .ok () →
    node.call request s = (.ok v, t) → (t.contextOf context).check t.clock = .ok () →
    Ends context request s (.answered v) t

theorem exists_ends (context : Option String) (request : Request) (s : Session ρ σ) :
    ∃ ending t, node.Ends context request s ending t := by
  cases hbefore : (s.contextOf context).check s.clock with
  | error e => exact ⟨_, _, .refusedBefore hbefore⟩
  | ok _ =>
    rcases hcall : node.call request s with ⟨e | v, t⟩
    · exact ⟨_, _, .failed hbefore hcall⟩
    · cases hafter : (t.contextOf context).check t.clock with
      | error e => exact ⟨_, _, .refusedAfter hbefore hcall hafter⟩
      | ok _ => exact ⟨_, _, .answered hbefore hcall hafter⟩

variable {node} {context : Option String} {h : Handle} {s t : Session ρ σ} {ending : Ending}

theorem callWithin_of_ends {f : Abi.Function} {arguments : List Argument}
    (he : node.Ends context ⟨h, f, arguments, some (s.contextOf context).block⟩ s ending t) :
    node.callWithin context h f arguments s = (ending.plain, t) := by
  rw [callWithin_apply]
  cases he with
  | refusedBefore hbefore =>
    rw [hbefore]
    rfl
  | failed hbefore hcall =>
    rw [hbefore, hcall]
    rfl
  | refusedAfter hbefore hcall hafter =>
    simp only [hbefore, hcall, hafter]
    rfl
  | answered hbefore hcall hafter =>
    simp only [hbefore, hcall, hafter]
    rfl

theorem call_eq_ok {request : Request} {v : Value} (hcall : node.call request s = (.ok v, t)) :
    ∃ wire, node.prepare request = .ok wire ∧ (node.answer request wire s.node).1.outcome = .ok v ∧
      t.calls = s.calls ++ [wire] := by
  cases hprepare : node.prepare request with
  | error e =>
    rw [call_of_prepare_eq_error node hprepare] at hcall
    cases hcall
  | ok wire =>
    rw [call_of_prepare_eq_ok node hprepare] at hcall
    obtain ⟨hanswer, rfl⟩ := Prod.ext_iff.1 hcall
    exact ⟨wire, rfl, hanswer, node.calls_answered request wire s⟩

end Node

namespace Reader

variable {node : Node ρ σ} {context : Option String} {strategy : Handle} {s t : Session ρ σ}

theorem tokenCall_of_provides (hprovided : node.Provides strategy Contract.underlyingToken [] s.node) :
    tokenCall node strategy context s =
      (node.call ⟨strategy, Contract.underlyingToken, [], some (s.contextOf context).block⟩).mapFailure
        asTokenFailure s := by
  obtain ⟨hoffers, haccepts⟩ := hprovided
  rw [tokenCall_apply, hoffers, haccepts]

theorem underlyingTokenAddress_of_ends
    (hprovided : node.Provides strategy Contract.underlyingToken [] s.node) {ending : Ending}
    (he : node.Ends context ⟨strategy, Contract.underlyingToken, [], some (s.contextOf context).block⟩ s
      ending t) :
    underlyingTokenAddress node strategy context s = (ending.token, t) := by
  have hasked (outcome : Except Failure Value) (u : Session ρ σ)
      (hcall : node.call ⟨strategy, Contract.underlyingToken, [], some (s.contextOf context).block⟩ s =
        (outcome, u)) : tokenCall node strategy context s = (outcome.mapError asTokenFailure, u) := by
    rw [tokenCall_of_provides hprovided, Action.mapFailure_apply, hcall]
  -- The rewording stands between the two checks, so that only a failed call meets it.
  rw [underlyingTokenAddress_eq_within, Action.within_apply]
  cases he with
  | refusedBefore hbefore =>
    rw [hbefore]
    rfl
  | failed hbefore hcall =>
    rw [hbefore, hasked _ _ hcall]
    rfl
  | refusedAfter hbefore hcall hafter =>
    rw [hbefore, hasked _ _ hcall]
    show (((t.contextOf context).check t.clock).bind _, t) = _
    rw [hafter]
    rfl
  | answered hbefore hcall hafter =>
    rw [hbefore, hasked _ _ hcall]
    show (((t.contextOf context).check t.clock).bind _, t) = _
    rw [hafter]
    rfl

/-- The second copy of the discipline agrees with the first. However a question for a strategy's token ends,
both leave the same session, and only what failed in the call itself is reworded: not a refusal of the
context, though it may be the same failure. -/
theorem token_lookup_agrees_with_call (node : Node ρ σ) (strategy : Handle) (context : Option String)
    (s : Session ρ σ) (hprovided : node.Provides strategy Contract.underlyingToken [] s.node) :
    let request : Request :=
      ⟨strategy, Contract.underlyingToken, [], some (s.contextOf context).block⟩
    (∃ ending t, node.Ends context request s ending t) ∧
      ∀ ending t, node.Ends context request s ending t →
        node.callWithin context strategy Contract.underlyingToken [] s = (ending.plain, t) ∧
          underlyingTokenAddress node strategy context s = (ending.token, t) := by
  intro request
  constructor
  · exact node.exists_ends context request s
  · intro ending t he
    constructor
    · exact Node.callWithin_of_ends he
    · exact underlyingTokenAddress_of_ends hprovided he

/-- Twice a caller cancels while the question is on its way. A strategy that then fails as a cancelled context
does is reworded, and one that answers is not: there the context refuses. -/
theorem token_lookup_agrees_with_call_cancelled :
    let strategy : Handle := ⟨"0x2222222222222222222222222222222222222222", .strategy⟩
    let session (next : Script) : Session Direct.Call Direct.Chain :=
      (Session.start 0.0
        ⟨[(strategy.address, [("underlyingToken", .after [.cancel "c"] next)])], []⟩).putContext "c"
        (.background CallContext.latest)
    let raising := session (.fail .cancelled)
    let answering := session (.value (.bytes (List.replicate 20 7)))
    let common (s : Session Direct.Call Direct.Chain) :=
      Direct.node.callWithin (some "c") strategy Contract.underlyingToken [] s
    let lookup (s : Session Direct.Call Direct.Chain) :=
      underlyingTokenAddress Direct.node strategy (some "c") s
    Direct.node.Provides strategy Contract.underlyingToken [] raising.node ∧
      Direct.node.Provides strategy Contract.underlyingToken [] answering.node ∧
      (common raising).1 = .error .cancelled ∧
      (lookup raising).1 = .error (asTokenFailure .cancelled) ∧
      (common answering).1 = .error .cancelled ∧ (lookup answering).1 = .error .cancelled ∧
      (lookup raising).2.calls = [⟨strategy.address, "underlyingToken", [], some (.text "latest")⟩] := by
  intro strategy session raising answering common lookup
  have hraising : Direct.node.Provides strategy Contract.underlyingToken [] raising.node := ⟨rfl, rfl⟩
  have hanswering : Direct.node.Provides strategy Contract.underlyingToken [] answering.node := ⟨rfl, rfl⟩
  let request : Request := ⟨strategy, Contract.underlyingToken, [], some CallContext.latest⟩
  have hfailed : Direct.node.Ends (some "c") request raising (.failed .cancelled)
      (Direct.node.call request raising).2 := .failed rfl rfl
  have hrefused : Direct.node.Ends (some "c") request answering (.refused .cancelled)
      (Direct.node.call request answering).2 := .refusedAfter rfl rfl rfl
  obtain ⟨hcommon, hlookup⟩ :=
    (token_lookup_agrees_with_call Direct.node strategy (some "c") raising hraising).2 _ _ hfailed
  obtain ⟨hcommon', hlookup'⟩ :=
    (token_lookup_agrees_with_call Direct.node strategy (some "c") answering hanswering).2 _ _ hrefused
  refine ⟨hraising, hanswering, congrArg Prod.fst hcommon, congrArg Prod.fst hlookup,
    congrArg Prod.fst hcommon', congrArg Prod.fst hlookup', ?_⟩
  rw [show lookup raising = _ from hlookup]
  rfl

theorem underlyingTokenAddress_eq_ok {token : Address}
    (h : underlyingTokenAddress node strategy context s = (.ok token, t)) :
    ∃ x, node.call ⟨strategy, Contract.underlyingToken, [], some (s.contextOf context).block⟩ s = (.ok x, t) ∧
      Address.ofAnswer x = .ok token := by
  rw [underlyingTokenAddress_eq_within] at h
  obtain ⟨_, u, hbefore, h⟩ := Action.bind_apply_eq_ok h
  obtain ⟨x, w, hasked, h⟩ := Action.bind_apply_eq_ok h
  obtain ⟨_, r, hafter, h⟩ := Action.bind_apply_eq_ok h
  obtain rfl : s = u := congrArg Prod.snd hbefore
  obtain rfl : w = r := congrArg Prod.snd hafter
  obtain rfl : w = t := congrArg Prod.snd h
  refine ⟨x, ?_, ?_⟩
  · rcases tokenCall_cases node strategy context s with ⟨e, hc⟩ | hc
    · rw [hc] at hasked
      cases hasked
    · rw [hc, Action.mapFailure_apply] at hasked
      obtain ⟨hfirst, hsecond⟩ := Prod.ext_iff.1 hasked
      exact Prod.ext (mapError_eq_ok hfirst) hsecond
  · exact mapError_eq_ok (congrArg Prod.fst h)

theorem block_strategyHandle (node : Node ρ σ) (context : Option String) (v : Value) (s : Session ρ σ) :
    ((strategyHandle node v s).2.contextOf context).block = (s.contextOf context).block := by
  cases context with
  | none => rfl
  | some name =>
    have hkeeps : (strategyHandle node v).Moves (Session.Keeps name) :=
      moves_strategyHandle node (Session.keeps_refl name) Session.keeps_trans
        (fun a interface => node.moves_handle_keeps name a.text interface) v
    exact (hkeeps s).block_eq

theorem strategyAndTokenHandle_eq_bind (node : Node ρ σ) (v : Value) (context : Option String) :
    strategyAndTokenHandle node v context =
      strategyAndToken node v context >>= fun r =>
        (fun t => (r.1, t, r.2)) <$> (node.handle r.2.text .token).mapFailure asTokenFailure := by
  simp [strategyAndTokenHandle, strategyAndToken]

end Reader

namespace Query

/-- From `s` to `t` a lookup found the token of a strategy. One handle was wished for, at the address that `v`
denotes, and one call was made: the strategy was asked for its token, at the block of the context. -/
structure Found (node : Node ρ σ) (context : Option String) (v : Value) (s : Session ρ σ) (strategy : Handle)
    (token : Address) (t : Session ρ σ) : Prop where
  strategy_eq : ∃ a, Address.ofInput "strategy address" v = .ok a ∧ strategy = ⟨a.text, .strategy⟩
  connections_eq : t.connections = s.connections ++ [(strategy.address, .strategy)]
  asked : ∃ wire x,
    let request : Request := ⟨strategy, Contract.underlyingToken, [], some (s.contextOf context).block⟩
    node.prepare request = .ok wire ∧ t.calls = s.calls ++ [wire] ∧
      (node.answer request wire (node.connect strategy.address .strategy s.node).2).1.outcome = .ok x ∧
      Address.ofAnswer x = .ok token

variable {node : Node ρ σ} {context : Option String} {v : Value} {s t : Session ρ σ} {strategy : Handle}
  {token : Address}

theorem found_of_strategyAndToken
    (h : Reader.strategyAndToken node v context s = (.ok (strategy, token), t)) :
    Found node context v s strategy token t := by
  obtain ⟨made, u, hmade, h⟩ := Action.bind_apply_eq_ok h
  obtain ⟨a, w, htoken, h⟩ := Action.bind_apply_eq_ok h
  cases h
  have hu : u = (Reader.strategyHandle node v s).2 := congrArg Prod.snd hmade.symm
  have hblock := Reader.block_strategyHandle node context v s
  have hcalls := Reader.calls_strategyHandle node v s
  obtain ⟨a, ha, rfl⟩ := Reader.strategyHandle_eq_ok node (congrArg Prod.fst hmade)
  have hhandle : u = (node.handle a.text .strategy s).2 := by
    rw [hu, Reader.strategyHandle_apply, ha]
  obtain ⟨x, hcall, hx⟩ := Reader.underlyingTokenAddress_eq_ok htoken
  have hconnections := node.connections_call
    ⟨⟨a.text, .strategy⟩, Contract.underlyingToken, [], some (u.contextOf context).block⟩ u
  obtain ⟨wire, hwire, hanswer, hwent⟩ := Node.call_eq_ok hcall
  rw [← hu] at hblock hcalls
  constructor
  · exact ⟨a, ha, rfl⟩
  · rw [hcall] at hconnections
    rw [hconnections, hhandle]
    exact node.connections_handle a.text .strategy s
  · rw [hblock] at hwire hanswer
    rw [hhandle, node.node_handle] at hanswer
    exact ⟨wire, x, hwire, by rw [hwent, hcalls], hanswer, hx⟩

/-- The two lookups of a strategy stay in step. Where the shorter one fails, the longer one has failed alike
and done the same until then. Where it finds a token, the longer one has done the same, then wishes for one
handle more, at the token, and gives it too or fails for that wish alone. -/
theorem lookups_agree (node : Node ρ σ) (reader : Reader) (context : Option String) (v : Value)
    (s : Session ρ σ) :
    let shorter := (strategyAndToken v).run node reader context s
    let longer := (strategyAndTokenHandle v).run node reader context s
    (∃ e t, shorter = (.error e, t) ∧ longer = (.error e, t)) ∨
      ∃ strategy token t u, Found node context v s strategy token t ∧
        shorter = (.ok (.strategyAndToken strategy token), t) ∧
        u.connections = t.connections ++ [(token.text, .token)] ∧ u.calls = t.calls ∧
        ((node.handle token.text .token t = (.ok ⟨token.text, .token⟩, u) ∧
            longer = (.ok (.strategyAndTokenHandle strategy ⟨token.text, .token⟩ token), u)) ∨
          ∃ cause, node.handle token.text .token t = (.error cause, u) ∧
            longer = (.error (.contractFetch "Failed to fetch token contract" (some cause)), u)) := by
  intro shorter longer
  have hshorter : shorter = ((Reader.strategyAndToken node v context s).1.map
      fun r => .strategyAndToken r.1 r.2, (Reader.strategyAndToken node v context s).2) :=
    Action.map_apply _ _ s
  have hlonger : longer = ((Reader.strategyAndTokenHandle node v context s).1.map
      fun r => .strategyAndTokenHandle r.1 r.2.1 r.2.2,
      (Reader.strategyAndTokenHandle node v context s).2) := Action.map_apply _ _ s
  rw [Reader.strategyAndTokenHandle_eq_bind, Action.bind_apply] at hlonger
  -- Both begin with the same lookup; from `t` on only the longer one does anything.
  rcases hfound : Reader.strategyAndToken node v context s with ⟨e | ⟨strategy, token⟩, t⟩
  · left
    rw [hfound] at hshorter hlonger
    exact ⟨e, t, hshorter, hlonger⟩
  · right
    have hconnections := node.connections_handle token.text .token t
    have hcalls := node.calls_handle token.text .token t
    rw [hfound] at hshorter hlonger
    simp only [Action.map_apply, Action.mapFailure_apply] at hlonger
    rcases hwish : node.handle token.text .token t with ⟨cause | h, u⟩
    · rw [hwish] at hconnections hcalls hlonger
      exact ⟨strategy, token, t, u, found_of_strategyAndToken hfound, hshorter, hconnections, hcalls,
        .inr ⟨cause, hwish, hlonger⟩⟩
    · obtain rfl := node.handle_eq_ok (congrArg Prod.fst hwish)
      rw [hwish] at hconnections hcalls hlonger
      exact ⟨strategy, token, t, u, found_of_strategyAndToken hfound, hshorter, hconnections, hcalls,
        .inl ⟨hwish, hlonger⟩⟩

end Query

end Restaking
