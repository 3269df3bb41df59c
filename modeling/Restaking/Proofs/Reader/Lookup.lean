import Restaking.Node.Direct
import Restaking.Proofs.Address.Text
import Restaking.Proofs.Reader.Calls

/-!
# Failures of a strategy's lookup

Nothing is taken of the node: handles and the question may fail with anything, and any value may be answered.
What escapes the two wordings of a lookup is then the refusal of its context, which is meant, and the
refusal of an answer that denotes no address, which is not: that answer is read after the question is over.
A function that the strategy does not offer counts as a question that failed, though no call is made for it.
-/
namespace Restaking

variable {ρ σ : Type}

theorem CallContext.check_eq_error {c : CallContext} {now : Float} {e : Failure}
    (h : c.check now = .error e) : e = .cancelled ∨ e = .deadlineExceeded := by
  unfold check at h
  split at h
  · exact .inl (Except.error.inj h).symm
  · split at h
    · exact .inr (Except.error.inj h).symm
    · cases h

namespace Reader

variable (node : Node ρ σ)

/-- The question for a strategy's token, before its failures are reworded. -/
def tokenQuestion (strategy : Handle) (context : Option String) : Action ρ σ Value := do
  node.offering strategy Contract.underlyingToken
  node.accepting Contract.underlyingToken []
  let block ← Action.blockOf context
  node.call ⟨strategy, Contract.underlyingToken, [], some block⟩

theorem tokenCall_eq_mapFailure (strategy : Handle) (context : Option String) :
    tokenCall node strategy context = (tokenQuestion node strategy context).mapFailure asTokenFailure := rfl

/-- What keeps a lookup from having its strategy's handle. -/
def StrategyFault (v : Value) (s : Session ρ σ) (c : Failure) : Prop :=
  (∃ i, Address.ofInput "strategy address" v = .error i ∧ c = .input i) ∨
    ∃ a, Address.ofInput "strategy address" v = .ok a ∧ (node.handle a.text .strategy s).1 = .error c

/-- What goes wrong once the strategy is there: the question to it, or the handle of the token. -/
def TokenFault (strategy : Handle) (context : Option String) (s : Session ρ σ) (c : Failure) : Prop :=
  (tokenQuestion node strategy context s).1 = .error c ∨
    ∃ (x : Value) (t : Session ρ σ) (token : Address), tokenQuestion node strategy context s = (.ok x, t) ∧
      Address.ofAnswer x = .ok token ∧ (node.handle token.text .token t).1 = .error c

variable {node}

theorem strategyFault_of_strategyHandle {v : Value} {s u : Session ρ σ} {e : Failure}
    (h : strategyHandle node v s = (.error e, u)) :
    ∃ c, e = .contractFetch "Failed to fetch strategy contract" (some c) ∧ StrategyFault node v s c := by
  rw [strategyHandle_apply] at h
  cases ha : Address.ofInput "strategy address" v with
  | error i =>
    rw [ha] at h
    cases h
    exact ⟨.input i, rfl, .inl ⟨i, ha, rfl⟩⟩
  | ok a =>
    rw [ha] at h
    obtain ⟨c, hc, rfl⟩ := mapError_eq_error (congrArg Prod.fst h)
    exact ⟨c, rfl, .inr ⟨a, ha, hc⟩⟩

theorem tokenQuestion_of_tokenCall_eq_ok {strategy : Handle} {context : Option String} {s t : Session ρ σ}
    {x : Value} (h : tokenCall node strategy context s = (.ok x, t)) :
    tokenQuestion node strategy context s = (.ok x, t) := by
  rw [tokenCall_eq_mapFailure, Action.mapFailure_apply] at h
  obtain ⟨hfirst, hsecond⟩ := Prod.ext_iff.1 h
  exact Prod.ext (mapError_eq_ok hfirst) hsecond

theorem tokenQuestion_of_tokenCall_eq_error {strategy : Handle} {context : Option String}
    {s t : Session ρ σ} {e : Failure} (h : tokenCall node strategy context s = (.error e, t)) :
    ∃ c, e = asTokenFailure c ∧ (tokenQuestion node strategy context s).1 = .error c := by
  rw [tokenCall_eq_mapFailure, Action.mapFailure_apply] at h
  obtain ⟨c, hc, rfl⟩ := mapError_eq_error (congrArg Prod.fst h)
  exact ⟨c, rfl, hc⟩

end Reader

namespace Query

/-- The answer to a lookup's question denotes no address, for the reason `c`, while the context is open. -/
def MalformedAnswer (node : Node ρ σ) (context : Option String) (v : Value) (s : Session ρ σ)
    (c : ConversionError) : Prop :=
  ∃ h u x t, Reader.strategyHandle node v s = (.ok h, u) ∧
    (u.contextOf context).check u.clock = .ok () ∧
    Reader.tokenCall node h context u = (.ok x, t) ∧
    (t.contextOf context).check t.clock = .ok () ∧ Address.ofAnswer x = .error c

variable {q : Query} {v : Value} {node : Node ρ σ} {context : Option String} {s t : Session ρ σ}

/-- The refusal of the answer escapes as it is, after the one call of the lookup. -/
theorem run_of_malformedAnswer (hq : q.strategy? = some v) (reader : Reader) {c : ConversionError}
    (hc : MalformedAnswer node context v s c) :
    (q.run node reader context s).1 = .error (.conversion c) ∧
      ∃ wire, (q.run node reader context s).2.calls = s.calls ++ [wire] := by
  obtain ⟨h, u, x, t, hmade, hbefore, hanswer, hafter, hx⟩ := hc
  have hrun : q.run node reader context s = (.error (.conversion c), t) := by
    rw [run_of_strategyHandle hq hmade, hbefore]
    simp only [hanswer, hafter, hx]
  have hcalls : u.calls = s.calls := by
    rw [← Reader.calls_strategyHandle node v s, hmade]
  rw [hrun]
  refine ⟨rfl, ?_⟩
  rcases Reader.tokenCall_cases node h context u with ⟨e, he⟩ | hcall
  · rw [he] at hanswer
    cases hanswer
  · rw [hcall, Action.mapFailure_apply] at hanswer
    cases hprepare : node.prepare ⟨h, Contract.underlyingToken, [], some (u.contextOf context).block⟩ with
    | error e =>
      rw [Node.call_of_prepare_eq_error node hprepare] at hanswer
      cases congrArg Prod.fst hanswer
    | ok wire =>
      rw [Node.call_of_prepare_eq_ok node hprepare] at hanswer
      obtain rfl := congrArg Prod.snd hanswer
      exact ⟨wire, by rw [← hcalls]; exact node.calls_answered _ wire u⟩

theorem failure_of_finish (q : Query) {h : Handle} {token : Address} {e : Failure}
    (hrun : q.finish node h token s = (.error e, t)) :
    ∃ c, e = .contractFetch "Failed to fetch token contract" (some c) ∧
      (node.handle token.text .token s).1 = .error c := by
  have hfirst := congrArg Prod.fst hrun
  cases q
  case strategyAndTokenHandle =>
    rw [finish, Action.map_apply, Action.mapFailure_apply] at hfirst
    obtain ⟨c, hc, rfl⟩ := mapError_eq_error (map_eq_error hfirst)
    exact ⟨c, rfl, hc⟩
  all_goals cases hfirst

/-- Where a lookup fails, after its strategy's handle is had. -/
theorem failure_of_strategyHandle (hq : q.strategy? = some v) {reader : Reader} {h : Handle}
    {u : Session ρ σ} (hmade : Reader.strategyHandle node v s = (.ok h, u)) {e : Failure}
    (hrun : q.run node reader context s = (.error e, t))
    (hformed : ∀ c, ¬ MalformedAnswer node context v s c) :
    ((e = .cancelled ∨ e = .deadlineExceeded) ∧ (t.contextOf context).check t.clock = .error e) ∨
      ∃ c, e = .contractFetch "Failed to fetch token contract" (some c) ∧
        Reader.TokenFault node h context u c := by
  rw [run_of_strategyHandle hq hmade] at hrun
  -- The stages in their order: each is where the lookup fails, or it is over.
  cases hbefore : (u.contextOf context).check u.clock with
  | error e' =>
    simp only [hbefore] at hrun
    cases hrun
    exact .inl ⟨CallContext.check_eq_error hbefore, hbefore⟩
  | ok _ =>
    rcases hquestion : Reader.tokenCall node h context u with ⟨e' | x, w⟩
    · simp only [hbefore, hquestion] at hrun
      cases hrun
      obtain ⟨c, rfl, hc⟩ := Reader.tokenQuestion_of_tokenCall_eq_error hquestion
      exact .inr ⟨c, rfl, .inl hc⟩
    · cases hafter : (w.contextOf context).check w.clock with
      | error e' =>
        simp only [hbefore, hquestion, hafter] at hrun
        cases hrun
        exact .inl ⟨CallContext.check_eq_error hafter, hafter⟩
      | ok _ =>
        cases hx : Address.ofAnswer x with
        | error c => exact absurd ⟨h, u, x, w, hmade, hbefore, hquestion, hafter, hx⟩ (hformed c)
        | ok token =>
          simp only [hbefore, hquestion, hafter, hx] at hrun
          obtain ⟨c, rfl, hc⟩ := q.failure_of_finish hrun
          have hasked := Reader.tokenQuestion_of_tokenCall_eq_ok hquestion
          exact .inr ⟨c, rfl, .inr ⟨x, w, token, hasked, hx, hc⟩⟩

/-- A lookup's failure is classified unless the answer to its question is malformed, and then it never is. It
is the refusal of the context as it stands, or worded for the strategy, before any call, or worded for the
token, with the strategy at hand; a worded one has what was caught as its cause. -/
theorem lookup_failure_classified (hq : q.strategy? = some v) (node : Node ρ σ) (reader : Reader)
    (context : Option String) (s : Session ρ σ) :
    let r := q.run node reader context s
    (∀ c, MalformedAnswer node context v s c →
      r.1 = .error (.conversion c) ∧ ∃ wire, r.2.calls = s.calls ++ [wire]) ∧
    ∀ e, r.1 = .error e → (∀ c, ¬ MalformedAnswer node context v s c) →
      ((e = .cancelled ∨ e = .deadlineExceeded) ∧ (r.2.contextOf context).check r.2.clock = .error e) ∨
      (∃ c, e = .contractFetch "Failed to fetch strategy contract" (some c) ∧
        Reader.StrategyFault node v s c ∧ r.2.calls = s.calls) ∨
      ∃ h u c, e = .contractFetch "Failed to fetch token contract" (some c) ∧
        Reader.strategyHandle node v s = (.ok h, u) ∧ Reader.TokenFault node h context u c := by
  intro r
  refine ⟨fun c hc => run_of_malformedAnswer hq reader hc, fun e he hformed => ?_⟩
  rcases hmade : Reader.strategyHandle node v s with ⟨e' | h, u⟩
  · have hcalls := Reader.calls_strategyHandle node v s
    have hr : r = (.error e', u) := by
      change q.run node reader context s = _
      rw [run_eq_lookup hq, Action.bind_apply, hmade]
    rw [hr] at he
    cases he
    obtain ⟨c, rfl, hc⟩ := Reader.strategyFault_of_strategyHandle hmade
    rw [hmade] at hcalls
    exact .inr (.inl ⟨c, rfl, hc, by rw [hr]; exact hcalls⟩)
  · rcases failure_of_strategyHandle hq hmade (Prod.ext he rfl) hformed with hrefused | ⟨c, rfl, hc⟩
    · exact .inl hrefused
    · exact .inr (.inr ⟨h, u, c, rfl, rfl, hc⟩)

/-! ## A strategy that is asked directly -/

/-- A node with one strategy, whose token a script gives. -/
def strategyChain (strategy : Address) (script : Script) : Direct.Chain :=
  ⟨[(strategy.text, [(Contract.underlyingToken.name, script)])], []⟩

theorem strategyHandle_strategyChain (strategy : Address) (script : Script) :
    Reader.strategyHandle Direct.node (.text strategy.text)
        (.start 0.0 (strategyChain strategy script)) =
      (.ok ⟨strategy.text, .strategy⟩,
        { Session.start 0.0 (strategyChain strategy script) with
          connections := [(strategy.text, .strategy)] }) := by
  rw [Reader.strategyHandle_apply, Address.ofInput_text]
  rfl

theorem tokenCall_strategyChain (strategy : Address) (script : Script) {s : Session Direct.Call Direct.Chain}
    (hs : s.node = strategyChain strategy script) (context : Option String) :
    (Reader.tokenCall Direct.node ⟨strategy.text, .strategy⟩ context s).1 =
      script.play.1.outcome.mapError Reader.asTokenFailure := by
  have hcontract : s.node.functionsOf strategy.text = [(Contract.underlyingToken.name, script)] := by
    rw [hs, strategyChain, Direct.Chain.functionsOf, List.lookup_cons_self]
    rfl
  have hoffers : Direct.node.offers ⟨strategy.text, .strategy⟩ Contract.underlyingToken s.node = .ok () := by
    simp only [Direct.node, hcontract, List.lookup_cons_self]
  have hplay : (s.node.functionsOf strategy.text).play? Contract.underlyingToken.name =
      some (script.play.1, [(Contract.underlyingToken.name, script.play.2)]) := by
    rw [hcontract]
    rfl
  rw [Reader.tokenCall_apply, hoffers]
  change ((Direct.node.call _).mapFailure Reader.asTokenFailure s).1 = _
  rw [Action.mapFailure_apply, Node.call_of_prepare_eq_ok Direct.node rfl]
  simp only [Direct.node, hplay]

/-- A node on which the question fails lets the lookup fail. -/
theorem run_strategyChain_fail {strategy : Address} (hq : q.strategy? = some (.text strategy.text))
    (reader : Reader) (c : Failure) :
    (q.run Direct.node reader none (.start 0.0 (strategyChain strategy (.fail c)))).1 =
      .error (Reader.asTokenFailure c) := by
  have hmade := strategyHandle_strategyChain strategy (.fail c)
  generalize hu : ({ Session.start 0.0 (strategyChain strategy (.fail c)) with
    connections := [(strategy.text, .strategy)] } : Session Direct.Call Direct.Chain) = u at hmade
  have hstate : u.node = strategyChain strategy (.fail c) := by rw [← hu]; rfl
  have hopen : (u.contextOf none).check u.clock = .ok () := rfl
  have hquestion := tokenCall_strategyChain strategy (.fail c) hstate none
  rcases ht : Reader.tokenCall Direct.node ⟨strategy.text, .strategy⟩ none u with ⟨e | x, t⟩
  · rw [ht] at hquestion
    cases hquestion
    rw [run_of_strategyHandle hq hmade]
    simp only [hopen, ht]
  · rw [ht] at hquestion
    cases hquestion

theorem malformedAnswer_strategyChain (strategy : Address) {x : Value} {c : ConversionError}
    (hx : Address.ofAnswer x = .error c) :
    MalformedAnswer Direct.node none (.text strategy.text)
      (.start 0.0 (strategyChain strategy (.value x))) c := by
  have hmade := strategyHandle_strategyChain strategy (.value x)
  have hquestion := tokenCall_strategyChain strategy (.value x) (s := { Session.start 0.0
    (strategyChain strategy (.value x)) with connections := [(strategy.text, .strategy)] }) rfl none
  exact ⟨_, _, x, _, hmade, rfl, Prod.ext hquestion rfl, rfl, hx⟩

/-- A question that is reverted is worded for the token, and the revert is its cause. -/
theorem lookup_failure_classified_reverted :
    let strategy : Address := ⟨List.replicate 20 0x22, rfl⟩
    let revert : Failure := .other "RuntimeError" "execution reverted"
    let s : Session Direct.Call Direct.Chain := .start 0.0 (strategyChain strategy (.fail revert))
    let reader : Reader := ⟨.given, .empty, .named "reads"⟩
    let q : Query := .strategyAndTokenHandle (.text strategy.text)
    q.strategy? = some (.text strategy.text) ∧
      (q.run Direct.node reader none s).1 = .error (Reader.asTokenFailure revert) ∧
      ∃ h u c, Reader.asTokenFailure revert =
          .contractFetch "Failed to fetch token contract" (some c) ∧
        Reader.strategyHandle Direct.node (.text strategy.text) s = (.ok h, u) ∧
        Reader.TokenFault Direct.node h none u c := by
  intro strategy revert s reader q
  have hrun : (q.run Direct.node reader none s).1 = .error (Reader.asTokenFailure revert) :=
    run_strategyChain_fail rfl reader revert
  have hformed (c : ConversionError) : ¬ MalformedAnswer Direct.node none (.text strategy.text) s c := by
    intro hc
    rw [(run_of_malformedAnswer rfl reader hc).1] at hrun
    cases hrun
  have hclassified := (lookup_failure_classified rfl Direct.node reader none s).2 _ hrun hformed
  refine ⟨rfl, hrun, ?_⟩
  rcases hclassified with ⟨hcancelled | hdeadline, -⟩ | ⟨c, hworded, -⟩ | hasked
  · cases hcancelled
  · cases hdeadline
  · exact absurd (Failure.contractFetch.inj hworded).1 (by decide)
  · exact hasked

/-- Two bytes are no address, and the refusal of that answer is neither the context's nor worded. -/
theorem malformed_token_escapes :
    let strategy : Address := ⟨List.replicate 20 0x22, rfl⟩
    let s : Session Direct.Call Direct.Chain :=
      .start 0.0 (strategyChain strategy (.value (.text "0x1234")))
    let reader : Reader := ⟨.given, .empty, .named "reads"⟩
    ∃ e, ((Query.strategyAndToken (.text strategy.text)).run Direct.node reader none s).1 = .error e ∧
      e ≠ .cancelled ∧ e ≠ .deadlineExceeded ∧ ∀ subject cause, e ≠ .contractFetch subject cause := by
  intro strategy s reader
  have hx : Address.ofAnswer (.text "0x1234") = .error .notAddress := rfl
  have hmalformed := malformedAnswer_strategyChain strategy hx
  refine ⟨.conversion .notAddress, (run_of_malformedAnswer rfl reader hmalformed).1, ?_, ?_, ?_⟩
  · rintro ⟨⟩
  · rintro ⟨⟩
  · rintro subject cause ⟨⟩

end Query

end Restaking
