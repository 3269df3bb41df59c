import Restaking.Proofs.Except
import Restaking.Proofs.Reader.Movement
import Restaking.Proofs.Reader.Pipeline

/-!
# The call of a query

A query comes to one question, known before anything is asked, and makes one call for it or none.
-/
namespace Restaking

variable {ρ σ : Type}

namespace Query

/-- The question that a query comes to: a function of a handle, with these arguments. -/
def Asks (q : Query) (reader : Reader) (h : Handle) (f : Abi.Function) (arguments : List Argument) : Prop :=
  (∃ p, q.plan? = some p ∧ reader.handles.get p.contract = some h ∧ f = p.function ∧
    p.arguments = .ok arguments) ∨
  ∃ v a, q.strategy? = some v ∧ Address.ofInput "strategy address" v = .ok a ∧
    h = ⟨a.text, .strategy⟩ ∧ f = Contract.underlyingToken ∧ arguments = []

theorem strategy?_of_plan? {q : Query} {p : Plan} (hp : q.plan? = some p) : q.strategy? = none := by
  cases q <;> first | rfl | cases hp

/-- A query comes to one question alone. -/
theorem Asks.unique {q : Query} {reader : Reader} {h h' : Handle} {f f' : Abi.Function}
    {arguments arguments' : List Argument} (ha : q.Asks reader h f arguments)
    (hb : q.Asks reader h' f' arguments') : h = h' ∧ f = f' ∧ arguments = arguments' := by
  rcases ha with ⟨p, hp, hh, rfl, ha⟩ | ⟨v, a, hv, ha, rfl, rfl, rfl⟩
  · rcases hb with ⟨p', hp', hh', rfl, ha'⟩ | ⟨v, a, hv, -⟩
    · cases hp.symm.trans hp'
      cases hh.symm.trans hh'
      cases ha.symm.trans ha'
      exact ⟨rfl, rfl, rfl⟩
    · rw [strategy?_of_plan? hp] at hv
      cases hv
  · rcases hb with ⟨p, hp, -⟩ | ⟨v', a', hv', ha', rfl, rfl, rfl⟩
    · rw [strategy?_of_plan? hp] at hv
      cases hv
    · cases hv.symm.trans hv'
      cases ha.symm.trans ha'
      exact ⟨rfl, rfl, rfl⟩

end Query

theorem Action.calls_bind {α β : Type} {a : Action ρ σ α} {f : α → Action ρ σ β}
    (hf : ∀ x t, (f x t).2.calls = t.calls) (s : Session ρ σ) :
    ((a >>= f) s).2.calls = (a s).2.calls := by
  rw [bind_apply]
  rcases a s with ⟨_ | x, t⟩
  · rfl
  · exact hf x t

namespace Node

variable (node : Node ρ σ)

theorem calls_call (request : Request) (s : Session ρ σ) :
    (node.call request s).2.calls = s.calls ∨
      ∃ wire, node.prepare request = .ok wire ∧ (node.call request s).2.calls = s.calls ++ [wire] := by
  cases h : node.prepare request with
  | error e =>
    rw [call_of_prepare_eq_error node h]
    exact .inl rfl
  | ok wire =>
    rw [call_of_prepare_eq_ok node h]
    exact .inr ⟨wire, rfl, node.calls_answered request wire s⟩

theorem calls_callWithin (context : Option String) (h : Handle) (f : Abi.Function)
    (arguments : List Argument) (s : Session ρ σ) :
    (node.callWithin context h f arguments s).2.calls = s.calls ∨
      ∃ wire, node.prepare ⟨h, f, arguments, some (s.contextOf context).block⟩ = .ok wire ∧
        (node.callWithin context h f arguments s).2.calls = s.calls ++ [wire] := by
  rw [callWithin_eq_within]
  rcases Action.within_snd_cases context (do
    let block ← Action.blockOf context
    node.call ⟨h, f, arguments, some block⟩) .ok s with hw | hw
  · exact .inl (by rw [hw])
  · rw [hw]
    exact node.calls_call _ s

end Node

namespace Reader

variable (node : Node ρ σ)

theorem calls_underlyingTokenAddress (strategy : Handle) (context : Option String)
    (s : Session ρ σ) :
    (underlyingTokenAddress node strategy context s).2.calls = s.calls ∨
      ∃ wire, node.prepare ⟨strategy, Contract.underlyingToken, [], some (s.contextOf context).block⟩ =
          .ok wire ∧
        (underlyingTokenAddress node strategy context s).2.calls = s.calls ++ [wire] := by
  rw [underlyingTokenAddress_eq_within]
  rcases Action.within_snd_cases context (tokenCall node strategy context)
    (fun v => ofConversion (Address.ofAnswer v)) s with hw | hw
  · exact .inl (by rw [hw])
  · rw [hw]
    rcases tokenCall_cases node strategy context s with ⟨e, hc⟩ | hc
    · rw [hc]
      exact .inl rfl
    · rw [hc, Action.mapFailure_apply]
      exact node.calls_call _ s

theorem strategyHandle_apply (v : Value) (s : Session ρ σ) :
    strategyHandle node v s =
      match Address.ofInput "strategy address" v with
      | .error e => (.error (.contractFetch "Failed to fetch strategy contract" (some (.input e))), s)
      | .ok a =>
        ((node.handle a.text .strategy s).1.mapError fun e =>
          .contractFetch "Failed to fetch strategy contract" (some e),
         (node.handle a.text .strategy s).2) := by
  rw [strategyHandle, Action.mapFailure_apply, Action.bind_apply, Action.ofExcept]
  cases Address.ofInput "strategy address" v <;> rfl

theorem calls_strategyHandle (v : Value) (s : Session ρ σ) :
    (strategyHandle node v s).2.calls = s.calls := by
  rw [strategyHandle_apply]
  cases Address.ofInput "strategy address" v with
  | error e => rfl
  | ok a => exact node.calls_handle a.text .strategy s

theorem strategyHandle_eq_ok {v : Value} {s : Session ρ σ} {h : Handle}
    (hh : (strategyHandle node v s).1 = .ok h) :
    ∃ a, Address.ofInput "strategy address" v = .ok a ∧ h = ⟨a.text, .strategy⟩ := by
  rw [strategyHandle_apply] at hh
  cases ha : Address.ofInput "strategy address" v with
  | error e =>
    rw [ha] at hh
    cases hh
  | ok a =>
    rw [ha] at hh
    exact ⟨a, rfl, node.handle_eq_ok (mapError_eq_ok hh)⟩

end Reader

namespace Query

variable (node : Node ρ σ) (reader : Reader) (context : Option String)

theorem calls_finish (q : Query) (h : Handle) (token : Address) (s : Session ρ σ) :
    (q.finish node h token s).2.calls = s.calls := by
  cases q
  case strategyAndTokenHandle v =>
    rw [finish, Action.map_apply, Action.mapFailure_apply]
    exact node.calls_handle token.text .token s
  all_goals rfl

/-- A query makes no call, or the one call for its question. -/
theorem calls_run (q : Query) (s : Session ρ σ) :
    (q.run node reader context s).2.calls = s.calls ∨
      ∃ h f arguments block wire, q.Asks reader h f arguments ∧
        node.prepare ⟨h, f, arguments, block⟩ = .ok wire ∧
        (q.run node reader context s).2.calls = s.calls ++ [wire] := by
  rcases q.plan_or_strategy with ⟨p, hp⟩ | ⟨v, hv⟩
  · rw [run_eq_plan hp]
    rcases p.run_cases node reader context s with ⟨e, hr⟩ | ⟨h, arguments, hh, ha, hr⟩
    · rw [hr]
      exact .inl rfl
    · rw [hr, Action.calls_bind fun _ _ => rfl]
      rcases node.calls_callWithin context h p.function arguments s with hc | ⟨wire, hwire, hc⟩
      · exact .inl hc
      · exact .inr ⟨h, p.function, arguments, _, wire, .inl ⟨p, hp, hh, rfl, ha⟩, hwire, hc⟩
  · have hcalls := Reader.calls_strategyHandle node v s
    rw [run_eq_lookup hv, Action.bind_apply]
    rcases hs : Reader.strategyHandle node v s with ⟨e | h, t⟩
    · rw [hs] at hcalls
      exact .inl hcalls
    · rw [hs] at hcalls
      obtain ⟨a, ha, rfl⟩ := Reader.strategyHandle_eq_ok node (congrArg Prod.fst hs)
      simp only
      have hfinish := Action.calls_bind (fun token u => q.calls_finish node ⟨a.text, .strategy⟩ token u) t
        (a := Reader.underlyingTokenAddress node ⟨a.text, .strategy⟩ context)
      rw [hfinish, ← hcalls]
      rcases Reader.calls_underlyingTokenAddress node ⟨a.text, .strategy⟩ context t with
        hc | ⟨wire, hwire, hc⟩
      · exact .inl hc
      · exact .inr ⟨_, _, _, _, wire, .inr ⟨v, a, hv, ha, rfl, rfl, rfl⟩, hwire, hc⟩

/-- A query whose arguments are accepted makes its call, if the context is open and the call can be made. -/
theorem calls_of_prepare_eq_ok {q : Query} {p : Plan} {h : Handle} {arguments : List Argument}
    {s : Session ρ σ} {wire : ρ} (hp : q.plan? = some p) (hh : reader.handles.get p.contract = some h)
    (hoffers : node.offers h p.function s.node = .ok ()) (ha : p.arguments = .ok arguments)
    (haccepts : node.accepts p.function arguments = .ok ())
    (hopen : (s.contextOf context).check s.clock = .ok ())
    (hprepare : node.prepare ⟨h, p.function, arguments, some (s.contextOf context).block⟩ = .ok wire) :
    (q.run node reader context s).2.calls = s.calls ++ [wire] := by
  rw [run_eq_plan hp, Plan.run_of_arguments_eq_ok hh hoffers ha haccepts, Action.calls_bind fun _ _ => rfl,
    Node.callWithin_apply, hopen, ← node.calls_answered _ wire s]
  simp only [Node.call_of_prepare_eq_ok node hprepare]
  cases (node.answer _ wire s.node).1.outcome <;> rfl

/-- A query whose call cannot be made fails, and leaves everything as it was. -/
theorem run_of_prepare_error {q : Query} {p : Plan} {h : Handle}
    {arguments : List Argument} (hp : q.plan? = some p) (hh : reader.handles.get p.contract = some h)
    (ha : p.arguments = .ok arguments)
    (hprepare : ∀ block, ∃ e, node.prepare ⟨h, p.function, arguments, block⟩ = .error e)
    (s : Session ρ σ) :
    ∃ e, q.run node reader context s = (.error e, s) := by
  rw [run_eq_plan hp]
  rcases p.run_cases node reader context s with ⟨e, hr⟩ | ⟨h', arguments', hh', ha', hr⟩
  · exact ⟨e, hr⟩
  · cases hh.symm.trans hh'
    cases ha.symm.trans ha'
    obtain ⟨e, hprepare⟩ := hprepare (some (s.contextOf context).block)
    rw [hr, Action.bind_apply, Node.callWithin_apply]
    cases (s.contextOf context).check s.clock with
    | error e => exact ⟨e, rfl⟩
    | ok u =>
      rw [Node.call_of_prepare_eq_error node hprepare]
      exact ⟨e, rfl⟩

end Query

end Restaking
