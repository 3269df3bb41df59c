import Restaking.Proofs.Reader.Plan
import Restaking.Proofs.Session.Contexts

/-!
# What a query may do to a session

The lookup of a strategy's token follows the discipline of the other accessors, written out once more with
its own wording of failures. With plans for the rest, every query is built from handles and calls alone: a
reflexive and transitive relation that those keep is kept by the sixteen accessors.
-/
namespace Restaking

variable {ρ σ : Type}

namespace Reader

variable (node : Node ρ σ)

/-- The question for a strategy's token, without the checks of the context around it. -/
def tokenCall (strategy : Handle) (context : Option String) : Action ρ σ Value :=
  Action.mapFailure asTokenFailure do
    node.offering strategy Contract.underlyingToken
    node.accepting Contract.underlyingToken []
    let block ← Action.blockOf context
    node.call ⟨strategy, Contract.underlyingToken, [], some block⟩

/-- The question, on the session that it is asked in. Whatever fails in it is reported in the same words. -/
theorem tokenCall_apply (strategy : Handle) (context : Option String) (s : Session ρ σ) :
    tokenCall node strategy context s =
      match node.offers strategy Contract.underlyingToken s.node with
      | .error e => (.error (asTokenFailure e), s)
      | .ok () =>
        match node.accepts Contract.underlyingToken [] with
        | .error e => (.error (asTokenFailure e), s)
        | .ok () =>
          (node.call ⟨strategy, Contract.underlyingToken, [], some (s.contextOf context).block⟩).mapFailure
            asTokenFailure s := by
  rw [tokenCall, Action.mapFailure_apply, Action.bind_apply, Node.offering]
  cases node.offers strategy Contract.underlyingToken s.node with
  | error e => rfl
  | ok u =>
    simp only [Action.bind_apply, Node.accepting, Action.ofExcept]
    cases node.accepts Contract.underlyingToken [] with
    | error e => rfl
    | ok u => exact (Action.mapFailure_apply _ _ _).symm

/-- The question fails before it is asked, or comes to one call. -/
theorem tokenCall_cases (strategy : Handle) (context : Option String) (s : Session ρ σ) :
    (∃ e, tokenCall node strategy context s = (.error e, s)) ∨
      tokenCall node strategy context s =
        (node.call ⟨strategy, Contract.underlyingToken, [], some (s.contextOf context).block⟩).mapFailure
          asTokenFailure s := by
  rw [tokenCall_apply]
  cases node.offers strategy Contract.underlyingToken s.node with
  | error e => exact .inl ⟨_, rfl⟩
  | ok u =>
    cases node.accepts Contract.underlyingToken [] with
    | error e => exact .inl ⟨_, rfl⟩
    | ok u => exact .inr rfl

theorem underlyingTokenAddress_eq_within (strategy : Handle) (context : Option String) :
    underlyingTokenAddress node strategy context =
      Action.within context (tokenCall node strategy context) fun v =>
        ofConversion (Address.ofAnswer v) := rfl

section

variable {R : Session ρ σ → Session ρ σ → Prop} (hrefl : ∀ s, R s s)
  (htrans : ∀ s t u, R s t → R t u → R s u)

include hrefl htrans

theorem moves_strategyHandle
    (hhandle : ∀ (a : Address) interface, (node.handle a.text interface).Moves R) (strategy : Value) :
    (strategyHandle node strategy).Moves R := by
  refine Action.Moves.mapFailure ?_ _
  exact (Action.moves_of_snd_eq hrefl fun _ => rfl).bind htrans fun a => hhandle a .strategy

omit htrans in
theorem moves_underlyingTokenAddress (hcall : ∀ request, (node.call request).Moves R)
    (strategy : Handle) (context : Option String) :
    (underlyingTokenAddress node strategy context).Moves R := by
  rw [underlyingTokenAddress_eq_within]
  refine Action.Moves.within hrefl (fun s => ?_) context _
  rcases tokenCall_cases node strategy context s with ⟨e, hc⟩ | hc
  · rw [hc]
    exact hrefl s
  · rw [hc]
    exact (hcall _).mapFailure _ s

end

end Reader

namespace Query

/-- The strategy of a query that looks one up. -/
def strategy? : Query → Option Value
  | strategyAndToken v | strategyAndTokenHandle v => some v
  | _ => none

/-- What a lookup gives for the strategy and the address of its token. -/
def finish (node : Node ρ σ) : Query → Handle → Address → Action ρ σ Answer
  | strategyAndTokenHandle _, h, token =>
    (fun t => .strategyAndTokenHandle h t token) <$>
      Action.mapFailure Reader.asTokenFailure (node.handle token.text .token)
  | _, h, token => pure (.strategyAndToken h token)

theorem plan_or_strategy (q : Query) : (∃ p, q.plan? = some p) ∨ ∃ v, q.strategy? = some v := by
  cases q <;> first | exact .inl ⟨_, rfl⟩ | exact .inr ⟨_, rfl⟩

/-- A lookup makes the strategy's handle, asks it for the token and finishes. -/
theorem run_eq_lookup {q : Query} {v : Value} (hq : q.strategy? = some v) (node : Node ρ σ)
    (reader : Reader) (context : Option String) :
    q.run node reader context = (do
      let h ← Reader.strategyHandle node v
      let token ← Reader.underlyingTokenAddress node h context
      q.finish node h token) := by
  cases q <;> simp only [strategy?, Option.some.injEq, reduceCtorEq] at hq <;> subst hq
  · simp [run, Reader.strategyAndToken, finish]
  · simp [run, Reader.strategyAndTokenHandle, finish]

/-- A lookup that has its strategy's handle, from there on. -/
theorem run_of_strategyHandle {q : Query} {v : Value} (hq : q.strategy? = some v) {node : Node ρ σ}
    {s u : Session ρ σ} {h : Handle} (hmade : Reader.strategyHandle node v s = (.ok h, u))
    (reader : Reader) (context : Option String) :
    q.run node reader context s =
      match (u.contextOf context).check u.clock with
      | .error e => (.error e, u)
      | .ok () =>
        match Reader.tokenCall node h context u with
        | (.error e, t) => (.error e, t)
        | (.ok x, t) =>
          match (t.contextOf context).check t.clock with
          | .error e => (.error e, t)
          | .ok () =>
            match Address.ofAnswer x with
            | .error c => (.error (.conversion c), t)
            | .ok token => q.finish node h token t := by
  rw [run_eq_lookup hq, Action.bind_apply, hmade]
  simp only [Action.bind_apply, Reader.underlyingTokenAddress_eq_within, Action.within_apply]
  cases (u.contextOf context).check u.clock with
  | error e => rfl
  | ok _ =>
    rcases Reader.tokenCall node h context u with ⟨e | x, t⟩
    · rfl
    · cases hafter : (t.contextOf context).check t.clock with
      | error e => simp only [hafter, Except.bind]
      | ok _ =>
        simp only [hafter, Except.bind]
        cases Address.ofAnswer x <;> rfl

section

variable {R : Session ρ σ → Session ρ σ → Prop} (hrefl : ∀ s, R s s)
  (htrans : ∀ s t u, R s t → R t u → R s u)

include hrefl

theorem moves_finish (node : Node ρ σ)
    (hhandle : ∀ (a : Address) interface, (node.handle a.text interface).Moves R) (q : Query) (h : Handle)
    (token : Address) : (q.finish node h token).Moves R := by
  cases q
  case strategyAndTokenHandle v => exact ((hhandle token .token).mapFailure _).map _
  all_goals exact Action.moves_of_snd_eq hrefl fun _ => rfl

include htrans

theorem moves_plan (node : Node ρ σ) (hcall : ∀ request, (node.call request).Moves R) (p : Plan)
    (reader : Reader) (context : Option String) : (p.run node reader context).Moves R := by
  intro s
  rcases p.run_cases node reader context s with ⟨e, hr⟩ | ⟨h, arguments, _, _, hr⟩
  · rw [hr]
    exact hrefl s
  · rw [hr]
    rw [Node.callWithin_eq_within]
    have asked : (Action.blockOf context >>= fun block =>
        node.call ⟨h, p.function, arguments, some block⟩).Moves R := fun s => hcall _ s
    exact (asked.within hrefl context _).bind htrans
      (fun v => Action.moves_of_snd_eq hrefl fun _ => rfl) s

/-- What handles and calls keep, every query keeps. It asks for handles at canonical texts alone. -/
theorem moves_run (node : Node ρ σ)
    (hhandle : ∀ (a : Address) interface, (node.handle a.text interface).Moves R)
    (hcall : ∀ request, (node.call request).Moves R) (reader : Reader) (context : Option String)
    (q : Query) : (q.run node reader context).Moves R := by
  rcases q.plan_or_strategy with ⟨p, hp⟩ | ⟨v, hv⟩
  · rw [run_eq_plan hp]
    exact moves_plan hrefl htrans node hcall p reader context
  · rw [run_eq_lookup hv]
    refine (Reader.moves_strategyHandle node hrefl htrans hhandle v).bind htrans fun h => ?_
    refine (Reader.moves_underlyingTokenAddress node hrefl hcall h context).bind htrans fun token => ?_
    exact moves_finish hrefl node hhandle q h token

end

end Query

end Restaking
