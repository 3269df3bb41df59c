import Restaking.Query
import Restaking.Proofs.Session.Action

/-!
# Accessors as data

Fourteen of the sixteen accessors read one function of one wired contract. A plan says which contract and
function, what is made of each argument and what of the answer; `Query.run_eq_plan` says that such an
accessor does what its plan says. The two lookups of strategies wire nothing and have no plan.
-/
namespace Restaking

variable {ρ σ : Type}

/-- A parameter of an accessor with the value given for it. -/
inductive Parameter where
  | account (label : String) (given : Value)
  | hash (label : String) (given : Value)
  | amount (given : Value)
  | claim (given : Value)

/-- The argument of the call; a claim that the caller laid out stays as it is. -/
def Parameter.normalize : Parameter → Except Failure Argument
  | account label v => (ofInput (Address.ofInput label v)).map .address
  | hash label v => (ofInput (Word.ofInput label v)).map .word
  | amount v => (ofConversion v.toInteger).map .integer
  | claim (.claim c) => c.normalize.map .claim
  | claim v => .ok (.raw v)

/-- The handle of a contract, if it is wired. -/
def Bindings.get (b : Bindings) : Interface → Option Handle
  | .slasher => b.slasher
  | .delegationManager => b.delegationManager
  | .strategyManager => b.strategyManager
  | .avsDirectory => b.avsDirectory
  | .rewardsCoordinator => b.rewardsCoordinator
  | .strategy | .token => none

/-- The name under which a missing contract is reported. -/
def Reader.contractName : Interface → String
  | .slasher => slasherName
  | .delegationManager => delegationManagerName
  | .strategyManager => strategyManagerName
  | .avsDirectory => avsDirectoryName
  | .rewardsCoordinator => rewardsCoordinatorName
  | i => Bindings.title i

/-- How an accessor reads a wired contract. -/
structure Plan where
  contract : Interface
  function : Abi.Function
  parameters : List Parameter
  /-- What the caller gets for an answer. -/
  shape : Value → Except Failure Answer
  /-- Whether the arguments are normalised before the function is looked up. -/
  argumentsFirst : Bool

namespace Plan

/-- Hands an answer over as it is. -/
def asGiven (v : Value) : Except Failure Answer := .ok (.value v)

/-- Hands over the bytes of an answer. -/
def asDigest (v : Value) : Except Failure Answer := (ofConversion v.toBytes).map .digest

/-- The arguments in order, or the refusal of the first parameter that does not convert. -/
def arguments (p : Plan) : Except Failure (List Argument) := p.parameters.mapM Parameter.normalize

/-- Looks up the function and normalises the arguments, in the order of the plan. -/
def collect (p : Plan) (node : Node ρ σ) (h : Handle) : Action ρ σ (List Argument) :=
  if p.argumentsFirst then do
    let arguments ← Action.ofExcept p.arguments
    node.offering h p.function
    return arguments
  else do
    node.offering h p.function
    Action.ofExcept p.arguments

/-- Does what the plan says. -/
def run (p : Plan) (node : Node ρ σ) (reader : Reader) (context : Option String) :
    Action ρ σ Answer := do
  let h ← Reader.require (reader.handles.get p.contract) (Reader.contractName p.contract)
  let arguments ← p.collect node h
  node.accepting p.function arguments
  let v ← node.callWithin context h p.function arguments
  Action.ofExcept (p.shape v)

theorem collect_of_offers (p : Plan) {node : Node ρ σ} {h : Handle} {s : Session ρ σ}
    (ho : node.offers h p.function s.node = .ok ()) : p.collect node h s = (p.arguments, s) := by
  have hoff : node.offering h p.function s = (.ok (), s) := by rw [Node.offering, ho]
  unfold collect
  split
  · rw [Action.bind_apply, Action.ofExcept]
    cases p.arguments with
    | error e => rfl
    | ok arguments => simp only [Action.bind_apply, hoff, Action.pure_apply]
  · rw [Action.bind_apply, hoff]
    rfl

theorem collect_cases (p : Plan) (node : Node ρ σ) (h : Handle) (s : Session ρ σ) :
    (∃ e, p.collect node h s = (.error e, s)) ∨
      ∃ arguments, p.arguments = .ok arguments ∧ p.collect node h s = (.ok arguments, s) := by
  cases ho : node.offers h p.function s.node with
  | ok u =>
    rw [collect_of_offers p ho]
    cases p.arguments with
    | error e => exact .inl ⟨e, rfl⟩
    | ok arguments => exact .inr ⟨arguments, rfl, rfl⟩
  | error e =>
    left
    have hoff : node.offering h p.function s = (.error e, s) := by rw [Node.offering, ho]
    unfold collect
    split
    · rw [Action.bind_apply, Action.ofExcept]
      cases p.arguments with
      | error e => exact ⟨e, rfl⟩
      | ok arguments => exact ⟨e, by simp only [Action.bind_apply, hoff]⟩
    · exact ⟨e, by rw [Action.bind_apply, hoff]⟩

theorem collect_eq_ok {p : Plan} {node : Node ρ σ} {h : Handle} {s t : Session ρ σ}
    {arguments : List Argument} (hc : p.collect node h s = (.ok arguments, t)) :
    node.offers h p.function s.node = .ok () ∧ p.arguments = .ok arguments ∧ t = s := by
  cases ho : node.offers h p.function s.node with
  | ok u =>
    rw [collect_of_offers p ho] at hc
    obtain ⟨harguments, rfl⟩ := Prod.mk.inj hc
    exact ⟨rfl, harguments, rfl⟩
  | error e =>
    have hoffering : node.offering h p.function s = (.error e, s) := by rw [Node.offering, ho]
    unfold collect at hc
    split at hc
    · obtain ⟨_, _, hfirst, hc⟩ := Action.bind_apply_eq_ok hc
      obtain ⟨-, rfl⟩ := Prod.mk.inj hfirst
      obtain ⟨_, _, hsecond, -⟩ := Action.bind_apply_eq_ok hc
      rw [hoffering] at hsecond
      cases hsecond
    · obtain ⟨_, _, hfirst, -⟩ := Action.bind_apply_eq_ok hc
      rw [hoffering] at hfirst
      cases hfirst

/-- A plan is refused before anything has happened, or it comes to its one call, on the handle of its
contract and with what its parameters give. -/
theorem run_cases (p : Plan) (node : Node ρ σ) (reader : Reader) (context : Option String)
    (s : Session ρ σ) :
    (∃ e, p.run node reader context s = (.error e, s)) ∨
      ∃ h arguments, reader.handles.get p.contract = some h ∧ p.arguments = .ok arguments ∧
        p.run node reader context s =
          (node.callWithin context h p.function arguments >>= fun v => .ofExcept (p.shape v)) s := by
  unfold run
  cases hh : reader.handles.get p.contract with
  | none => exact .inl ⟨_, rfl⟩
  | some h =>
    rw [Action.bind_apply, Reader.require, Action.ofExcept]
    rcases p.collect_cases node h s with ⟨e, hc⟩ | ⟨arguments, ha, hc⟩
    · exact .inl ⟨e, by simp only [Action.bind_apply, hc]⟩
    · simp only [Action.bind_apply, hc, Node.accepting, Action.ofExcept]
      cases node.accepts p.function arguments with
      | error e => exact .inl ⟨e, rfl⟩
      | ok u => exact .inr ⟨h, arguments, rfl, ha, rfl⟩

end Plan

namespace Query

open Parameter Plan in
/-- The plan of a query that reads a wired contract. -/
def plan? : Query → Option Plan
  | isOperatorRegistered operator =>
    some ⟨.delegationManager, Contract.isOperator,
      [account "operator address" (Reader.operatorAddress operator)], asGiven, false⟩
  | operatorDetails operator =>
    some ⟨.delegationManager, Contract.operatorDetails,
      [account "operator address" (Reader.operatorAddress operator)],
      fun v => (Operator.ofAnswer (Reader.operatorAddress operator) v).map .operator, false⟩
  | operatorShares operator strategy =>
    some ⟨.delegationManager, Contract.operatorShares,
      [account "operator address" operator, account "strategy address" strategy], asGiven, false⟩
  | delegationApprovalDigest staker operator approver salt expiry =>
    some ⟨.delegationManager, Contract.delegationApprovalDigest,
      [account "staker address" staker, account "operator address" operator,
       account "delegation approver address" approver, hash "approver salt" salt, amount expiry],
      asDigest, false⟩
  | slashableUntil operator serviceManager =>
    some ⟨.slasher, Contract.slashableUntil,
      [account "operator address" operator, account "service manager address" serviceManager],
      asGiven, false⟩
  | operatorIsFrozen operator =>
    some ⟨.slasher, Contract.isFrozen, [account "operator address" operator], asGiven, false⟩
  | avsRegistrationDigest operator avs salt expiry =>
    some ⟨.avsDirectory, Contract.avsRegistrationDigest,
      [account "operator address" operator, account "avs address" avs, hash "salt" salt, amount expiry],
      asDigest, false⟩
  | distributionRootsLength =>
    some ⟨.rewardsCoordinator, Contract.distributionRootsLength, [], asGiven, false⟩
  | rewardsCalculationEnd =>
    some ⟨.rewardsCoordinator, Contract.rewardsCalculationEnd, [], asGiven, false⟩
  | currentClaimableRoot =>
    some ⟨.rewardsCoordinator, Contract.currentClaimableRoot, [],
      fun v => (DistributionRoot.ofAnswer v).map .root, false⟩
  | rootIndexFromHash root =>
    some ⟨.rewardsCoordinator, Contract.rootIndexFromHash, [hash "root hash" root], asGiven, false⟩
  | cumulativeClaimed earner token =>
    some ⟨.rewardsCoordinator, Contract.cumulativeClaimed,
      [account "earner address" earner, account "token address" token], asGiven, false⟩
  | checkClaim c => some ⟨.rewardsCoordinator, Contract.checkClaim, [claim c], asGiven, true⟩
  | operatorAvsSplit operator avs =>
    some ⟨.rewardsCoordinator, Contract.operatorAvsSplit,
      [account "operator address" operator, account "avs address" avs], asGiven, false⟩
  | strategyAndToken _ | strategyAndTokenHandle _ => none

theorem claimArgument_eq_normalize (v : Value) :
    (Reader.claimArgument v : Action ρ σ Argument) = .ofExcept (Parameter.claim v).normalize := by
  cases v <;> rfl

/-- An accessor of a wired contract does what its plan says. -/
theorem run_eq_plan {q : Query} {p : Plan} (hp : q.plan? = some p) (node : Node ρ σ) (reader : Reader)
    (context : Option String) : q.run node reader context = p.run node reader context := by
  have hmap {α β : Type} (f : α → β) (x : Except Failure α) :
      (Action.ofExcept (f <$> x) : Action ρ σ β) = f <$> Action.ofExcept x := Action.ofExcept_map f x
  cases q <;> simp only [plan?, Option.some.injEq, reduceCtorEq] at hp <;> subst hp
  -- Both sides become one chain of steps once the list of parameters is read off.
  all_goals
    simp [run, Plan.run, Plan.collect, Plan.arguments, Plan.asGiven, Plan.asDigest, Bindings.get,
      Reader.contractName, Reader.isOperatorRegistered, Reader.operatorDetails, Reader.operatorShares,
      Reader.delegationApprovalDigest, Reader.slashableUntil, Reader.operatorIsFrozen,
      Reader.avsRegistrationDigest, Reader.distributionRootsLength, Reader.rewardsCalculationEnd,
      Reader.currentClaimableRoot, Reader.rootIndexFromHash, Reader.cumulativeClaimed,
      Reader.checkClaim, Reader.operatorAvsSplit, Reader.ask, Reader.address, Reader.word,
      Reader.integer, claimArgument_eq_normalize, Parameter.normalize, List.mapM_cons, hmap,
      Action.ofExcept_ok, Action.ofExcept_pure, Action.ofExcept_bind, Action.ofExcept_map]

end Query

end Restaking
