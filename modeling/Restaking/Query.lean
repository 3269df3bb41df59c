import Restaking.Reader

/-!
# Queries

The sixteen things that a reader can be asked, as data, and what comes back.
-/
namespace Restaking

inductive Query where
  | isOperatorRegistered (operator : Value)
  | operatorDetails (operator : Value)
  | operatorShares (operator strategy : Value)
  | delegationApprovalDigest (staker operator approver salt expiry : Value)
  | strategyAndToken (strategy : Value)
  | strategyAndTokenHandle (strategy : Value)
  | slashableUntil (operator serviceManager : Value)
  | operatorIsFrozen (operator : Value)
  | avsRegistrationDigest (operator avs salt expiry : Value)
  | distributionRootsLength
  | rewardsCalculationEnd
  | currentClaimableRoot
  | rootIndexFromHash (hash : Value)
  | cumulativeClaimed (earner token : Value)
  | checkClaim (claim : Value)
  | operatorAvsSplit (operator avs : Value)

inductive Answer where
  /-- What the node answered, as it is. -/
  | value (v : Value)
  | operator (o : Operator Value)
  | digest (bytes : List UInt8)
  | root (r : DistributionRoot)
  | strategyAndToken (strategy : Handle) (token : Address)
  | strategyAndTokenHandle (strategy token : Handle) (address : Address)

/-- Asks a reader. -/
def Query.run {ρ σ : Type} (node : Node ρ σ) (reader : Reader) (context : Option String) :
    Query → Action ρ σ Answer
  | isOperatorRegistered operator => .value <$> reader.isOperatorRegistered node operator context
  | operatorDetails operator => .operator <$> reader.operatorDetails node operator context
  | operatorShares operator strategy =>
    .value <$> reader.operatorShares node operator strategy context
  | delegationApprovalDigest staker operator approver salt expiry =>
    .digest <$> reader.delegationApprovalDigest node staker operator approver salt expiry context
  | strategyAndToken strategy =>
    (fun r => .strategyAndToken r.1 r.2) <$> Reader.strategyAndToken node strategy context
  | strategyAndTokenHandle strategy =>
    (fun r => .strategyAndTokenHandle r.1 r.2.1 r.2.2) <$>
      Reader.strategyAndTokenHandle node strategy context
  | slashableUntil operator serviceManager =>
    .value <$> reader.slashableUntil node operator serviceManager context
  | operatorIsFrozen operator => .value <$> reader.operatorIsFrozen node operator context
  | avsRegistrationDigest operator avs salt expiry =>
    .digest <$> reader.avsRegistrationDigest node operator avs salt expiry context
  | distributionRootsLength => .value <$> reader.distributionRootsLength node context
  | rewardsCalculationEnd => .value <$> reader.rewardsCalculationEnd node context
  | currentClaimableRoot => .root <$> reader.currentClaimableRoot node context
  | rootIndexFromHash hash => .value <$> reader.rootIndexFromHash node hash context
  | cumulativeClaimed earner token => .value <$> reader.cumulativeClaimed node earner token context
  | checkClaim claim => .value <$> reader.checkClaim node claim context
  | operatorAvsSplit operator avs => .value <$> reader.operatorAvsSplit node operator avs context

end Restaking
