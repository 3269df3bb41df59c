import Restaking.Bindings
import Restaking.Rewards.Root
import Restaking.Settings

/-!
# Reading the core contracts

A reader holds handles and a logger. Each accessor refuses if the handle that it needs is missing, then
normalises its arguments from left to right, then makes at most one call inside the caller's context,
then gives the answer its shape. Nothing of a reader changes between accessors.
-/
namespace Restaking

open Logging (Logger Level)

/-- The way to a node: one that the caller set up, or an endpoint with a time limit on requests. -/
inductive Client where
  | given
  | endpoint (url : String) (timeout : Float)

/-- The endpoint that settings name. -/
def Client.ofSettings (s : Settings) : Client := .endpoint s.rpcUrl s.rpcTimeout

structure Reader where
  client : Client
  handles : Bindings
  logger : Logger

namespace Reader

/-- The tag on every record that a reader logs. -/
def component : String := "elcontracts/reader"

/-- The logger of this module. -/
def loggerName : String := "elreader.onchain.reader"

def delegationManagerName : String := "DelegationManager"
def avsDirectoryName : String := "AVSDirectory"
def slasherName : String := "slasher"
def rewardsCoordinatorName : String := "RewardsCoordinator"
def strategyManagerName : String := "StrategyManager"

/-- The names of the contracts that have a handle. -/
def wired (b : Bindings) : List String :=
  let entries := [(slasherName, b.slasher), (delegationManagerName, b.delegationManager),
    (strategyManagerName, b.strategyManager), (avsDirectoryName, b.avsDirectory),
    (rewardsCoordinatorName, b.rewardsCoordinator)]
  (entries.filter fun e => e.2.isSome).map (·.1)

section

variable {ρ σ : Type}

/-- A reader of wired contracts. -/
def ofBindings (client : Client) (handles : Bindings) (logger : Option Logger) :
    Action ρ σ Reader := do
  let logger := Logger.tagged component loggerName logger
  Action.log logger .debug
    ("Chain reader ready, contracts wired: " ++ (Value.list ((wired handles).map .text)).quoted)
  return ⟨client, handles, logger⟩

/-- The handle, if it is there. -/
def require (handle : Option Handle) (name : String) : Action ρ σ Handle :=
  match handle with
  | some h => .ofExcept (.ok h)
  | none => .ofExcept (.error (.contractNotProvided name))

/-- An address argument. -/
def address (label : String) (v : Value) : Action ρ σ Argument :=
  .ofExcept ((ofInput (Address.ofInput label v)).map .address)

/-- A 32-byte argument. -/
def word (label : String) (v : Value) : Action ρ σ Argument :=
  .ofExcept ((ofInput (Word.ofInput label v)).map .word)

/-- A whole-number argument. -/
def integer (v : Value) : Action ρ σ Argument :=
  .ofExcept ((ofConversion v.toInteger).map .integer)

/-- The address of an operator that may be given as a whole. -/
def operatorAddress : Value → Value
  | .operator o => o.address
  | v => v

/-- The argument for a claim: one of ours in normal form, anything else as it is. -/
def claimArgument : Value → Action ρ σ Argument
  | .claim c => .ofExcept (c.normalize.map .claim)
  | v => .ofExcept (.ok (.raw v))

end

variable {ρ σ : Type} (node : Node ρ σ) (reader : Reader)

/-- One call of a function that takes these arguments. -/
def ask (context : Option String) (h : Handle) (f : Abi.Function) (arguments : List Argument) :
    Action ρ σ Value := do
  node.accepting f arguments
  node.callWithin context h f arguments

/-- A reader of the contracts of a configuration. Without a client it reads through the endpoint of the
default settings. -/
def ofConfig (defaults : Settings) (config : ReaderConfig) (client : Option Client)
    (logger : Option Logger) : Action ρ σ Reader := do
  let handles ← Bindings.ofConfig node config logger
  ofBindings (client.getD (.ofSettings defaults)) handles logger

/-- A reader of the contracts that settings name, through their endpoint unless a client is given. -/
def ofSettings (defaults : Settings) (settings : Option Settings) (client : Option Client)
    (logger : Option Logger) : Action ρ σ Reader := do
  let settings := settings.getD defaults
  let config ← Action.ofExcept (ofFaults settings.readerConfig)
  ofConfig node defaults config (some (client.getD (.ofSettings settings))) logger

/-- A reader of a delegation manager and an AVS directory. Out of favour, which it tells the caller. -/
def ofTwoAddresses (defaults : Settings) (delegationManager avsDirectory : Value)
    (client : Option Client) (logger : Option Logger) : Action ρ σ Reader := do
  Action.warn "DeprecationWarning" "ChainReader.build is deprecated, use ChainReader.from_config"
  let handles ← Bindings.ofTwoAddresses node delegationManager avsDirectory logger
  ofBindings (client.getD (.ofSettings defaults)) handles logger

/-! ## Operators and delegation -/

def isOperatorRegistered (operator : Value) (context : Option String) : Action ρ σ Value := do
  let h ← require reader.handles.delegationManager delegationManagerName
  node.offering h Contract.isOperator
  let operator ← address "operator address" (operatorAddress operator)
  ask node context h Contract.isOperator [operator]

/-- The operator as the delegation manager describes it; the address is kept as the caller gave it. -/
def operatorDetails (operator : Value) (context : Option String) : Action ρ σ (Operator Value) := do
  let h ← require reader.handles.delegationManager delegationManagerName
  node.offering h Contract.operatorDetails
  let account ← address "operator address" (operatorAddress operator)
  let answer ← ask node context h Contract.operatorDetails [account]
  Action.ofExcept (Operator.ofAnswer (operatorAddress operator) answer)

def operatorShares (operator strategy : Value) (context : Option String) : Action ρ σ Value := do
  let h ← require reader.handles.delegationManager delegationManagerName
  node.offering h Contract.operatorShares
  let operator ← address "operator address" operator
  let strategy ← address "strategy address" strategy
  ask node context h Contract.operatorShares [operator, strategy]

def delegationApprovalDigest (staker operator approver salt expiry : Value)
    (context : Option String) : Action ρ σ (List UInt8) := do
  let h ← require reader.handles.delegationManager delegationManagerName
  node.offering h Contract.delegationApprovalDigest
  let staker ← address "staker address" staker
  let operator ← address "operator address" operator
  let approver ← address "delegation approver address" approver
  let salt ← word "approver salt" salt
  let expiry ← integer expiry
  let answer ← ask node context h Contract.delegationApprovalDigest
    [staker, operator, approver, salt, expiry]
  Action.ofExcept (ofConversion answer.toBytes)

/-! ## Strategies and tokens -/

/-- A handle of the strategy at the address that a value denotes. -/
def strategyHandle (strategy : Value) : Action ρ σ Handle :=
  Action.mapFailure (fun e => .contractFetch "Failed to fetch strategy contract" (some e)) do
    let a ← Action.ofExcept (ofInput (Address.ofInput "strategy address" strategy))
    node.handle a.text .strategy

def asTokenFailure (e : Failure) : Failure :=
  .contractFetch "Failed to fetch token contract" (some e)

/-- The address of a strategy's token. A context that is done refuses with its own cause; what fails
in the call itself is a failure to fetch the token. -/
def underlyingTokenAddress (strategy : Handle) (context : Option String) : Action ρ σ Address := do
  Action.checkContext context
  let answer ← Action.mapFailure asTokenFailure do
    node.offering strategy Contract.underlyingToken
    node.accepting Contract.underlyingToken []
    let block ← Action.blockOf context
    node.call ⟨strategy, Contract.underlyingToken, [], some block⟩
  Action.checkContext context
  Action.ofExcept (ofConversion (Address.ofAnswer answer))

def strategyAndToken (strategy : Value) (context : Option String) :
    Action ρ σ (Handle × Address) := do
  let h ← strategyHandle node strategy
  let token ← underlyingTokenAddress node h context
  return (h, token)

def strategyAndTokenHandle (strategy : Value) (context : Option String) :
    Action ρ σ (Handle × Handle × Address) := do
  let h ← strategyHandle node strategy
  let token ← underlyingTokenAddress node h context
  let tokenHandle ← Action.mapFailure asTokenFailure (node.handle token.text .token)
  return (h, tokenHandle, token)

/-! ## Slashing -/

def slashableUntil (operator serviceManager : Value) (context : Option String) :
    Action ρ σ Value := do
  let h ← require reader.handles.slasher slasherName
  node.offering h Contract.slashableUntil
  let operator ← address "operator address" operator
  let serviceManager ← address "service manager address" serviceManager
  ask node context h Contract.slashableUntil [operator, serviceManager]

def operatorIsFrozen (operator : Value) (context : Option String) : Action ρ σ Value := do
  let h ← require reader.handles.slasher slasherName
  node.offering h Contract.isFrozen
  let operator ← address "operator address" operator
  ask node context h Contract.isFrozen [operator]

/-! ## AVS directory -/

def avsRegistrationDigest (operator avs salt expiry : Value) (context : Option String) :
    Action ρ σ (List UInt8) := do
  let h ← require reader.handles.avsDirectory avsDirectoryName
  node.offering h Contract.avsRegistrationDigest
  let operator ← address "operator address" operator
  let avs ← address "avs address" avs
  let salt ← word "salt" salt
  let expiry ← integer expiry
  let answer ← ask node context h Contract.avsRegistrationDigest [operator, avs, salt, expiry]
  Action.ofExcept (ofConversion answer.toBytes)

/-! ## Rewards -/

def distributionRootsLength (context : Option String) : Action ρ σ Value := do
  let h ← require reader.handles.rewardsCoordinator rewardsCoordinatorName
  node.offering h Contract.distributionRootsLength
  ask node context h Contract.distributionRootsLength []

def rewardsCalculationEnd (context : Option String) : Action ρ σ Value := do
  let h ← require reader.handles.rewardsCoordinator rewardsCoordinatorName
  node.offering h Contract.rewardsCalculationEnd
  ask node context h Contract.rewardsCalculationEnd []

def currentClaimableRoot (context : Option String) : Action ρ σ DistributionRoot := do
  let h ← require reader.handles.rewardsCoordinator rewardsCoordinatorName
  node.offering h Contract.currentClaimableRoot
  let answer ← ask node context h Contract.currentClaimableRoot []
  Action.ofExcept (DistributionRoot.ofAnswer answer)

def rootIndexFromHash (hash : Value) (context : Option String) : Action ρ σ Value := do
  let h ← require reader.handles.rewardsCoordinator rewardsCoordinatorName
  node.offering h Contract.rootIndexFromHash
  let hash ← word "root hash" hash
  ask node context h Contract.rootIndexFromHash [hash]

def cumulativeClaimed (earner token : Value) (context : Option String) : Action ρ σ Value := do
  let h ← require reader.handles.rewardsCoordinator rewardsCoordinatorName
  node.offering h Contract.cumulativeClaimed
  let earner ← address "earner address" earner
  let token ← address "token address" token
  ask node context h Contract.cumulativeClaimed [earner, token]

/-- Whether the coordinator would pay a claim. The claim is normalised before anything is looked up. -/
def checkClaim (claim : Value) (context : Option String) : Action ρ σ Value := do
  let h ← require reader.handles.rewardsCoordinator rewardsCoordinatorName
  let claim ← claimArgument claim
  node.offering h Contract.checkClaim
  ask node context h Contract.checkClaim [claim]

def operatorAvsSplit (operator avs : Value) (context : Option String) : Action ρ σ Value := do
  let h ← require reader.handles.rewardsCoordinator rewardsCoordinatorName
  node.offering h Contract.operatorAvsSplit
  let operator ← address "operator address" operator
  let avs ← address "avs address" avs
  ask node context h Contract.operatorAvsSplit [operator, avs]

end Reader

end Restaking
