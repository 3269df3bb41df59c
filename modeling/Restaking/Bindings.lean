import Restaking.Config
import Restaking.Session

/-!
# Wiring contracts

Deployment addresses become handles. A build either gives all the handles that a configuration asks for
or fails at the first step that fails, with that step's failure as the cause. The slasher and the
strategy manager are not configured: the delegation manager names them.
-/
namespace Restaking

open Logging (Logger Level)

/-- The handles of a reader; a contract that is not deployed has none. -/
structure Bindings where
  slasher : Option Handle
  delegationManager : Option Handle
  strategyManager : Option Handle
  avsDirectory : Option Handle
  rewardsCoordinator : Option Handle
  deriving DecidableEq

namespace Bindings

/-- No handle at all. -/
def empty : Bindings := ⟨none, none, none, none, none⟩

/-- The logger of this module. -/
def loggerName : String := "elreader.onchain.bindings"

def loggerOr (logger : Option Logger) : Logger := logger.getD (.named loggerName)

variable {ρ σ : Type} (node : Node ρ σ)

/-- The name of a contract in messages about wiring. -/
def title : Interface → String
  | .delegationManager => "DelegationManager"
  | .strategyManager => "StrategyManager"
  | .avsDirectory => "AVSDirectory"
  | .slasher => "Slasher"
  | .rewardsCoordinator => "RewardsCoordinator"
  | .strategy => "Strategy"
  | .token => "Token"

/-- A handle of the contract at the address that a value denotes. -/
def wire (interface : Interface) (given : Value) : Action ρ σ Handle :=
  let name := title interface
  Action.mapFailure (fun e => .binding ("Failed to create " ++ name ++ " contract") (some e)) do
    let a ← Action.ofExcept (ofInput (Address.ofInput (name ++ " address") given))
    node.handle a.text interface

/-- Asks the delegation manager for another contract. The block is left to the node. -/
def resolve (manager : Handle) (interface : Interface) (f : Abi.Function) : Action ρ σ Value :=
  Action.mapFailure (fun e => .binding ("Failed to fetch " ++ title interface ++ " address") (some e)) do
    node.offering manager f
    node.accepting f []
    node.call ⟨manager, f, [], none⟩

/-- The delegation manager and the two contracts that it names. -/
def wireManager (logger : Logger) (a : Address) : Action ρ σ Bindings := do
  let manager ← wire node .delegationManager (.text a.text)
  let slasherAnswer ← resolve node manager .slasher Contract.slasher
  let strategyAnswer ← resolve node manager .strategyManager Contract.strategyManager
  Action.log logger .debug ("Resolved Slasher " ++ slasherAnswer.plain ++ " and StrategyManager " ++
    strategyAnswer.plain ++ " from DelegationManager " ++ a.text)
  let slasher ← wire node .slasher slasherAnswer
  let strategyManager ← wire node .strategyManager strategyAnswer
  return { empty with
    slasher := some slasher, delegationManager := some manager, strategyManager := some strategyManager }

/-- A handle at a configured address, or a note that there is none. -/
def wireDeployed (logger : Logger) (interface : Interface) (a : Address) :
    Action ρ σ (Option Handle) := do
  if a = .zero then
    Action.log logger .info (title interface ++ " address not set, skipping " ++ title interface)
    return none
  else
    return some (← wire node interface (.text a.text))

/-- All the handles that a configuration asks for. -/
def ofConfig (config : ReaderConfig) (logger : Option Logger) : Action ρ σ Bindings := do
  let log := loggerOr logger
  let managers ← (do
    if config.delegationManager = .zero then
      Action.log log .info
        "DelegationManager address not set, skipping DelegationManager, Slasher and StrategyManager"
      return empty
    else wireManager node log config.delegationManager : Action ρ σ Bindings)
  let avsDirectory ← wireDeployed node log .avsDirectory config.avsDirectory
  let rewardsCoordinator ← wireDeployed node log .rewardsCoordinator config.rewardsCoordinator
  return { managers with avsDirectory, rewardsCoordinator }

/-- The delegation manager and the AVS directory alone, at two addresses as the caller gives them. -/
def ofTwoAddresses (delegationManager avsDirectory : Value) (logger : Option Logger) :
    Action ρ σ Bindings := do
  let manager ← wire node .delegationManager delegationManager
  let directory ← wire node .avsDirectory avsDirectory
  Action.log (loggerOr logger) .debug ("Built legacy bindings for DelegationManager " ++
    delegationManager.plain ++ " and AVSDirectory " ++ avsDirectory.plain)
  return { empty with delegationManager := some manager, avsDirectory := some directory }

end Bindings

end Restaking
