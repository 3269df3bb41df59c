import Restaking.Abi.Type

/-!
# The core contracts

The view functions of the delegation manager, strategy manager, AVS directory, slasher and rewards
coordinator, and of the strategies and tokens that are met on the way. An interface is the list of
functions that a handle offers.
-/
namespace Restaking

open Abi

/-- Which contract stands at an address. -/
inductive Interface where
  | delegationManager
  | strategyManager
  | avsDirectory
  | slasher
  | rewardsCoordinator
  | strategy
  | token
  deriving DecidableEq, Repr

namespace Contract

def uint256 : AbiType := .uint 256
def uint32 : AbiType := .uint 32
def account : AbiType := .address none
def strategyContract : AbiType := .address (some "IStrategy")
def tokenContract : AbiType := .address (some "IERC20")

/-! ## Delegation manager -/

def isOperator : Function := ⟨"isOperator", [("operator", account)], [.bool]⟩

def operatorDetailsType : AbiType :=
  .tuple "IDelegationManager.OperatorDetails"
    [("__deprecated_earningsReceiver", account), ("delegationApprover", account),
     ("stakerOptOutWindowBlocks", uint32)]

def operatorDetails : Function := ⟨"operatorDetails", [("operator", account)], [operatorDetailsType]⟩

def operatorShares : Function :=
  ⟨"operatorShares", [("operator", account), ("strategy", strategyContract)], [uint256]⟩

def delegationApprovalDigest : Function :=
  ⟨"calculateDelegationApprovalDigestHash",
   [("staker", account), ("operator", account), ("_delegationApprover", account),
    ("approverSalt", .word), ("expiry", uint256)],
   [.word]⟩

def slasher : Function := ⟨"slasher", [], [.address (some "ISlasher")]⟩

def strategyManager : Function := ⟨"strategyManager", [], [.address (some "IStrategyManager")]⟩

/-! ## Strategy manager -/

def stakerStrategyShares : Function :=
  ⟨"stakerStrategyShares", [("staker", account), ("strategy", strategyContract)], [uint256]⟩

def strategyIsWhitelisted : Function :=
  ⟨"strategyIsWhitelistedForDeposit", [("strategy", strategyContract)], [.bool]⟩

/-! ## AVS directory -/

def avsRegistrationDigest : Function :=
  ⟨"calculateOperatorAVSRegistrationDigestHash",
   [("operator", account), ("avs", account), ("salt", .word), ("expiry", uint256)], [.word]⟩

/-! ## Slasher -/

def slashableUntil : Function :=
  ⟨"contractCanSlashOperatorUntilBlock", [("operator", account), ("serviceContract", account)], [uint32]⟩

def isFrozen : Function := ⟨"isFrozen", [("staker", account)], [.bool]⟩

/-! ## Rewards coordinator -/

def distributionRootType : AbiType :=
  .tuple "IRewardsCoordinator.DistributionRoot"
    [("root", .word), ("rewardsCalculationEndTimestamp", uint32), ("activatedAt", uint32),
     ("disabled", .bool)]

def earnerLeafType : AbiType :=
  .tuple "IRewardsCoordinator.EarnerTreeMerkleLeaf" [("earner", account), ("earnerTokenRoot", .word)]

def tokenLeafType : AbiType :=
  .tuple "IRewardsCoordinator.TokenTreeMerkleLeaf"
    [("token", tokenContract), ("cumulativeEarnings", uint256)]

def claimType : AbiType :=
  .tuple "IRewardsCoordinator.RewardsMerkleClaim"
    [("rootIndex", uint32), ("earnerIndex", uint32), ("earnerTreeProof", .bytes),
     ("earnerLeaf", earnerLeafType), ("tokenIndices", .array uint32),
     ("tokenTreeProofs", .array .bytes), ("tokenLeaves", .array tokenLeafType)]

def distributionRootsLength : Function := ⟨"getDistributionRootsLength", [], [uint256]⟩

def rewardsCalculationEnd : Function := ⟨"currRewardsCalculationEndTimestamp", [], [uint32]⟩

def currentClaimableRoot : Function :=
  ⟨"getCurrentClaimableDistributionRoot", [], [distributionRootType]⟩

def rootIndexFromHash : Function := ⟨"getRootIndexFromHash", [("rootHash", .word)], [uint32]⟩

def cumulativeClaimed : Function :=
  ⟨"cumulativeClaimed", [("earner", account), ("token", tokenContract)], [uint256]⟩

def checkClaim : Function := ⟨"checkClaim", [("claim", claimType)], [.bool]⟩

def operatorAvsSplit : Function :=
  ⟨"getOperatorAVSSplit", [("operator", account), ("avs", account)], [.uint 16]⟩

/-! ## Strategies and tokens -/

def underlyingToken : Function := ⟨"underlyingToken", [], [tokenContract]⟩

def totalShares : Function := ⟨"totalShares", [], [uint256]⟩

def sharesToUnderlying : Function :=
  ⟨"sharesToUnderlyingView", [("amountShares", uint256)], [uint256]⟩

def tokenName : Function := ⟨"name", [], [.string]⟩

def tokenSymbol : Function := ⟨"symbol", [], [.string]⟩

def tokenDecimals : Function := ⟨"decimals", [], [.uint 8]⟩

def totalSupply : Function := ⟨"totalSupply", [], [uint256]⟩

def balanceOf : Function := ⟨"balanceOf", [("account", account)], [uint256]⟩

end Contract

namespace Interface

open Contract

/-- The functions that a handle offers, in the order of their description. -/
def functions : Interface → List Function
  | delegationManager =>
    [isOperator, operatorDetails, operatorShares, delegationApprovalDigest, Contract.slasher,
     Contract.strategyManager]
  | strategyManager => [stakerStrategyShares, strategyIsWhitelisted]
  | avsDirectory => [avsRegistrationDigest]
  | slasher => [slashableUntil, isFrozen]
  | rewardsCoordinator =>
    [distributionRootsLength, rewardsCalculationEnd, currentClaimableRoot, rootIndexFromHash,
     cumulativeClaimed, checkClaim, operatorAvsSplit]
  | strategy => [underlyingToken, totalShares, sharesToUnderlying]
  | token => [tokenName, tokenSymbol, tokenDecimals, totalSupply, balanceOf]

end Interface

/-- A contract that may be called: what stands where. -/
structure Handle where
  address : String
  interface : Interface
  deriving DecidableEq, Repr

end Restaking
