import Restaking.Failure

/-!
# Claims in normal form

A claim is normalised component by component, in the order in which the contract declares them, and the
first component that does not convert decides the failure. Lists keep their length and order. Address
and root of a leaf are canonical in the result, so normalising it once more changes nothing.

A whole claim in a leaf's place would be converted like any other claim, and no contract takes the result.
That conversion is left out: such a claim is refused where it stands, before its components are looked at.
-/
namespace Restaking

/-- A leaf with its components converted. -/
inductive LeafForm where
  | earner (earner : Address) (tokenRoot : Word)
  | token (token : Address) (cumulativeEarnings : Int)

/-- A claim with its components converted. -/
structure ClaimForm where
  rootIndex : Int
  earnerIndex : Int
  earnerTreeProof : List UInt8
  earnerLeaf : LeafForm
  tokenIndices : List Int
  tokenTreeProofs : List (List UInt8)
  tokenLeaves : List LeafForm

def EarnerLeaf.normalize (l : EarnerLeaf Value) : Except Failure LeafForm := do
  let earner ← ofInput (Address.ofInput "earner address" l.earner)
  let tokenRoot ← ofInput (Word.ofInput "earner token root" l.tokenRoot)
  return .earner earner tokenRoot

def TokenLeaf.normalize (l : TokenLeaf Value) : Except Failure LeafForm := do
  let token ← ofInput (Address.ofInput "token address" l.token)
  let earnings ← ofConversion l.cumulativeEarnings.toInteger
  return .token token earnings

/-- The leaf that a value is; anything else is refused, a claim for a reason of its own. -/
def Value.normalizeLeaf : Value → Except Failure LeafForm
  | .earnerLeaf l => l.normalize
  | .tokenLeaf l => l.normalize
  | .claim _ => .error (.conversion .claimAsLeaf)
  | v => .error (.conversion (.notLeaf v.typeName))

def Claim.normalize (c : Claim Value) : Except Failure ClaimForm := do
  let rootIndex ← ofConversion c.rootIndex.toInteger
  let earnerIndex ← ofConversion c.earnerIndex.toInteger
  let earnerTreeProof ← ofConversion c.earnerTreeProof.toBytes
  let earnerLeaf ← c.earnerLeaf.normalizeLeaf
  let indices ← ofConversion c.tokenIndices.elements
  let tokenIndices ← indices.mapM fun v => ofConversion v.toInteger
  let proofs ← ofConversion c.tokenTreeProofs.elements
  let tokenTreeProofs ← proofs.mapM fun v => ofConversion v.toBytes
  let leaves ← ofConversion c.tokenLeaves.elements
  let tokenLeaves ← leaves.mapM Value.normalizeLeaf
  return { rootIndex, earnerIndex, earnerTreeProof, earnerLeaf, tokenIndices, tokenTreeProofs,
           tokenLeaves }

/-- The tuple of a leaf's components. -/
def LeafForm.toValue : LeafForm → Value
  | .earner account root => .tuple [.text account.text, .bytes root.bytes]
  | .token account amount => .tuple [.text account.text, .int amount]

/-- The tuple of a claim's components. -/
def ClaimForm.toValue (c : ClaimForm) : Value :=
  .tuple [.int c.rootIndex, .int c.earnerIndex, .bytes c.earnerTreeProof, c.earnerLeaf.toValue,
    .list (c.tokenIndices.map .int), .list (c.tokenTreeProofs.map .bytes),
    .list (c.tokenLeaves.map LeafForm.toValue)]

end Restaking
