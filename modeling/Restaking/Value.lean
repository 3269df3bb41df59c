/-!
# Values

What callers pass and nodes answer, before anything is known about it. Numbers, texts and byte
strings are told apart, as are lists, tuples and mappings, because conversions and messages depend on
which was given. Operators, leaves and claims appear as values too: a caller may pass one where
something else was meant, and the message then shows it.
-/
namespace Restaking

/-- An operator as the delegation manager describes it. -/
structure Operator (α : Type) where
  address : α
  delegationApprover : α
  stakerOptOutWindow : α
  deriving Inhabited

/-- A leaf of the tree of earners. -/
structure EarnerLeaf (α : Type) where
  earner : α
  tokenRoot : α
  deriving Inhabited

/-- A leaf of the tree of tokens that one earner has earned. -/
structure TokenLeaf (α : Type) where
  token : α
  cumulativeEarnings : α
  deriving Inhabited

/-- Merkle proofs that an earner is owed cumulative earnings in some tokens. -/
structure Claim (α : Type) where
  rootIndex : α
  earnerIndex : α
  earnerTreeProof : α
  earnerLeaf : α
  tokenIndices : α
  tokenTreeProofs : α
  tokenLeaves : α
  deriving Inhabited

inductive Value where
  | null
  | bool (b : Bool)
  | int (n : Int)
  | float (x : Float)
  | text (s : String)
  | bytes (bs : List UInt8)
  /-- A byte string that may be changed in place. -/
  | buffer (bs : List UInt8)
  | list (xs : List Value)
  | tuple (xs : List Value)
  /-- Entries in order of insertion, no key twice. -/
  | mapping (entries : List (String × Value))
  | operator (o : Operator Value)
  | earnerLeaf (l : EarnerLeaf Value)
  | tokenLeaf (l : TokenLeaf Value)
  | claim (c : Claim Value)

instance : Inhabited Value := ⟨.null⟩

namespace Value

/-- The name of a value's type in messages. -/
def typeName : Value → String
  | null => "NoneType"
  | bool _ => "bool"
  | int _ => "int"
  | float _ => "float"
  | text _ => "str"
  | bytes _ => "bytes"
  | buffer _ => "bytearray"
  | list _ => "list"
  | tuple _ => "tuple"
  | mapping _ => "dict"
  | operator _ => "Operator"
  | earnerLeaf _ => "EarnerTreeMerkleLeaf"
  | tokenLeaf _ => "TokenTreeMerkleLeaf"
  | claim _ => "RewardsMerkleClaim"

/-- False for nothing, zero and whatever is empty; true for all else, not-a-number included. -/
def truth : Value → Bool
  | null => false
  | bool b => b
  | int n => n != 0
  | float x => !(x == 0.0)
  | text s => !s.isEmpty
  | bytes bs => !bs.isEmpty
  | buffer bs => !bs.isEmpty
  | list xs => !xs.isEmpty
  | tuple xs => !xs.isEmpty
  | mapping entries => !entries.isEmpty
  | operator _ | earnerLeaf _ | tokenLeaf _ | claim _ => true

end Value

end Restaking
