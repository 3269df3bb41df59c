import Restaking.Node.Script

/-!
# A node that is asked directly

Contracts are scripts by function name, and a call reaches them with its arguments unencoded. A function
without a script is one that the contract does not offer.
-/
namespace Restaking.Direct

/-- The contracts of a node by address, and its refusals of handles. -/
structure Chain where
  contracts : List (String × Scripts)
  refusals : Scripts

/-- What a call was. -/
structure Call where
  target : String
  function : String
  arguments : List Argument
  block : Option Value

namespace Chain

def functionsOf (chain : Chain) (address : String) : Scripts := (chain.contracts.lookup address).getD []

/-- Replaces the functions of the contract at an address. -/
def putContract (address : String) (functions : Scripts) :
    List (String × Scripts) → List (String × Scripts)
  | [] => [(address, functions)]
  | (a, fs) :: rest =>
    if a == address then (a, functions) :: rest else (a, fs) :: putContract address functions rest

/-- Sets the script of one function. -/
def put (chain : Chain) (address function : String) (script : Script) : Chain :=
  { chain with
    contracts :=
      putContract address ((chain.functionsOf address).put function script) chain.contracts }

end Chain

/-- The node of such a chain. -/
def node : Node Call Chain where
  connect address _ chain :=
    let (reply, refusals) := chain.refusals.connect address
    (reply, { chain with refusals })
  offers handle function chain :=
    match (chain.functionsOf handle.address).lookup function.name with
    | some _ => .ok ()
    | none => .error (.noFunction function.name)
  accepts _ _ := .ok ()
  prepare request :=
    .ok ⟨request.target.address, request.function.name, request.arguments, request.block⟩
  answer _ call chain :=
    match (chain.functionsOf call.target).play? call.function with
    | some (reply, functions) =>
      (reply,
       { chain with contracts := Chain.putContract call.target functions chain.contracts })
    | none => (⟨[], .error (.noFunction call.function)⟩, chain)

end Restaking.Direct
