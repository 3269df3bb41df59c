import Restaking.CallContext
import Restaking.Contract
import Restaking.Logging.Record
import Restaking.Rewards.Claim

/-!
# Sessions with a node

All that a reading may see or change: the clock, the caller's contexts, the node, and what was asked of
it so far. A node is any functions of these shapes; with its answer may come effects on the clock and on
contexts, as time passes and callers cancel while a call is in flight.
-/
namespace Restaking

open Logging (Record Logger Level)

/-- A normalised argument of a call. -/
inductive Argument where
  | address (a : Address)
  | word (w : Word)
  | integer (n : Int)
  | claim (c : ClaimForm)
  /-- A claim that the caller laid out, taken as it is. -/
  | raw (v : Value)

def Argument.toValue : Argument → Value
  | address a => .text a.text
  | word w => .bytes w.bytes
  | integer n => .int n
  | claim c => c.toValue
  | raw v => v

/-- A call as the reader asks for it; without a block the node reads at its own choice. -/
structure Request where
  target : Handle
  function : Abi.Function
  arguments : List Argument
  block : Option Value

/-- What happens beside an answer. -/
inductive Effect where
  | advance (seconds : Float)
  | cancel (context : String)

/-- An outcome and what happened before it came. -/
structure Reply (α : Type) where
  effects : List Effect
  outcome : Except Failure α

/-- A node whose calls are recorded as `ρ` and whose own state is `σ`. -/
structure Node (ρ σ : Type) where
  /-- Asks for a handle at an address. -/
  connect : String → Interface → σ → Reply Unit × σ
  /-- Whether the contract at a handle offers a function. -/
  offers : Handle → Abi.Function → σ → Except Failure Unit
  /-- Whether a function takes these arguments. -/
  accepts : Abi.Function → List Argument → Except Failure Unit
  /-- What goes out for a call, if it can be made at all. -/
  prepare : Request → Except Failure ρ
  /-- The answer to what went out. -/
  answer : Request → ρ → σ → Reply Value × σ

/-- A notice to the caller. -/
structure Warning where
  category : String
  message : String

structure Session (ρ σ : Type) where
  clock : Float
  contexts : List (String × CallContext)
  calls : List ρ
  connections : List (String × Interface)
  records : List Record
  warnings : List Warning
  node : σ

/-- A computation that may use the session and may fail; what it did before stays done. -/
abbrev Action (ρ σ α : Type) := ExceptT Failure (StateM (Session ρ σ)) α

namespace Session

variable {ρ σ : Type}

/-- A session before anything has happened. -/
def start (clock : Float) (node : σ) : Session ρ σ :=
  { clock, contexts := [], calls := [], connections := [], records := [], warnings := [], node }

/-- Sets the context of that name. -/
def putContext (name : String) (c : CallContext) (s : Session ρ σ) : Session ρ σ :=
  { s with contexts := (name, c) :: s.contexts.filter fun e => e.1 != name }

/-- The context of that name; no name stands for one that never ends. -/
def contextOf (s : Session ρ σ) : Option String → CallContext
  | some name => (s.contexts.lookup name).getD (.background CallContext.latest)
  | none => .background CallContext.latest

def cancel (name : String) (s : Session ρ σ) : Session ρ σ :=
  { s with contexts := s.contexts.map fun e => if e.1 == name then (e.1, e.2.cancel) else e }

def advance (seconds : Float) (s : Session ρ σ) : Session ρ σ := { s with clock := s.clock + seconds }

def apply (s : Session ρ σ) : Effect → Session ρ σ
  | .advance seconds => s.advance seconds
  | .cancel name => s.cancel name

/-- Applies effects in order. -/
def applyAll (s : Session ρ σ) (effects : List Effect) : Session ρ σ := effects.foldl apply s

end Session

namespace Action

variable {ρ σ α : Type}

theorem pure_apply (a : α) (s : Session ρ σ) : (pure a : Action ρ σ α) s = (.ok a, s) := rfl

/-- The second computation starts where the first one ended, and only if it did not fail. -/
theorem bind_apply {β : Type} (x : Action ρ σ α) (f : α → Action ρ σ β) (s : Session ρ σ) :
    (x >>= f) s =
      match x s with
      | (.ok a, t) => f a t
      | (.error e, t) => (.error e, t) := by
  change (match x s with | (r, t) => ExceptT.bindCont f r t) = _
  rcases x s with ⟨_ | _, t⟩ <;> rfl

/-- An outcome that needs no session. -/
def ofExcept (r : Except Failure α) : Action ρ σ α := fun s => (r, s)

/-- Changes the failure, if there is one. -/
def mapFailure (f : Failure → Failure) (a : Action ρ σ α) : Action ρ σ α := fun s =>
  match a s with
  | (.ok x, s') => (.ok x, s')
  | (.error e, s') => (.error (f e), s')

/-- Refuses if the named context is done. -/
def checkContext (context : Option String) : Action ρ σ Unit := fun s =>
  ((s.contextOf context).check s.clock, s)

/-- Logs a message, unless a field beside it is one that records have of their own. -/
def log (logger : Logger) (level : Level) (message : String) : Action ρ σ Unit := fun s =>
  let record := logger.record level message none
  match record.reserved? with
  | some name => (.error (.reservedField name), s)
  | none => (.ok (), { s with records := s.records ++ [record] })

def warn (category message : String) : Action ρ σ Unit := fun s =>
  (.ok (), { s with warnings := s.warnings ++ [⟨category, message⟩] })

/-- The block that the named context reads at. -/
def blockOf (context : Option String) : Action ρ σ Value := fun s =>
  (.ok (s.contextOf context).block, s)

end Action

namespace Node

variable {ρ σ : Type} (node : Node ρ σ)

/-- A handle at an address; the wish is recorded even if it fails. -/
def handle (address : String) (interface : Interface) : Action ρ σ Handle := fun s =>
  let (reply, state) := node.connect address interface s.node
  let s := { s with connections := s.connections ++ [(address, interface)], node := state }
  (reply.outcome.map fun _ => ⟨address, interface⟩, s.applyAll reply.effects)

/-- Refuses if the contract at a handle offers no such function. -/
def offering (h : Handle) (f : Abi.Function) : Action ρ σ Unit := fun s =>
  (node.offers h f s.node, s)

/-- Refuses if the function does not take these arguments. -/
def accepting (f : Abi.Function) (arguments : List Argument) : Action ρ σ Unit :=
  .ofExcept (node.accepts f arguments)

/-- Makes one call: what goes out is recorded, then the node answers. -/
def call (request : Request) : Action ρ σ Value := fun s =>
  match node.prepare request with
  | .error e => (.error e, s)
  | .ok wire =>
    let (reply, state) := node.answer request wire s.node
    let s := { s with calls := s.calls ++ [wire], node := state }
    (reply.outcome, s.applyAll reply.effects)

/-- One call inside a context: a context that is done makes none, and one that ends while the call is
in flight discards the answer. -/
def callWithin (context : Option String) (h : Handle) (f : Abi.Function) (arguments : List Argument) :
    Action ρ σ Value := do
  Action.checkContext context
  let block ← Action.blockOf context
  let answer ← node.call ⟨h, f, arguments, some block⟩
  Action.checkContext context
  return answer

end Node

end Restaking
