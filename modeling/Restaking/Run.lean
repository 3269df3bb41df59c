import Restaking.Query

/-!
# Runs

What a caller does with a reader, step by step: making contexts, cancelling them, letting time pass,
looking at them, and asking queries. A run gives the outcome of every step; a failing step does not end
it.
-/
namespace Restaking

inductive Step where
  | background (context : String) (block : Value)
  | timeout (context : String) (seconds : Seconds) (block : Value)
  | deadline (context : String) (deadline : Option Seconds) (block : Value)
  | cancel (context : String)
  | advance (seconds : Float)
  | check (context : String)
  | look (context : String)
  | ask (query : Query) (context : Option String)

/-- What a context looks like at some moment. -/
structure ContextState where
  block : Value
  deadline : Option Seconds
  cancelled : Bool
  deadlineExceeded : Bool
  remaining : Value
  description : String

/-- What a step gives if it does not fail. -/
inductive StepResult where
  | done
  | state (s : ContextState)
  | answer (a : Answer)

/-- The state of a context when the clock reads `now`. -/
def CallContext.state (c : CallContext) (now : Float) : Except Failure ContextState := do
  let remaining ← c.remainingValue now
  let description ← c.describe now
  return { block := c.block, deadline := c.deadline, cancelled := c.cancelled,
           deadlineExceeded := c.deadlineExceeded now, remaining, description }

namespace Step

variable {ρ σ : Type}

/-- Changes the session, without failing. -/
def change (f : Session ρ σ → Session ρ σ) : Action ρ σ StepResult := fun s => (.ok .done, f s)

/-- Takes one step. -/
def run (node : Node ρ σ) (reader : Reader) : Step → Action ρ σ StepResult
  | background name block => change (·.putContext name (.background block))
  | timeout name seconds block => fun s =>
    match CallContext.withTimeout s.clock seconds block with
    | .ok c => (.ok .done, s.putContext name c)
    | .error e => (.error e, s)
  | deadline name limit block => change (·.putContext name (.withDeadline limit block))
  | cancel name => change (·.cancel name)
  | advance seconds => change (·.advance seconds)
  | check name => (fun _ => .done) <$> Action.checkContext (some name)
  | look name => fun s => (((s.contextOf (some name)).state s.clock).map .state, s)
  | ask query context => .answer <$> query.run node reader context

/-- Takes steps in order, whatever their outcomes. -/
def runAll (node : Node ρ σ) (reader : Reader) :
    List Step → Session ρ σ → List (Except Failure StepResult) × Session ρ σ
  | [], s => ([], s)
  | step :: rest, s =>
    let (outcome, s) := step.run node reader s
    let (outcomes, s) := runAll node reader rest s
    (outcome :: outcomes, s)

end Step

end Restaking
