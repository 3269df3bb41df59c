import Restaking.Clock

/-!
# Call contexts

A caller's scope for remote reads: a deadline, a block to read at, and whether it was cancelled. A context
that is done refuses with a cause; cancellation comes before the deadline.
-/
namespace Restaking

structure CallContext where
  deadline : Option Seconds
  block : Value
  cancelled : Bool

namespace CallContext

/-- The block that is read when none is named. -/
def latest : Value := .text "latest"

/-- A context that only cancellation ends. -/
def background (block : Value) : CallContext := ⟨none, block, false⟩

def withDeadline (deadline : Option Seconds) (block : Value) : CallContext := ⟨deadline, block, false⟩

/-- A context that ends some seconds after the clock reads `now`. -/
def withTimeout (now : Float) (seconds : Seconds) (block : Value) : Except Failure CallContext := do
  let s ← seconds.toFloat
  return ⟨some (.real (now + s)), block, false⟩

def cancel (c : CallContext) : CallContext := { c with cancelled := true }

def deadlineExceeded (c : CallContext) (now : Float) : Bool :=
  match c.deadline with
  | some d => d.reached now
  | none => false

/-- Refuses if the context is done. -/
def check (c : CallContext) (now : Float) : Except Failure Unit :=
  if c.cancelled then .error .cancelled
  else if c.deadlineExceeded now then .error .deadlineExceeded
  else .ok ()

/-- The seconds left, never negative; nothing without a deadline. -/
def remaining (c : CallContext) (now : Float) : Except Failure (Option Float) :=
  match c.deadline with
  | none => .ok none
  | some d => do
    let left := (← d.toFloat) - now
    return some (if 0.0 > left then 0.0 else left)

/-- The seconds left as a value. -/
def remainingValue (c : CallContext) (now : Float) : Except Failure Value := do
  match ← c.remaining now with
  | some x => return .float x
  | none => return .null

/-- A description for a reader of logs. -/
def describe (c : CallContext) (now : Float) : Except Failure String := do
  let left ← c.remainingValue now
  return "CallContext(block_identifier=" ++ c.block.quoted ++ ", remaining=" ++ left.quoted ++
    ", cancelled=" ++ (Value.bool c.cancelled).quoted ++ ")"

end CallContext

end Restaking
