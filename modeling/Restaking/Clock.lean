import Restaking.Failure

/-!
# Time

The clock is monotonic and reads as a double. A deadline may also be a whole number; comparing it with a
reading is exact, as both are whole numbers of the least positive double, or infinite. A deadline that
is not a number is never passed.
-/
namespace Restaking

open Decimal

/-- A point on the time line. -/
inductive Moment where
  | beginning
  | units (n : Int)
  | ending
  deriving DecidableEq, Repr

namespace Moment

/-- The order of time. -/
def le : Moment → Moment → Bool
  | beginning, _ => true
  | _, beginning => false
  | _, ending => true
  | ending, _ => false
  | units m, units n => m ≤ n

def ofFloat? (x : Float) : Option Moment :=
  match Reading.ofFloat x with
  | .nan => none
  | .infinite negative => some (if negative then beginning else ending)
  | r => r.units?.map units

def ofInt (n : Int) : Moment := units (n * unitsPerOne)

theorem le_trans {a b c : Moment} (hab : a.le b = true) (hbc : b.le c = true) : a.le c = true := by
  cases a <;> cases b <;> cases c <;> simp_all [le]
  omega

end Moment

/-- An amount or a point of time as a caller gives it. -/
inductive Seconds where
  | whole (n : Int)
  | real (x : Float)
  /-- A truth value counts as one or zero. -/
  | flag (b : Bool)

namespace Seconds

def moment? : Seconds → Option Moment
  | whole n => some (.ofInt n)
  | real x => Moment.ofFloat? x
  | flag b => some (.ofInt (if b then 1 else 0))

/-- The nearest double; a whole number beyond the greatest one is refused. -/
def toFloat : Seconds → Except Failure Float
  | whole n =>
    match ofInt? n with
    | some x => .ok x
    | none => .error (.conversion .tooLargeForDouble)
  | real x => .ok x
  | flag b => .ok (if b then 1.0 else 0.0)

def toValue : Seconds → Value
  | whole n => .int n
  | real x => .float x
  | flag b => .bool b

/-- The whole seconds that are over at this point. -/
def floor? : Seconds → Option Int
  | whole n => some n
  | real x => Decimal.floor? x
  | flag b => some (if b then 1 else 0)

/-- Whether the clock, which reads `now`, has come to this point. -/
def reached (deadline : Seconds) (now : Float) : Bool :=
  match deadline.moment?, Moment.ofFloat? now with
  | some d, some t => d.le t
  | _, _ => false

end Seconds

end Restaking
