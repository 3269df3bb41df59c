import Restaking.Failure

/-!
# Distribution roots

The rewards coordinator publishes roots of earnings. An answer gives the four fields by position or by
name; they are converted in order, and the first one that is missing or does not convert decides.
-/
namespace Restaking

structure DistributionRoot where
  root : List UInt8
  rewardsCalculationEnd : Int
  activatedAt : Int
  disabled : Bool

namespace DistributionRoot

/-- The distribution root in an answer. -/
def ofAnswer (answer : Value) : Except Failure DistributionRoot := do
  let root ← ofConversion (← ofField (answer.field 0 "root")).toBytes
  let calculationEnd ←
    ofConversion (← ofField (answer.field 1 "rewardsCalculationEndTimestamp")).toInteger
  let activatedAt ← ofConversion (← ofField (answer.field 2 "activatedAt")).toInteger
  let disabled ← ofField (answer.field 3 "disabled")
  return ⟨root, calculationEnd, activatedAt, disabled.truth⟩

end DistributionRoot

/-- The operator in an answer to a query about `address`. Its first field is out of use. -/
def Operator.ofAnswer (address answer : Value) : Except Failure (Operator Value) := do
  let approver ← ofField (answer.field 1 "delegationApprover")
  let window ← ofField (answer.field 2 "stakerOptOutWindowBlocks")
  let approver ← ofConversion (Address.ofAnswer approver)
  return ⟨address, .text approver.text, window⟩

end Restaking
