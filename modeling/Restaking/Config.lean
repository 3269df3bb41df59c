import Restaking.Word
import Restaking.Fault

/-!
# Configuration of a reader

Three deployment addresses, each in any spelling; blank text and nothing at all stand for the zero
address, which means that the contract is not deployed. A configuration holds addresses themselves, so
two spellings of one address give one configuration.
-/
namespace Restaking

open Restaking.Text

/-- The deployment address that a value denotes. -/
def deployment : Value → Except FieldFault Address
  | .null => .ok .zero
  | .text s =>
    let cs := trim s.toList
    if cs.isEmpty then .ok .zero
    else
      match Address.ofText? cs with
      | some a => .ok a
      | none => .error (.notAddress (.text (String.ofList cs)))
  | v =>
    match Address.ofValue? v with
    | some a => .ok a
    | none => .error (.notAddress v)

/-- The fault of a field, under its name. -/
def faultOf {α : Type} (name : String) : Except FieldFault α → Faults
  | .ok _ => []
  | .error e => [(name, e)]

/-- The deployment addresses of the core contracts. -/
structure ReaderConfig where
  delegationManager : Address
  avsDirectory : Address
  rewardsCoordinator : Address
  deriving DecidableEq

namespace ReaderConfig

def delegationManagerField : String := "delegation_manager_address"
def avsDirectoryField : String := "avs_directory_address"
def rewardsCoordinatorField : String := "rewards_coordinator_address"

/-- Every address is zero. -/
def empty : ReaderConfig := ⟨.zero, .zero, .zero⟩

/-- A configuration from three values. -/
def ofValues (delegationManager avsDirectory rewardsCoordinator : Value) :
    Except Faults ReaderConfig :=
  match deployment delegationManager, deployment avsDirectory, deployment rewardsCoordinator with
  | .ok d, .ok a, .ok r => .ok ⟨d, a, r⟩
  | d, a, r =>
    .error (faultOf delegationManagerField d ++ faultOf avsDirectoryField a ++
      faultOf rewardsCoordinatorField r)

/-- A configuration from named values. A field that is not named is zero, other names are ignored. -/
def ofEntries (entries : List (String × Value)) : Except Faults ReaderConfig :=
  let get (name : String) := (entries.lookup name).getD .null
  ofValues (get delegationManagerField) (get avsDirectoryField) (get rewardsCoordinatorField)

end ReaderConfig

end Restaking
