import Restaking.Node.Direct
import Restaking.Proofs.Except
import Restaking.Proofs.Reader.Plan
import Restaking.Proofs.Session.Contexts

/-!
# The order in which an accessor fails

One order of failures holds for the fourteen accessors of a wired contract: a missing handle, then the
arguments from left to right, then the context, then the call, then the context again, then the shape of
the answer. Until the call, nothing of the session changes.
-/
namespace Restaking

variable {ρ σ : Type}

namespace Plan

variable {p : Plan} {node : Node ρ σ} {reader : Reader} {h : Handle} {s : Session ρ σ}

/-- Without its contract an accessor is refused, whatever else is wrong. -/
theorem run_of_missing (hh : reader.handles.get p.contract = none) (context : Option String) :
    p.run node reader context s =
      (.error (.contractNotProvided (Reader.contractName p.contract)), s) := by
  rw [run, hh]
  rfl

theorem run_of_arguments_eq_error (hh : reader.handles.get p.contract = some h)
    (ho : node.offers h p.function s.node = .ok ()) {e : Failure} (ha : p.arguments = .error e)
    (context : Option String) : p.run node reader context s = (.error e, s) := by
  rw [run, hh, Action.bind_apply, Reader.require, Action.ofExcept]
  simp only [Action.bind_apply, collect_of_offers p ho, ha]

/-- With its contract and its arguments at hand, an accessor is one call inside the context. -/
theorem run_of_arguments_eq_ok (hh : reader.handles.get p.contract = some h)
    (ho : node.offers h p.function s.node = .ok ()) {arguments : List Argument}
    (ha : p.arguments = .ok arguments) (hacc : node.accepts p.function arguments = .ok ())
    (context : Option String) :
    p.run node reader context s =
      (node.callWithin context h p.function arguments >>= fun v => .ofExcept (p.shape v)) s := by
  rw [run, hh, Action.bind_apply, Reader.require, Action.ofExcept]
  simp only [Action.bind_apply, collect_of_offers p ho, ha, Node.accepting, Action.ofExcept, hacc]

end Plan

namespace Query

end Query

end Restaking
