import Restaking.Proofs.Bindings.Steps

/-!
# What a build may do to a session

A build logs, makes handles at canonical texts of contracts that are to be deployed, and asks the delegation
manager two questions without arguments. A reflexive and transitive relation that those keep is kept by the
build, whatever its outcome and whatever its logger refuses.
-/
namespace Restaking

variable {ρ σ : Type}

/-- A contract is wired by a build of the configuration. -/
def ReaderConfig.Deploys (config : ReaderConfig) : Interface → Prop
  | .delegationManager | .slasher | .strategyManager => config.delegationManager ≠ .zero
  | .avsDirectory => config.avsDirectory ≠ .zero
  | .rewardsCoordinator => config.rewardsCoordinator ≠ .zero
  | .strategy | .token => False

theorem Action.moves_log {R : Session ρ σ → Session ρ σ → Prop} (hrefl : ∀ s, R s s)
    (hrecords : ∀ s records, R s (s.withRecords records)) (logger : Logging.Logger)
    (level : Logging.Level) (message : String) : (log logger level message : Action ρ σ Unit).Moves R := by
  intro s
  cases hr : (logger.record level message none).reserved? with
  | some name =>
    simp only [log, hr]
    exact hrefl s
  | none =>
    simp only [log, hr]
    exact hrecords s _

namespace Bindings

variable (node : Node ρ σ) {R : Session ρ σ → Session ρ σ → Prop} (hrefl : ∀ s, R s s)
  (htrans : ∀ s t u, R s t → R t u → R s u)

include hrefl

theorem moves_resolve {manager : Handle} {f : Abi.Function}
    (hcall : (node.call ⟨manager, f, [], none⟩).Moves R) (interface : Interface) :
    (resolve node manager interface f).Moves R := by
  refine Action.Moves.mapFailure (fun s => ?_) _
  rcases WiringStep.question_cases node manager f s with ⟨e, hq⟩ | hq
  · change R s (WiringStep.question node manager f s).2
    rw [hq]
    exact hrefl s
  · change R s (WiringStep.question node manager f s).2
    rw [hq]
    exact hcall s

include htrans

theorem moves_wire {interface : Interface}
    (hhandle : ∀ a : Address, (node.handle a.text interface).Moves R) (given : Value) :
    (wire node interface given).Moves R := by
  refine Action.Moves.mapFailure ?_ _
  exact (Action.moves_of_snd_eq hrefl fun _ => rfl).bind htrans fun a => hhandle a

variable (hrecords : ∀ s records, R s (s.withRecords records))

include hrecords

theorem moves_wireManager
    (hhandle : ∀ (a : Address) interface,
      interface = .delegationManager ∨ interface = .slasher ∨ interface = .strategyManager →
      (node.handle a.text interface).Moves R)
    (hcall : ∀ manager f, f = Contract.slasher ∨ f = Contract.strategyManager →
      (node.call ⟨manager, f, [], none⟩).Moves R)
    (logger : Logging.Logger) (a : Address) : (wireManager node logger a).Moves R := by
  unfold wireManager
  refine (moves_wire node hrefl htrans (fun b => hhandle b _ (.inl rfl)) _).bind htrans fun manager => ?_
  refine (moves_resolve node hrefl (hcall manager _ (.inl rfl)) _).bind htrans fun slasherAnswer => ?_
  refine (moves_resolve node hrefl (hcall manager _ (.inr rfl)) _).bind htrans fun strategyAnswer => ?_
  refine (Action.moves_log hrefl hrecords _ _ _).bind htrans fun _ => ?_
  refine (moves_wire node hrefl htrans (fun b => hhandle b _ (.inr (.inl rfl))) _).bind htrans
    fun slasher => ?_
  refine (moves_wire node hrefl htrans (fun b => hhandle b _ (.inr (.inr rfl))) _).bind htrans
    fun strategyManager => ?_
  exact Action.moves_of_snd_eq hrefl fun _ => rfl

theorem moves_wireDeployed {interface : Interface} {a : Address}
    (hhandle : a ≠ .zero → ∀ b : Address, (node.handle b.text interface).Moves R)
    (logger : Logging.Logger) : (wireDeployed node logger interface a).Moves R := by
  unfold wireDeployed
  split
  · exact (Action.moves_log hrefl hrecords _ _ _).bind htrans fun _ =>
      Action.moves_of_snd_eq hrefl fun _ => rfl
  · rename_i ha
    exact (moves_wire node hrefl htrans (hhandle ha) _).bind htrans fun _ =>
      Action.moves_of_snd_eq hrefl fun _ => rfl

/-- What records, the handles of deployed contracts and the two questions keep, a build keeps. -/
theorem moves_ofConfig {config : ReaderConfig}
    (hhandle : ∀ (a : Address) interface, config.Deploys interface →
      (node.handle a.text interface).Moves R)
    (hcall : ∀ manager f, f = Contract.slasher ∨ f = Contract.strategyManager →
      (node.call ⟨manager, f, [], none⟩).Moves R)
    (logger : Option Logging.Logger) : (ofConfig node config logger).Moves R := by
  unfold ofConfig
  refine Action.Moves.bind htrans ?_ fun managers => ?_
  · split
    · exact (Action.moves_log hrefl hrecords _ _ _).bind htrans fun _ =>
        Action.moves_of_snd_eq hrefl fun _ => rfl
    · rename_i hmanager
      refine moves_wireManager node hrefl htrans hrecords (fun a i hi => hhandle a i ?_) hcall _ _
      rcases hi with rfl | rfl | rfl <;> exact hmanager
  · refine (moves_wireDeployed node hrefl htrans hrecords (fun ha b => hhandle b .avsDirectory ha) _).bind
      htrans fun directory => ?_
    refine (moves_wireDeployed node hrefl htrans hrecords
      (fun ha b => hhandle b .rewardsCoordinator ha) _).bind htrans fun coordinator => ?_
    exact Action.moves_of_snd_eq hrefl fun _ => rfl

theorem moves_ofTwoAddresses
    (hhandle : ∀ (a : Address) interface, (node.handle a.text interface).Moves R)
    (delegationManager avsDirectory : Value) (logger : Option Logging.Logger) :
    (ofTwoAddresses node delegationManager avsDirectory logger).Moves R := by
  unfold ofTwoAddresses
  refine (moves_wire node hrefl htrans (fun a => hhandle a _) _).bind htrans fun manager => ?_
  refine (moves_wire node hrefl htrans (fun a => hhandle a _) _).bind htrans fun directory => ?_
  refine (Action.moves_log hrefl hrecords _ _ _).bind htrans fun _ => ?_
  exact Action.moves_of_snd_eq hrefl fun _ => rfl

end Bindings

end Restaking
