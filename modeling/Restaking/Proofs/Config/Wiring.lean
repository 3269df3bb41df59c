import Restaking.Proofs.Bindings.Build
import Restaking.Proofs.Bindings.Movement
import Restaking.Proofs.Config.Deployment
import Restaking.Proofs.Config.Precedence
import Restaking.Proofs.Reader.Plan

/-!
# What a configured address decides

A build looks at the addresses of its configuration alone: whether one is zero, and otherwise its canonical
text. Loggers and nodes are arbitrary here, so that a build may also fail, and then what it asked for until
it failed still counts.
-/
namespace Restaking

variable {ρ σ : Type}

namespace Configured

def interface : Configured → Interface
  | delegationManager => .delegationManager
  | avsDirectory => .avsDirectory
  | rewardsCoordinator => .rewardsCoordinator

theorem deploys_interface_iff (config : ReaderConfig) (k : Configured) :
    config.Deploys k.interface ↔ k.address config ≠ .zero := by
  cases k <;> rfl

end Configured

namespace Session

/-- Further handles were wished for, and only of these contracts. -/
def Connects (p : Interface → Prop) (s t : Session ρ σ) : Prop :=
  ∃ more, t.connections = s.connections ++ more ∧ ∀ e ∈ more, p e.2

variable {p : Interface → Prop}

theorem connects_of_connections_eq {s t : Session ρ σ} (h : t.connections = s.connections) :
    Connects p s t := by
  refine ⟨[], ?_, ?_⟩
  · rw [h, List.append_nil]
  · intro e he
    cases he

theorem connects_trans (s t u : Session ρ σ) (hst : Connects p s t) (htu : Connects p t u) :
    Connects p s u := by
  obtain ⟨first, ht, hfirst⟩ := hst
  obtain ⟨second, hu, hsecond⟩ := htu
  refine ⟨first ++ second, ?_, ?_⟩
  · rw [hu, ht, List.append_assoc]
  · intro e he
    exact (List.mem_append.1 he).elim (hfirst e) (hsecond e)

end Session

namespace Bindings

variable (node : Node ρ σ)

/-- A build wishes for handles of deployed contracts only. -/
theorem connects_ofConfig (config : ReaderConfig) (logger : Option Logging.Logger) :
    (ofConfig node config logger).Moves (Session.Connects config.Deploys) := by
  refine moves_ofConfig node (fun s => Session.connects_of_connections_eq rfl) Session.connects_trans
    (fun s records => Session.connects_of_connections_eq rfl) ?_ ?_ logger
  · intro a interface hinterface s
    refine ⟨[(a.text, interface)], node.connections_handle _ _ s, ?_⟩
    intro e he
    rw [List.mem_singleton.1 he]
    exact hinterface
  · intro manager f hf s
    exact Session.connects_of_connections_eq (node.connections_call _ s)

variable {node} {a : Address} {i : Interface} {logger : Logging.Logger} {b : Bindings} {s t : Session ρ σ}

theorem wire_apply (i : Interface) (given : Value) (s : Session ρ σ) :
    wire node i given s =
      ((WiringStep.attempt node i given s).1.mapError
        fun e => .binding ("Failed to create " ++ title i ++ " contract") (some e),
        (WiringStep.attempt node i given s).2) := by
  have hwire : wire node i given =
      Action.mapFailure (fun e => .binding ("Failed to create " ++ title i ++ " contract") (some e))
        (WiringStep.attempt node i given) := rfl
  rw [hwire, Action.mapFailure_apply]

theorem wire_text_eq_ok {h : Handle} (hw : wire node i (.text a.text) s = (.ok h, t)) :
    h = ⟨a.text, i⟩ := by
  rw [wire_apply] at hw
  exact WiringStep.attempt_text_eq_ok (mapError_eq_ok (congrArg Prod.fst hw))

theorem wireDeployed_eq_ok {found : Option Handle}
    (h : wireDeployed node logger i a s = (.ok found, t)) :
    found = if a = .zero then none else some ⟨a.text, i⟩ := by
  unfold wireDeployed at h
  split at h
  · rename_i ha
    obtain ⟨_, u, -, h⟩ := Action.bind_apply_eq_ok h
    cases h
    rw [if_pos ha]
  · rename_i ha
    obtain ⟨handle, u, hw, h⟩ := Action.bind_apply_eq_ok h
    cases h
    rw [if_neg ha, wire_text_eq_ok hw]

theorem wireManager_eq_ok (h : wireManager node logger a s = (.ok b, t)) :
    b.delegationManager = some ⟨a.text, .delegationManager⟩ := by
  obtain ⟨manager, _, hw, h⟩ := Action.bind_apply_eq_ok h
  obtain ⟨slasherAnswer, _, -, h⟩ := Action.bind_apply_eq_ok h
  obtain ⟨strategyAnswer, _, -, h⟩ := Action.bind_apply_eq_ok h
  obtain ⟨_, _, -, h⟩ := Action.bind_apply_eq_ok h
  obtain ⟨slasher, _, -, h⟩ := Action.bind_apply_eq_ok h
  obtain ⟨strategyManager, _, -, h⟩ := Action.bind_apply_eq_ok h
  cases h
  exact congrArg some (wire_text_eq_ok hw)

/-- A build that succeeds has the handles of the configured contracts that are deployed. -/
theorem get_of_ofConfig {config : ReaderConfig} {given : Option Logging.Logger}
    (h : ofConfig node config given s = (.ok b, t)) (k : Configured) :
    b.get k.interface =
      if k.address config = .zero then none else some ⟨(k.address config).text, k.interface⟩ := by
  obtain ⟨managers, _, hmanagers, h⟩ := Action.bind_apply_eq_ok h
  obtain ⟨directory, _, hdirectory, h⟩ := Action.bind_apply_eq_ok h
  obtain ⟨coordinator, _, hcoordinator, h⟩ := Action.bind_apply_eq_ok h
  cases h
  -- The other two contracts are wired later and leave the delegation manager's handle alone.
  cases k with
  | delegationManager =>
    change managers.delegationManager = if config.delegationManager = .zero then none else
      some ⟨config.delegationManager.text, .delegationManager⟩
    split at hmanagers
    · rename_i hzero
      obtain ⟨_, _, -, hmanagers⟩ := Action.bind_apply_eq_ok hmanagers
      cases hmanagers
      rw [if_pos hzero]
      rfl
    · rename_i hzero
      rw [if_neg hzero]
      exact wireManager_eq_ok hmanagers
  | avsDirectory => exact wireDeployed_eq_ok hdirectory
  | rewardsCoordinator => exact wireDeployed_eq_ok hcoordinator

theorem get_eq_none_iff {config : ReaderConfig} {given : Option Logging.Logger}
    (h : ofConfig node config given s = (.ok b, t)) (k : Configured) :
    b.get k.interface = none ↔ k.address config = .zero := by
  rw [get_of_ofConfig h k]
  by_cases ha : k.address config = .zero <;> simp [ha]

end Bindings

/-- Of what is given to a configured field only the address that it denotes counts. Configurations and
settings cannot tell spellings of one address apart and refuse what denotes none; hence builds of either
spelling are the same, and a build skips the contract exactly if the bytes of the address are all zero.
Settings have the addresses that they were given, so that their configuration is read without a fault. -/
theorem Configured.denotation_decides (node : Node ρ σ) (k : Configured) :
    k.ByDenotation ReaderConfig.fields (fun entries name => entries.lookup name) id
        ReaderConfig.ofEntries ∧
      k.ByDenotation Settings.fields Settings.Sources.value? Settings.contracts Settings.ofSources ∧
      (∀ {entries : List (String × Value)},
        (∀ (j : Configured) x, entries.lookup j.field = some x → ∃ a, Denotes x a) →
        ∃ config, ReaderConfig.ofEntries entries = .ok config) ∧
      (∀ {x y a entries entries'}, Denotes x a → Denotes y a →
        k.Respelled ReaderConfig.fields x y (entries.lookup ·) (entries'.lookup ·) →
        ∀ {config config'}, ReaderConfig.ofEntries entries = .ok config →
          ReaderConfig.ofEntries entries' = .ok config' → ∀ logger s,
            Bindings.ofConfig node config logger s = Bindings.ofConfig node config' logger s) ∧
      (∀ config logger s,
        let zero := ∀ byte ∈ (k.address config).bytes, byte = 0
        (zero → Session.Connects (· ≠ k.interface) s (Bindings.ofConfig node config logger s).2) ∧
          ∀ {b t}, Bindings.ofConfig node config logger s = (.ok b, t) →
            (b.get k.interface = none ↔ zero) ∧
              ∀ h ∈ b.get k.interface, h = ⟨(k.address config).text, k.interface⟩) ∧
      ∀ {sources settings}, Settings.ofSources sources = .ok settings →
        settings.readerConfig = .ok settings.contracts := by
  have hentries := ReaderConfig.byDenotation_ofEntries k
  refine ⟨hentries, Settings.byDenotation_ofSources k, ?_, ?_, ?_, fun _ => Settings.readerConfig_eq _⟩
  · intro entries h
    refine ReaderConfig.exists_ofEntries fun j => ?_
    cases hx : entries.lookup j.field with
    | none => exact ⟨.zero, by rw [reading, hx]; rfl⟩
    | some x =>
      obtain ⟨a, ha⟩ := h j x hx
      exact ⟨a, (reading_eq hx).trans (deployment_eq_ok_iff.2 ha)⟩
  · intro x y a entries entries' hx hy hs config config' hconfig hconfig' logger s
    have hsame : Except.ok config = Except.ok config' :=
      hconfig.symm.trans ((hentries.respelled hx hy hs).trans hconfig')
    rw [Except.ok.inj hsame]
  · intro config logger s zero
    have hzero : k.address config = .zero ↔ zero := Address.eq_zero_iff _
    refine ⟨fun h => ?_, fun {b t} hb => ?_⟩
    · obtain ⟨more, hmore, hdeployed⟩ := Bindings.connects_ofConfig node config logger s
      refine ⟨more, hmore, fun e he hinterface => ?_⟩
      have hne := (k.deploys_interface_iff config).1 (hinterface ▸ hdeployed e he)
      exact hne (hzero.2 h)
    · rw [Bindings.get_of_ofConfig hb k, ← hzero]
      by_cases ha : k.address config = .zero
      · simp [ha]
      · simp [ha]

/-- Twenty bytes in the environment, as digits of either case between blanks, and as an argument; a number in
place of an address; and a build with nothing deployed. -/
theorem Configured.denotation_decides_padded :
    let k : Configured := .avsDirectory
    let a : Address := ⟨List.replicate 20 171, rfl⟩
    let padded := String.ofList ([' ', '0', 'X'] ++ (List.replicate 20 ['a', 'B']).flatten ++ ['\n'])
    let written : Settings.Sources := { Settings.Sources.empty with
      environment := [("AVS_DIRECTORY_ADDRESS", padded)] }
    let given : Settings.Sources := { Settings.Sources.empty with arguments := [(k.field, .buffer a.bytes)] }
    let s := Session.start 0.0 ()
    let r := Bindings.ofConfig Bindings.namingNode .empty none s
    Denotes (.text padded) a ∧ Denotes (.buffer a.bytes) a ∧
      Settings.ofSources written = Settings.ofSources given ∧
      (∃ faults v, ReaderConfig.ofEntries [(k.field, .int 5)] = .error faults ∧
        (k.field, .notAddress v) ∈ faults) ∧
      Session.Connects (· ≠ k.interface) s r.2 ∧ ∃ b, r.1 = .ok b ∧ b.get k.interface = none := by
  intro k a padded written given s r
  have hpadded : Denotes (.text padded) a := by
    have hs : padded.toList = [' '] ++ (['0', 'X'] ++ (List.replicate 20 ['a', 'B']).flatten) ++ ['\n'] := by
      rw [String.toList_ofList]
      rfl
    have hdigits : ((List.replicate 20 ['a', 'B']).flatten).map Text.Hex.digit? =
        (Address.nibbles a.bytes).map some := by decide
    exact .text hs (List.forall_mem_singleton.2 rfl) (.inr (.inr rfl)) hdigits
      (List.forall_mem_singleton.2 rfl)
  have hbuffer : Denotes (.buffer a.bytes) a := .buffer a
  have hint : ∀ b, ¬ Denotes (.int 5) b := by
    intro b hb
    cases hb
  obtain ⟨hentries, hsources, -, -, hbuild, -⟩ := denotation_decides Bindings.namingNode k
  have hrespelled :
      k.Respelled Settings.fields (.text padded) (.buffer a.bytes) written.value? given.value? := by
    have hothers : ∀ name ∈ Settings.fields, name ≠ k.field →
        Settings.Sources.foldName false "AVS_DIRECTORY_ADDRESS" ≠ Settings.Sources.foldName false name ∧
        Settings.Sources.foldName false k.field ≠ Settings.Sources.foldName false name := by decide
    refine ⟨?_, ?_, fun name hname hne => ?_⟩
    · exact (Settings.Sources.value?_variable _ _ _).trans (if_pos (by decide))
    · exact (Settings.Sources.value?_argument _ _ _).trans (if_pos rfl)
    · obtain ⟨hvariable, hargument⟩ := hothers name hname hne
      have hnone := (Settings.Sources.value?_variable _ name padded).trans (if_neg hvariable)
      exact hnone.trans ((Settings.Sources.value?_argument _ name _).trans (if_neg hargument)).symm
  have hzero : ∀ byte ∈ (k.address .empty).bytes, byte = 0 := (Address.eq_zero_iff _).1 rfl
  refine ⟨hpadded, hbuffer, hsources.respelled hpadded hbuffer hrespelled, hentries.rejected hint rfl,
    (hbuild .empty none s).1 hzero, .empty, rfl, ?_⟩
  exact ((hbuild .empty none s).2 rfl).1.2 hzero

end Restaking
