import Restaking.Proofs.Address.Text
import Restaking.Proofs.Bindings.Steps
import Restaking.Reader

/-!
# Building from a configuration

A build is its steps up to the first that fails: with all of them done it gives exactly the handles that
were asked for, and otherwise none, only the failure of that step. The logger is taken to refuse nothing.
-/
namespace Restaking

open WiringStep

variable {ρ σ : Type}

namespace WiringStep

variable {node : Node ρ σ} {manager : Handle} {w : Wiring}

theorem attempt_text_eq_ok {i : Interface} {a : Address} {s : Session ρ σ} {h : Handle}
    (hs : (attempt node i (.text a.text) s).1 = .ok h) : h = ⟨a.text, i⟩ := by
  rw [attempt_apply, Address.ofInput_text] at hs
  exact node.handle_eq_ok hs

theorem follows_wireManager {logger : Logging.Logger} (hlogger : logger.Accepting)
    (config : ReaderConfig) :
    Follows node ⟨config.delegationManager.text, .delegationManager⟩
      (Bindings.wireManager node logger config.delegationManager) managed (.start config)
      fun b v => v.bindings = b ∧ b.avsDirectory = none ∧ b.rewardsCoordinator = none ∧
        v.addresses .avsDirectory = .text config.avsDirectory.text ∧
        v.addresses .rewardsCoordinator = .text config.rewardsCoordinator.text := by
  show Follows _ _ _ ([connect .delegationManager] ++ ([ask .slasher Contract.slasher] ++
    ([ask .strategyManager Contract.strategyManager] ++ ([] ++ ([connect .slasher] ++
    ([connect .strategyManager] ++ [])))))) _ _
  unfold Bindings.wireManager
  refine Follows.bind (follows_wire .delegationManager rfl) ?_
  rintro manager _ ⟨rfl, s, hs⟩
  cases attempt_text_eq_ok hs
  refine Follows.bind (follows_resolve .slasher Contract.slasher) ?_
  rintro slasherAnswer _ ⟨rfl, -⟩
  refine Follows.bind (follows_resolve .strategyManager Contract.strategyManager) ?_
  rintro strategyAnswer _ ⟨rfl, -⟩
  refine Follows.bind (follows_log hlogger _ _) ?_
  rintro _ _ rfl
  refine Follows.bind (follows_wire .slasher rfl) ?_
  rintro slasher _ ⟨rfl, -⟩
  refine Follows.bind (follows_wire .strategyManager rfl) ?_
  rintro strategyManager _ ⟨rfl, -⟩
  exact follows_pure ⟨rfl, rfl, rfl, rfl, rfl⟩

theorem follows_wireDeployed {logger : Logging.Logger} (hlogger : logger.Accepting) (i : Interface)
    {a : Address} (hw : w.addresses i = .text a.text) :
    Follows node manager (Bindings.wireDeployed node logger i a)
      (if a = .zero then [] else [connect i]) w fun found v =>
        v.addresses = w.addresses ∧ v.bindings = found.elim w.bindings fun h => w.bindings.set h i := by
  unfold Bindings.wireDeployed
  by_cases ha : a = .zero
  · rw [if_pos ha, if_pos ha]
    show Follows _ _ _ ([] ++ []) _ _
    refine Follows.bind (follows_log hlogger _ _) ?_
    rintro _ _ rfl
    exact follows_pure ⟨rfl, rfl⟩
  · rw [if_neg ha, if_neg ha]
    show Follows _ _ _ ([connect i] ++ []) _ _
    refine Follows.bind (follows_wire i hw) ?_
    rintro h _ ⟨rfl, -⟩
    exact follows_pure ⟨rfl, rfl⟩

theorem run_connect_of_text {i : Interface} {a : Address} (hw : w.addresses i = .text a.text)
    (s : Session ρ σ) :
    (connect i).run node manager w s =
      ((node.handle a.text i s).1.map fun h => { w with bindings := w.bindings.set h i },
        (node.handle a.text i s).2) := by
  rw [run, Action.map_apply, attempt_apply, hw, Address.ofInput_text]

/-- A build does the steps of its configuration. -/
theorem follows_ofConfig {logger : Option Logging.Logger} (hlogger : (Bindings.loggerOr logger).Accepting)
    (config : ReaderConfig) :
    Follows node ⟨config.delegationManager.text, .delegationManager⟩
      (Bindings.ofConfig node config logger) (WiringStep.ofConfig config) (.start config)
      fun b v => v.bindings = b := by
  have hmanagers : Follows node ⟨config.delegationManager.text, .delegationManager⟩
      (if config.delegationManager = .zero then (do
          Action.log (Bindings.loggerOr logger) .info
            "DelegationManager address not set, skipping DelegationManager, Slasher and StrategyManager"
          return .empty)
        else Bindings.wireManager node (Bindings.loggerOr logger) config.delegationManager)
      (if config.delegationManager = .zero then [] else managed) (.start config)
      fun b v => v.bindings = b ∧ b.avsDirectory = none ∧ b.rewardsCoordinator = none ∧
        v.addresses .avsDirectory = .text config.avsDirectory.text ∧
        v.addresses .rewardsCoordinator = .text config.rewardsCoordinator.text := by
    by_cases hzero : config.delegationManager = .zero
    · rw [if_pos hzero, if_pos hzero]
      show Follows _ _ _ ([] ++ []) _ _
      refine Follows.bind (follows_log hlogger _ _) ?_
      rintro _ _ rfl
      exact follows_pure ⟨rfl, rfl, rfl, rfl, rfl⟩
    · rw [if_neg hzero, if_neg hzero]
      exact follows_wireManager hlogger config
  unfold Bindings.ofConfig WiringStep.ofConfig
  rw [List.append_assoc, ← List.append_nil (if config.rewardsCoordinator = .zero then _ else _)]
  refine Follows.bind hmanagers ?_
  rintro managers v ⟨rfl, hdirectory, hcoordinator, hv⟩
  obtain ⟨addresses, slasher, manager, strategyManager, avs, rewards⟩ := v
  cases hdirectory
  cases hcoordinator
  refine Follows.bind (follows_wireDeployed hlogger .avsDirectory hv.1) ?_
  rintro directory u ⟨hu, hbound⟩
  refine Follows.bind (follows_wireDeployed hlogger .rewardsCoordinator (hu ▸ hv.2)) ?_
  rintro coordinator t ⟨-, ht⟩
  refine follows_pure ?_
  rw [ht, hbound]
  cases directory <;> cases coordinator <;> rfl

end WiringStep

namespace Bindings

/-- The delegation manager is wired, and with it the two contracts that it named when it was asked, from
`state` on: the slasher first, then the strategy manager, each at the address that its answer spells. -/
def Managed (node : Node ρ σ) (manager : Handle) (state : σ) (b : Bindings) (asked : List ρ) : Prop :=
  let ask (f : Abi.Function) : Request := ⟨manager, f, [], none⟩
  let connected := (node.connect manager.address manager.interface state).2
  ∃ wire₁ wire₂ answer₁ answer₂ slasher strategyManager,
    node.prepare (ask Contract.slasher) = .ok wire₁ ∧
    node.prepare (ask Contract.strategyManager) = .ok wire₂ ∧
    (node.answer (ask Contract.slasher) wire₁ connected).1.outcome = .ok answer₁ ∧
    (node.answer (ask Contract.strategyManager) wire₂
      (node.answer (ask Contract.slasher) wire₁ connected).2).1.outcome = .ok answer₂ ∧
    Address.ofInput "Slasher address" answer₁ = .ok slasher ∧
    Address.ofInput "StrategyManager address" answer₂ = .ok strategyManager ∧
    b.delegationManager = some manager ∧
    b.slasher = some ⟨slasher.text, .slasher⟩ ∧
    b.strategyManager = some ⟨strategyManager.text, .strategyManager⟩ ∧
    asked = [wire₁, wire₂]

/-- The handles are those that a configuration asks for, had from a node in `state` with these calls. -/
structure Deployed (node : Node ρ σ) (config : ReaderConfig) (state : σ) (b : Bindings)
    (asked : List ρ) : Prop where
  /-- Without a delegation manager nothing is asked and none of the three is there. -/
  unmanaged : config.delegationManager = .zero →
    b.delegationManager = none ∧ b.slasher = none ∧ b.strategyManager = none ∧ asked = []
  managed : config.delegationManager ≠ .zero →
    Managed node ⟨config.delegationManager.text, .delegationManager⟩ state b asked
  avsDirectory : b.avsDirectory =
    if config.avsDirectory = .zero then none else some ⟨config.avsDirectory.text, .avsDirectory⟩
  rewardsCoordinator : b.rewardsCoordinator =
    if config.rewardsCoordinator = .zero then none
    else some ⟨config.rewardsCoordinator.text, .rewardsCoordinator⟩

end Bindings

namespace WiringStep

variable {node : Node ρ σ} {manager : Handle} {config : ReaderConfig} {w v : Wiring} {s t : Session ρ σ}

theorem runAll_managed_eq_ok
    (h : runAll node ⟨config.delegationManager.text, .delegationManager⟩ managed (.start config) s =
      (.ok v, t)) :
    (∃ asked, t.calls = s.calls ++ asked ∧
      Bindings.Managed node ⟨config.delegationManager.text, .delegationManager⟩ s.node v.bindings asked) ∧
      v.bindings.avsDirectory = none ∧ v.bindings.rewardsCoordinator = none ∧
      v.addresses .avsDirectory = .text config.avsDirectory.text ∧
      v.addresses .rewardsCoordinator = .text config.rewardsCoordinator.text := by
  obtain ⟨w₁, s₁, h₁, h⟩ := runAll_cons_eq_ok h
  obtain ⟨w₂, s₂, h₂, h⟩ := runAll_cons_eq_ok h
  obtain ⟨w₃, s₃, h₃, h⟩ := runAll_cons_eq_ok h
  obtain ⟨w₄, s₄, h₄, h⟩ := runAll_cons_eq_ok h
  obtain ⟨w₅, s₅, h₅, h⟩ := runAll_cons_eq_ok h
  cases h
  obtain ⟨a₁, ha₁, rfl, hcalls₁, hnode₁⟩ := run_connect_eq_ok h₁
  obtain ⟨wire₂, x₂, hwire₂, hx₂, rfl, hcalls₂, hnode₂⟩ := run_ask_eq_ok h₂
  obtain ⟨wire₃, x₃, hwire₃, hx₃, rfl, hcalls₃, hnode₃⟩ := run_ask_eq_ok h₃
  obtain ⟨a₄, ha₄, rfl, hcalls₄, -⟩ := run_connect_eq_ok h₄
  obtain ⟨a₅, ha₅, rfl, hcalls₅, -⟩ := run_connect_eq_ok h₅
  have hmanager : a₁ = config.delegationManager :=
    (Except.ok.inj ((Address.ofInput_text _ _).symm.trans ha₁)).symm
  subst hmanager
  have hcalls : t.calls = s.calls ++ [wire₂, wire₃] := by
    rw [hcalls₅, hcalls₄, hcalls₃, hcalls₂, hcalls₁, List.append_assoc]
    rfl
  rw [hnode₁] at hx₂ hnode₂
  rw [hnode₂] at hx₃
  exact ⟨⟨_, hcalls, wire₂, wire₃, x₂, x₃, a₄, a₅, hwire₂, hwire₃, hx₂, hx₃, ha₄, ha₅,
    rfl, rfl, rfl, rfl⟩, rfl, rfl, rfl, rfl⟩

theorem runAll_deployed_eq_ok {i : Interface} {a : Address} (hw : w.addresses i = .text a.text)
    (h : runAll node manager (if a = .zero then [] else [connect i]) w s = (.ok v, t)) :
    t.calls = s.calls ∧ v.addresses = w.addresses ∧
      v.bindings = if a = .zero then w.bindings else w.bindings.set ⟨a.text, i⟩ i := by
  by_cases ha : a = .zero
  · rw [if_pos ha] at h
    cases h
    exact ⟨rfl, rfl, by rw [if_pos ha]⟩
  · rw [if_neg ha] at h
    obtain ⟨x, u, hx, h⟩ := runAll_cons_eq_ok h
    cases h
    obtain ⟨b, hb, rfl, hcalls, -⟩ := run_connect_eq_ok hx
    rw [hw] at hb
    cases (Address.ofInput_text _ _).symm.trans hb
    exact ⟨hcalls, rfl, by rw [if_neg ha]⟩

theorem runAll_managers_eq_ok
    (h : runAll node ⟨config.delegationManager.text, .delegationManager⟩
      (if config.delegationManager = .zero then [] else managed) (.start config) s = (.ok v, t)) :
    (∃ asked, t.calls = s.calls ++ asked ∧
      (config.delegationManager = .zero → v.bindings = .empty ∧ asked = []) ∧
      (config.delegationManager ≠ .zero →
        Bindings.Managed node ⟨config.delegationManager.text, .delegationManager⟩ s.node v.bindings
          asked)) ∧
      v.bindings.avsDirectory = none ∧ v.bindings.rewardsCoordinator = none ∧
      v.addresses .avsDirectory = .text config.avsDirectory.text ∧
      v.addresses .rewardsCoordinator = .text config.rewardsCoordinator.text := by
  by_cases hzero : config.delegationManager = .zero
  · rw [if_pos hzero] at h
    cases h
    refine ⟨⟨[], (List.append_nil _).symm, fun _ => ⟨rfl, rfl⟩, fun h => absurd hzero h⟩, rfl, rfl, rfl, rfl⟩
  · rw [if_neg hzero] at h
    obtain ⟨⟨asked, hasked, hmanaged⟩, hrest⟩ := runAll_managed_eq_ok h
    exact ⟨⟨asked, hasked, fun h => absurd h hzero, fun _ => hmanaged⟩, hrest⟩

/-- With all its steps done, a configuration has exactly the handles that it asks for. -/
theorem deployed_of_runAll
    (h : runAll node ⟨config.delegationManager.text, .delegationManager⟩ (ofConfig config)
      (.start config) s = (.ok v, t)) :
    ∃ asked, t.calls = s.calls ++ asked ∧ Bindings.Deployed node config s.node v.bindings asked := by
  obtain ⟨x, u, h, hcoordinator⟩ := runAll_append_eq_ok h
  obtain ⟨y, r, hmanagers, hdirectory⟩ := runAll_append_eq_ok h
  obtain ⟨⟨asked, hasked, hzero, hmanaged⟩, hnone, hnone', ha, ha'⟩ := runAll_managers_eq_ok hmanagers
  obtain ⟨hcalls, haddresses, hx⟩ := runAll_deployed_eq_ok ha hdirectory
  obtain ⟨hcalls', -, hv⟩ := runAll_deployed_eq_ok (haddresses ▸ ha') hcoordinator
  -- The last two steps leave what the delegation manager gave alone.
  have hmanager : v.bindings.delegationManager = y.bindings.delegationManager := by
    rw [hv, hx]; split <;> split <;> rfl
  have hslasher : v.bindings.slasher = y.bindings.slasher := by
    rw [hv, hx]; split <;> split <;> rfl
  have hstrategy : v.bindings.strategyManager = y.bindings.strategyManager := by
    rw [hv, hx]; split <;> split <;> rfl
  refine ⟨asked, by rw [hcalls', hcalls, hasked], fun h => ?_, fun h => ?_, ?_, ?_⟩
  · obtain ⟨hy, rfl⟩ := hzero h
    rw [hmanager, hslasher, hstrategy, hy]
    exact ⟨rfl, rfl, rfl, rfl⟩
  · unfold Bindings.Managed
    rw [hmanager, hslasher, hstrategy]
    exact hmanaged h
  · rw [hv, hx, ← hnone]; split <;> split <;> rfl
  · rw [hv, hx, ← hnone']; split <;> split <;> rfl

end WiringStep

/-! ## Readers of a build -/

namespace Logging

theorem mem_keys_setField {key name : String} {v : Value} {extra : Extra}
    (h : key ∈ (Logger.setField name v extra).map (·.1)) : key = name ∨ key ∈ extra.map (·.1) := by
  induction extra with
  | nil => simpa [Logger.setField] using h
  | cons field rest ih =>
    obtain ⟨n, w⟩ := field
    rw [Logger.setField] at h
    split at h
    · exact .inr h
    · rcases List.mem_cons.1 h with rfl | h
      · exact .inr (by simp)
      · rcases ih h with h | h
        · exact .inl h
        · exact .inr (List.mem_cons_of_mem n h)

theorem reserved?_eq_none_iff (r : Record) :
    r.reserved? = none ↔ ∀ key ∈ r.extra.map (·.1), key ∉ reservedFields := by
  simp [Record.reserved?, List.find?_eq_none]

/-- What arrives beside a message has nothing to do with the message. -/
theorem Logger.extra_record (logger : Logger) (level level' : Level) (message message' : String)
    (extra : Option Extra) :
    (logger.record level message extra).extra = (logger.record level' message' extra).extra := by
  induction logger generalizing extra with
  | named name => rfl
  | adapter inner own ih => exact ih own

/-- A logger that takes one record takes any. -/
theorem Logger.accepting_of_reserved? {logger : Logger} {level : Level} {message : String}
    (h : (logger.record level message none).reserved? = none) : logger.Accepting := by
  intro level' message'
  rw [reserved?_eq_none_iff] at h ⊢
  rwa [logger.extra_record level' level message' message]

/-- The tag of a component is no reserved field, so that no logger refuses more for it. -/
theorem Logger.accepting_tagged {logger : Option Logger} {fallback : String}
    (h : (logger.getD (.named fallback)).Accepting) (component name : String) :
    (tagged component name logger).Accepting := by
  have tag : "component" ∉ reservedFields := by decide
  intro level message
  rw [reserved?_eq_none_iff]
  rcases logger with _ | ⟨own | ⟨inner, extra⟩⟩
  · intro key hkey
    cases List.mem_singleton.1 hkey
    exact tag
  · intro key hkey
    cases List.mem_singleton.1 hkey
    exact tag
  · have hinner := (reserved?_eq_none_iff _).1 (h level message)
    cases inner with
    | named own =>
      intro key hkey
      rcases mem_keys_setField hkey with rfl | hkey
      · exact tag
      · exact hinner key hkey
    | adapter below own => exact hinner

end Logging

namespace Action

variable {logger : Logging.Logger} {level : Logging.Level} {message : String} {s t : Session ρ σ}

theorem accepting_of_log (h : log logger level message s = (.ok (), t)) : logger.Accepting := by
  cases hr : (logger.record level message none).reserved? with
  | none => exact Logging.Logger.accepting_of_reserved? hr
  | some name =>
    simp only [log, hr] at h
    cases h

theorem log_of_accepting (h : logger.Accepting) (level : Logging.Level) (message : String)
    (s : Session ρ σ) : ∃ t, log logger level message s = (.ok (), t) := by
  simp only [log, h level message]
  exact ⟨_, rfl⟩

end Action

namespace Reader

theorem ofBindings_apply {logger : Option Logging.Logger}
    (hlogger : (Bindings.loggerOr logger).Accepting) (client : Client) (b : Bindings)
    (s : Session ρ σ) :
    (ofBindings client b logger s).1 =
      .ok ⟨client, b, Logging.Logger.tagged component loggerName logger⟩ := by
  have htagged := Logging.Logger.accepting_tagged hlogger component loggerName
  rw [ofBindings, Action.bind_apply]
  simp only [Action.log, htagged _ _]
  rfl

/-- A reader of a configuration has the handles of its build, or fails with its failure. -/
theorem handles_ofConfig {logger : Option Logging.Logger}
    (hlogger : (Bindings.loggerOr logger).Accepting) (node : Node ρ σ) (defaults : Settings)
    (config : ReaderConfig) (client : Option Client) (s : Session ρ σ) :
    (ofConfig node defaults config client logger s).1.map handles =
      (Bindings.ofConfig node config logger s).1 := by
  rw [ofConfig, Action.bind_apply]
  rcases Bindings.ofConfig node config logger s with ⟨e | b, t⟩
  · rfl
  · simp only [ofBindings_apply hlogger]
    rfl

theorem handles_ofSettings {logger : Option Logging.Logger}
    (hlogger : (Bindings.loggerOr logger).Accepting) (node : Node ρ σ) (defaults : Settings)
    (settings : Option Settings) (client : Option Client) (s : Session ρ σ) :
    (ofSettings node defaults settings client logger s).1.map handles =
      (Bindings.ofConfig node (settings.getD defaults).contracts logger s).1 := by
  have hconfig : ofFaults (settings.getD defaults).readerConfig = .ok (settings.getD defaults).contracts := by
    rw [Settings.readerConfig_eq]
    rfl
  simp only [ofSettings, hconfig, Action.bind_apply, Action.ofExcept]
  exact handles_ofConfig hlogger node defaults _ _ s

end Reader

namespace Bindings

/-- A build is all or nothing. Either every step of the configuration is done, and it gives the handles of
the deployed contracts and no others; or it fails as a binding failure, whose cause is what the first
failing step failed with, and nothing was tried after that step. A reader of the configuration, or of
settings with its addresses, has those handles or fails with that failure. -/
theorem ofConfig_all_or_nothing (node : Node ρ σ) (config : ReaderConfig) (logger : Option Logging.Logger)
    (hlogger : (loggerOr logger).Accepting) (s : Session ρ σ) :
    let manager : Handle := ⟨config.delegationManager.text, .delegationManager⟩
    ((∃ w t records asked,
        WiringStep.runAll node manager (WiringStep.ofConfig config) (.start config) s = (.ok w, t) ∧
        ofConfig node config logger s = (.ok w.bindings, t.withRecords records) ∧
        t.calls = s.calls ++ asked ∧ Deployed node config s.node w.bindings asked) ∨
      ∃ before step after w t cause u records,
        WiringStep.ofConfig config = before ++ step :: after ∧
        WiringStep.runAll node manager before (.start config) s = (.ok w, t) ∧
        step.run node manager w t = (.error cause, u) ∧
        ofConfig node config logger s =
          (.error (.binding step.description (some cause)), u.withRecords records)) ∧
      ∀ defaults client,
        (Reader.ofConfig node defaults config client logger s).1.map Reader.handles =
          (ofConfig node config logger s).1 ∧
        ∀ settings : Option Settings, (settings.getD defaults).contracts = config →
          (Reader.ofSettings node defaults settings client logger s).1.map Reader.handles =
            (ofConfig node config logger s).1 := by
  intro manager
  refine ⟨?_, fun defaults client => ?_⟩
  · obtain ⟨records, h⟩ := follows_ofConfig hlogger config s s.records
    rcases hr : WiringStep.runAll node manager (WiringStep.ofConfig config) (.start config) s with
      ⟨⟨step, e⟩ | w, t⟩
    · obtain ⟨before, after, w, u, hsteps, hbefore, hstep⟩ := runAll_eq_error hr
      rw [hr] at h
      exact .inr ⟨before, step, after, w, u, e, t, records, hsteps, hbefore, hstep, h⟩
    · obtain ⟨asked, hasked, hdeployed⟩ := deployed_of_runAll hr
      rw [hr] at h
      obtain ⟨b, rfl, h⟩ := h
      exact .inl ⟨w, t, records, asked, rfl, h, hasked, hdeployed⟩
  · refine ⟨Reader.handles_ofConfig hlogger node defaults config client s, fun settings hsettings => ?_⟩
    rw [← hsettings]
    exact Reader.handles_ofSettings hlogger node defaults settings client s

/-- A node that names one account as the slasher and another as the strategy manager. -/
def namingNode : Node Unit Unit where
  connect _ _ state := (⟨[], .ok ()⟩, state)
  offers _ _ _ := .ok ()
  accepts _ _ := .ok ()
  prepare _ := .ok ()
  answer request _ state :=
    (⟨[], .ok (.bytes (List.replicate 20 (if request.function.name = "slasher" then 1 else 2)))⟩, state)

theorem runAll_namingNode (a : Address) (s : Session Unit Unit) :
    ∃ w t, runAll namingNode ⟨a.text, .delegationManager⟩ managed (.start ⟨a, .zero, .zero⟩) s =
      (.ok w, t) := by
  rw [managed, runAll, run_connect_of_text (a := a) rfl]
  exact ⟨_, _, rfl⟩

/-- With the delegation manager alone deployed there are three handles and two calls. -/
theorem ofConfig_all_or_nothing_managed :
    let config : ReaderConfig := ⟨⟨List.replicate 20 7, rfl⟩, .zero, .zero⟩
    let slasher : Address := ⟨List.replicate 20 1, rfl⟩
    let strategyManager : Address := ⟨List.replicate 20 2, rfl⟩
    let r := ofConfig namingNode config none (Session.start 0.0 ())
    (∀ level message, ((loggerOr none).record level message none).reserved? = none) ∧
      ∃ b, r.1 = .ok b ∧ b.slasher = some ⟨slasher.text, .slasher⟩ ∧
        b.strategyManager = some ⟨strategyManager.text, .strategyManager⟩ ∧
        b.avsDirectory = none ∧ b.rewardsCoordinator = none ∧ r.2.calls = [(), ()] := by
  intro config slasher strategyManager r
  have hlogger : (loggerOr none).Accepting := fun _ _ => rfl
  have hmanaged : WiringStep.ofConfig config = managed := rfl
  refine ⟨hlogger, ?_⟩
  rcases (ofConfig_all_or_nothing namingNode config none hlogger (Session.start 0.0 ())).1 with
    ⟨w, t, records, asked, -, hr, hcalls, hdeployed⟩ |
    ⟨before, step, after, w, t, cause, u, -, hsteps, hbefore, hstep, -⟩
  · obtain ⟨_, _, answer₁, answer₂, a₁, a₂, -, -, h₁, h₂, ha₁, ha₂, -, hslasher, hstrategy, rfl⟩ :=
      hdeployed.managed (by decide)
    cases h₁
    cases h₂
    cases ha₁
    cases ha₂
    exact ⟨w.bindings, congrArg Prod.fst hr, hslasher, hstrategy, hdeployed.avsDirectory,
      hdeployed.rewardsCoordinator, by rw [show r = _ from hr]; exact hcalls⟩
  · obtain ⟨v, r, hdone⟩ := runAll_namingNode config.delegationManager (Session.start 0.0 ())
    rw [← hmanaged, hsteps, runAll_append, hbefore] at hdone
    simp only [runAll, hstep] at hdone
    cases congrArg Prod.fst hdone

end Bindings

end Restaking
