import Restaking.Proofs.Config.Wiring
import Restaking.Proofs.Reader.Pipeline

/-!
# Handles at the zero address

A configured address that is zero gives no handle, and the accessors of its contract are refused. Where the
slasher and the strategy manager are, the delegation manager says, and what it says is not looked at in this
way: an answer that spells the zero address gives a handle there. Nodes and loggers are arbitrary.
-/
namespace Restaking

variable {ρ σ : Type}

open Restaking.Text

/-! ## Spellings of the zero address -/

/-- The value spells the zero address: forty zeros behind a mark or none, or twenty bytes. -/
inductive Value.NamesZero : Value → Prop where
  | text {s : String} {mark : List Char} : Hex.IsMark mark → s.toList = mark ++ List.replicate 40 '0' →
    NamesZero (.text s)
  | bytes : NamesZero (.bytes (List.replicate 20 0))
  | buffer : NamesZero (.buffer (List.replicate 20 0))

namespace Address

theorem digits_of_zero_iff {digits : List Char} :
    digits.map Hex.digit? = (nibbles zero.bytes).map some ↔ digits = List.replicate 40 '0' := by
  have hzeros : (nibbles zero.bytes).map some = List.replicate 40 (some 0) := rfl
  rw [hzeros, List.eq_replicate_iff, List.eq_replicate_iff, List.length_map, List.forall_mem_map]
  simp only [Hex.digit?_eq_zero_iff]

theorem ofText?_eq_zero_iff {s : String} : ofText? s.toList = some .zero ↔ (Value.text s).NamesZero := by
  rw [ofText?_eq_some_iff]
  constructor
  · rintro ⟨mark, digits, hs, hmark, hdigits⟩
    rw [digits_of_zero_iff.1 hdigits] at hs
    exact .text hmark hs
  · intro h
    cases h with
    | text hmark hs => exact ⟨_, _, hs, hmark, digits_of_zero_iff.2 rfl⟩

theorem ofValue?_eq_zero_iff {v : Value} : ofValue? v = some .zero ↔ v.NamesZero := by
  cases v with
  | text s => exact ofText?_eq_zero_iff
  | bytes bs | buffer bs =>
    rw [ofValue?, ofBytes?_eq_some_iff]
    constructor
    · rintro rfl
      constructor
    · intro h
      cases h
      rfl
  | _ =>
    constructor
    · intro h
      cases h
    · intro h
      cases h

end Address

/-- The handle stands where no contract is. -/
def Handle.AtZero (h : Handle) : Prop := h.address = Address.zero.text

theorem Handle.atZero_text_iff {a : Address} {i : Interface} :
    (⟨a.text, i⟩ : Handle).AtZero ↔ a = .zero := by
  constructor
  · exact fun h => Address.text_injective h
  · rintro rfl
    rfl

/-! ## What a build is made of -/

namespace Bindings

variable {node : Node ρ σ} {config : ReaderConfig} {logger : Option Logging.Logger} {b : Bindings}
  {s t : Session ρ σ} {manager : Handle} {state : σ}

/-- Every build that succeeds has logged something, so its logger refuses nothing. -/
theorem accepting_of_ofConfig (h : ofConfig node config logger s = (.ok b, t)) :
    (loggerOr logger).Accepting := by
  obtain ⟨managers, _, hmanagers, -⟩ := Action.bind_apply_eq_ok h
  split at hmanagers
  · obtain ⟨_, _, hskipped, -⟩ := Action.bind_apply_eq_ok hmanagers
    exact Action.accepting_of_log hskipped
  · obtain ⟨_, _, -, hwired⟩ := Action.bind_apply_eq_ok hmanagers
    obtain ⟨_, _, -, hasked⟩ := Action.bind_apply_eq_ok hwired
    obtain ⟨_, _, -, hanswered⟩ := Action.bind_apply_eq_ok hasked
    obtain ⟨_, _, hresolved, -⟩ := Action.bind_apply_eq_ok hanswered
    exact Action.accepting_of_log hresolved

/-- A build that succeeds has what its configuration asks for. -/
theorem deployed_of_ofConfig (h : ofConfig node config logger s = (.ok b, t)) :
    ∃ asked, Deployed node config s.node b asked := by
  -- The build follows its steps but for the records; of the steps it is known what a run of them has made.
  have hlogger := accepting_of_ofConfig h
  have hsteps : WiringStep.Follows node _ (ofConfig node config logger) _ _ _ :=
    WiringStep.follows_ofConfig hlogger config
  obtain ⟨records, hfollows⟩ := hsteps s s.records
  have hsame : s.withRecords s.records = s := rfl
  rw [hsame, h] at hfollows
  rcases hr : WiringStep.runAll node _ (WiringStep.ofConfig config) (.start config) s with ⟨⟨_, e⟩ | w, u⟩
  · rw [hr] at hfollows
    cases congrArg Prod.fst hfollows
  · rw [hr] at hfollows
    obtain ⟨made, rfl, hmade⟩ := hfollows
    cases congrArg Prod.fst hmade
    obtain ⟨asked, -, hdeployed⟩ := WiringStep.deployed_of_runAll hr
    exact ⟨asked, hdeployed⟩

/-- What the delegation manager answers from `state` on, when it is asked where the slasher is and then where
the strategy manager is. -/
def Names (node : Node ρ σ) (manager : Handle) (state : σ) (slasher strategyManager : Value) : Prop :=
  let ask (f : Abi.Function) : Request := ⟨manager, f, [], none⟩
  let connected := (node.connect manager.address manager.interface state).2
  ∃ wire₁ wire₂, node.prepare (ask Contract.slasher) = .ok wire₁ ∧
    node.prepare (ask Contract.strategyManager) = .ok wire₂ ∧
    (node.answer (ask Contract.slasher) wire₁ connected).1.outcome = .ok slasher ∧
    (node.answer (ask Contract.strategyManager) wire₂
      (node.answer (ask Contract.slasher) wire₁ connected).2).1.outcome = .ok strategyManager

theorem Names.unique {v w v' w' : Value} (h : Names node manager state v w)
    (h' : Names node manager state v' w') : v = v' ∧ w = w' := by
  obtain ⟨wire₁, wire₂, hwire₁, hwire₂, hv, hw⟩ := h
  obtain ⟨wire₁', wire₂', hwire₁', hwire₂', hv', hw'⟩ := h'
  cases hwire₁.symm.trans hwire₁'
  cases hwire₂.symm.trans hwire₂'
  exact ⟨Except.ok.inj (hv.symm.trans hv'), Except.ok.inj (hw.symm.trans hw')⟩

/-- With the delegation manager there are the two contracts that it names. Either stands at the zero address
exactly if the answer spells it. -/
theorem named_of_managed {asked : List ρ} (h : Managed node manager state b asked) :
    ∃ v w, Names node manager state v w ∧ ∃ slasher strategyManager, b.slasher = some slasher ∧
      b.strategyManager = some strategyManager ∧ (slasher.AtZero ↔ v.NamesZero) ∧
      (strategyManager.AtZero ↔ w.NamesZero) := by
  obtain ⟨wire₁, wire₂, v, w, a, a', hwire₁, hwire₂, hv, hw, ha, ha', -, hslasher, hstrategy, -⟩ := h
  have hat {given : Value} {label : String} {c : Address} {i : Interface}
      (hc : Address.ofInput label given = .ok c) : (⟨c.text, i⟩ : Handle).AtZero ↔ given.NamesZero := by
    rw [Handle.atZero_text_iff, ← Address.ofValue?_eq_zero_iff, Address.ofInput_eq_ok_iff.1 hc,
      Option.some.injEq]
  exact ⟨v, w, ⟨wire₁, wire₂, hwire₁, hwire₂, hv, hw⟩, _, _, hslasher, hstrategy, hat ha, hat ha'⟩

/-- A configured contract is not wired at the zero address. -/
theorem not_atZero_of_configured (h : ofConfig node config logger s = (.ok b, t)) (k : Configured) :
    ∀ x ∈ b.get k.interface, ¬ x.AtZero := by
  rw [get_of_ofConfig h k]
  split
  · exact nofun
  · rename_i hne
    rintro x ⟨⟩
    rwa [Handle.atZero_text_iff]

/-- What holds of every handle holds of those of the configured contracts and of the two that are named. -/
theorem forall_get_iff {P : Handle → Prop} : (∀ i, ∀ x ∈ b.get i, P x) ↔
    (∀ k : Configured, ∀ x ∈ b.get k.interface, P x) ∧ (∀ x ∈ b.slasher, P x) ∧
      ∀ x ∈ b.strategyManager, P x := by
  constructor
  · intro h
    exact ⟨fun k => h k.interface, h .slasher, h .strategyManager⟩
  · rintro ⟨hconfigured, hslasher, hstrategy⟩ i
    cases i with
    | slasher => exact hslasher
    | strategyManager => exact hstrategy
    | delegationManager => exact hconfigured .delegationManager
    | avsDirectory => exact hconfigured .avsDirectory
    | rewardsCoordinator => exact hconfigured .rewardsCoordinator
    | strategy => exact nofun
    | token => exact nofun

theorem none_at_zero_iff (h : ofConfig node config logger s = (.ok b, t)) :
    (∀ i, ∀ x ∈ b.get i, ¬ x.AtZero) ↔ config.delegationManager = .zero ∨
      ∃ v w, Names node ⟨config.delegationManager.text, .delegationManager⟩ s.node v w ∧
        ¬ v.NamesZero ∧ ¬ w.NamesZero := by
  rw [forall_get_iff, and_iff_right (not_atZero_of_configured h)]
  obtain ⟨asked, hdeployed⟩ := deployed_of_ofConfig h
  by_cases hzero : config.delegationManager = .zero
  · obtain ⟨-, hslasher, hstrategy, -⟩ := hdeployed.unmanaged hzero
    rw [hslasher, hstrategy]
    exact iff_of_true ⟨nofun, nofun⟩ (.inl hzero)
  · obtain ⟨v, w, hnames, slasher, strategyManager, hslasher, hstrategy, hv, hw⟩ :=
      named_of_managed (hdeployed.managed hzero)
    simp only [hslasher, hstrategy, Option.mem_some_iff, forall_eq', hv, hw, or_iff_right hzero]
    constructor
    · exact fun hnot => ⟨v, w, hnames, hnot⟩
    · rintro ⟨v', w', hnames', hnot⟩
      obtain ⟨rfl, rfl⟩ := hnames.unique hnames'
      exact hnot

/-- A build never wires a configured contract at the zero address: a contract whose configured address is zero
is left out. The slasher and the strategy manager are left out with the delegation manager, and otherwise they
are wired at whatever it answers, so that either has a handle at the zero address exactly if the answer spells
it; hence no handle stands there exactly if nothing is asked or neither answer does. Readers of the
configuration have these handles, and a contract that is left out refuses its accessors. -/
theorem at_zero_iff_named (h : ofConfig node config logger s = (.ok b, t)) :
    let manager : Handle := ⟨config.delegationManager.text, .delegationManager⟩
    (∀ k : Configured, (b.get k.interface = none ↔ k.address config = .zero) ∧
      ∀ x ∈ b.get k.interface, ¬ x.AtZero) ∧
    (config.delegationManager = .zero → b.slasher = none ∧ b.strategyManager = none) ∧
    (config.delegationManager ≠ .zero → ∃ v w, Names node manager s.node v w ∧ ∃ slasher strategyManager,
      b.slasher = some slasher ∧ b.strategyManager = some strategyManager ∧
      (slasher.AtZero ↔ v.NamesZero) ∧ (strategyManager.AtZero ↔ w.NamesZero)) ∧
    ((∀ i, ∀ x ∈ b.get i, ¬ x.AtZero) ↔ config.delegationManager = .zero ∨
      ∃ v w, Names node manager s.node v w ∧ ¬ v.NamesZero ∧ ¬ w.NamesZero) ∧
    (∀ {defaults client reader u}, Reader.ofConfig node defaults config client logger s = (.ok reader, u) →
      reader.handles = b) ∧
    ∀ (reader : Reader), reader.handles = b → ∀ {q p}, Query.plan? q = some p → b.get p.contract = none →
      ∀ context (u : Session ρ σ), q.run node reader context u =
        (.error (.contractNotProvided (Reader.contractName p.contract)), u) := by
  intro manager
  obtain ⟨asked, hdeployed⟩ := deployed_of_ofConfig h
  refine ⟨fun k => ⟨get_eq_none_iff h k, not_atZero_of_configured h k⟩, fun hzero => ?_, fun hne => ?_,
    none_at_zero_iff h, fun hreader => ?_, ?_⟩
  · obtain ⟨-, hslasher, hstrategy, -⟩ := hdeployed.unmanaged hzero
    exact ⟨hslasher, hstrategy⟩
  · exact named_of_managed (hdeployed.managed hne)
  · obtain ⟨handles, _, hbuilt, hready⟩ := Action.bind_apply_eq_ok hreader
    cases congrArg Prod.fst (h.symm.trans hbuilt)
    obtain ⟨_, _, -, hmade⟩ := Action.bind_apply_eq_ok hready
    cases congrArg Prod.fst hmade
    rfl
  · rintro reader rfl q p hp hnone context u
    rw [Query.run_eq_plan hp]
    exact Plan.run_of_missing hnone context

/-- A node that names two contracts and otherwise answers true. Its calls are what they were asked for. -/
def answeringNode (slasher strategyManager : Value) : Node Request Unit where
  connect _ _ state := (⟨[], .ok ()⟩, state)
  offers _ _ _ := .ok ()
  accepts _ _ := .ok ()
  prepare := .ok
  answer request _ state :=
    (⟨[], .ok (if request.function.name = "slasher" then slasher
      else if request.function.name = "strategyManager" then strategyManager else .bool true)⟩, state)

/-- The handles of a build that has the delegation manager alone, from a node that names two addresses. -/
theorem ofConfig_answeringNode {v w : Value} {a c d : Address} (ha : a ≠ .zero)
    (hc : Address.ofValue? v = some c) (hd : Address.ofValue? w = some d) (s : Session Request Unit) :
    ∃ t, ofConfig (answeringNode v w) ⟨a, .zero, .zero⟩ none s =
      (.ok { empty with
        slasher := some ⟨c.text, .slasher⟩, delegationManager := some ⟨a.text, .delegationManager⟩,
        strategyManager := some ⟨d.text, .strategyManager⟩ }, t) := by
  have hwire (i : Interface) {given : Value} {x : Address} (hx : Address.ofValue? given = some x)
      (u : Session Request Unit) : ∃ t, wire (answeringNode v w) i given u = (.ok ⟨x.text, i⟩, t) := by
    rw [wire_apply, WiringStep.attempt_apply, Address.ofInput_eq_ok_iff.2 hx]
    exact ⟨_, rfl⟩
  have hlog (level : Logging.Level) (message : String) (u : Session Request Unit) :
      ∃ t, Action.log (loggerOr none) level message u = (.ok (), t) := ⟨_, rfl⟩
  have ha' : Address.ofValue? (.text a.text) = some a := Address.ofText?_text a
  obtain ⟨s₁, hmanager⟩ := hwire .delegationManager ha' s
  have hslasherAnswer (u : Session Request Unit) :
      ∃ t, resolve (answeringNode v w) ⟨a.text, .delegationManager⟩ .slasher Contract.slasher u =
        (.ok v, t) := ⟨_, rfl⟩
  have hstrategyAnswer (u : Session Request Unit) :
      ∃ t, resolve (answeringNode v w) ⟨a.text, .delegationManager⟩ .strategyManager
        Contract.strategyManager u = (.ok w, t) := ⟨_, rfl⟩
  obtain ⟨s₂, hslasherAnswer⟩ := hslasherAnswer s₁
  obtain ⟨s₃, hstrategyAnswer⟩ := hstrategyAnswer s₂
  obtain ⟨s₄, hresolved⟩ := hlog .debug ("Resolved Slasher " ++ v.plain ++ " and StrategyManager " ++
    w.plain ++ " from DelegationManager " ++ a.text) s₃
  obtain ⟨s₅, hslasher⟩ := hwire .slasher hc s₄
  obtain ⟨s₆, hstrategy⟩ := hwire .strategyManager hd s₅
  simp only [ofConfig, if_neg ha, wireManager, wireDeployed, if_pos, Action.bind_apply, hmanager,
    hslasherAnswer, hstrategyAnswer, hresolved, hslasher, hstrategy]
  exact ⟨_, rfl⟩

/-- Contracts that are named elsewhere have handles elsewhere, and one that is not configured refuses. A text
of zeros gives a handle at the zero address. -/
theorem at_zero_iff_named_mixed :
    let config : ReaderConfig := ⟨⟨List.replicate 20 7, rfl⟩, .zero, .zero⟩
    let one : Value := .bytes (List.replicate 20 1)
    let two : Value := .buffer (List.replicate 20 2)
    let zeros : Value := .text (String.ofList ('0' :: 'X' :: List.replicate 40 '0'))
    let s : Session Request Unit := .start 0.0 ()
    (∃ b t, ofConfig (answeringNode one two) config none s = (.ok b, t) ∧
      (∀ i, ∀ x ∈ b.get i, ¬ x.AtZero) ∧
      Query.distributionRootsLength.run (answeringNode one two) ⟨.given, b, .named "reads"⟩ none s =
        (.error (.contractNotProvided "RewardsCoordinator"), s)) ∧
    ∃ b t, ofConfig (answeringNode zeros two) config none s = (.ok b, t) ∧ ∃ x ∈ b.slasher, x.AtZero := by
  intro config one two zeros s
  have hne : config.delegationManager ≠ .zero := by decide
  constructor
  · obtain ⟨t, hbuilt⟩ := ofConfig_answeringNode (v := one) (w := two) (c := ⟨List.replicate 20 1, rfl⟩)
      (d := ⟨List.replicate 20 2, rfl⟩) hne rfl rfl s
    obtain ⟨hconfigured, -, -, hnone, -, hrefused⟩ := at_zero_iff_named hbuilt
    have hone : ¬ one.NamesZero := by
      rw [← Address.ofValue?_eq_zero_iff]
      decide
    have htwo : ¬ two.NamesZero := by
      rw [← Address.ofValue?_eq_zero_iff]
      decide
    have hplan : Query.plan? .distributionRootsLength =
        some ⟨.rewardsCoordinator, Contract.distributionRootsLength, [], Plan.asGiven, false⟩ := rfl
    refine ⟨_, t, hbuilt, hnone.2 (.inr ⟨one, two, ⟨_, _, rfl, rfl, rfl, rfl⟩, hone, htwo⟩), ?_⟩
    exact hrefused _ rfl hplan ((hconfigured .rewardsCoordinator).1.2 rfl) none s
  · have hzeros : zeros.NamesZero := .text (.inr (.inr rfl)) (String.toList_ofList ..)
    obtain ⟨t, hbuilt⟩ := ofConfig_answeringNode (v := zeros) (w := two) (c := .zero)
      (d := ⟨List.replicate 20 2, rfl⟩) hne (Address.ofValue?_eq_zero_iff.2 hzeros) rfl s
    obtain ⟨-, -, hnamed, -⟩ := at_zero_iff_named hbuilt
    obtain ⟨v, w, hnames, x, -, hx, -, hatzero, -⟩ := hnamed hne
    have hanswers : Names (answeringNode zeros two) ⟨config.delegationManager.text, .delegationManager⟩ s.node
        zeros two := ⟨_, _, rfl, rfl, rfl, rfl⟩
    obtain ⟨rfl, -⟩ := hnames.unique hanswers
    exact ⟨_, t, hbuilt, x, hx, hatzero.2 hzeros⟩

/-- A manager without a slasher says so by the zero address. The slasher then has a handle there, and whether
an operator is frozen is asked at the zero address. -/
theorem zero_slasher_is_called :
    let config : ReaderConfig := ⟨⟨List.replicate 20 7, rfl⟩, .zero, .zero⟩
    let node := answeringNode (.bytes (List.replicate 20 0)) (.bytes (List.replicate 20 2))
    let operator : Address := ⟨List.replicate 20 3, rfl⟩
    let s : Session Request Unit := .start 0.0 ()
    ∃ b t, ofConfig node config none s = (.ok b, t) ∧
      b.slasher = some ⟨Address.zero.text, .slasher⟩ ∧
      let reader : Reader := ⟨.given, b, .named "reads"⟩
      let result := (Query.operatorIsFrozen (.bytes operator.bytes)).run node reader none s
      result.1 = .ok (.value (.bool true)) ∧
        result.2.calls = [⟨⟨Address.zero.text, .slasher⟩, Contract.isFrozen, [.address operator],
          some (.text "latest")⟩] := by
  intro config node operator s
  have hne : config.delegationManager ≠ .zero := by decide
  obtain ⟨t, hbuilt⟩ := ofConfig_answeringNode (v := .bytes (List.replicate 20 0))
    (w := .bytes (List.replicate 20 2)) (c := .zero) (d := ⟨List.replicate 20 2, rfl⟩) hne rfl rfl s
  exact ⟨_, t, hbuilt, rfl, rfl, rfl⟩

end Bindings

end Restaking
