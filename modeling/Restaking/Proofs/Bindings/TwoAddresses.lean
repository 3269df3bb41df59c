import Restaking.Proofs.Config.Wiring

/-!
# The build from two addresses

The older build takes two addresses as the caller gives them and asks the delegation manager nothing. It is
two wishes for handles, one after the other; `Refused` and `Granted` say how a wish ends, and the build is
read off from them. Then it is set against a build from a configuration of the same two addresses. The two may
start in different sessions, and of the node is only taken that it judges a wish by the address.
-/
namespace Restaking

variable {ρ σ : Type}

/-- Whether a handle is granted depends on its address alone. -/
def Node.GrantsByAddress (node : Node ρ σ) : Prop :=
  ∀ address i j state state',
    (node.connect address i state).1.outcome.isOk = (node.connect address j state').1.outcome.isOk

namespace Bindings

variable (node : Node ρ σ)

/-- There is no handle of a contract at what is given, for this cause: it is no address, or the node
refuses. -/
inductive Refused (i : Interface) (given : Value) (s : Session ρ σ) : Failure → Session ρ σ → Prop where
  | address {e : InputError} : Address.ofInput (title i ++ " address") given = .error e →
    Refused i given s (.input e) s
  | handle {a : Address} {e : Failure} {t : Session ρ σ} :
    Address.ofInput (title i ++ " address") given = .ok a → node.handle a.text i s = (.error e, t) →
    Refused i given s e t

/-- There is a handle at the address that is given. -/
def Granted (i : Interface) (given : Value) (s : Session ρ σ) (a : Address) (t : Session ρ σ) : Prop :=
  Address.ofInput (title i ++ " address") given = .ok a ∧ node.handle a.text i s = (.ok ⟨a.text, i⟩, t)

theorem refused_or_granted (i : Interface) (given : Value) (s : Session ρ σ) :
    (∃ e t, Refused node i given s e t) ∨ ∃ a t, Granted node i given s a t := by
  cases ha : Address.ofInput (title i ++ " address") given with
  | error e => exact .inl ⟨_, _, .address ha⟩
  | ok a =>
    rcases hh : node.handle a.text i s with ⟨e | h, t⟩
    · exact .inl ⟨e, t, .handle ha hh⟩
    · obtain rfl := node.handle_eq_ok (congrArg Prod.fst hh)
      exact .inr ⟨a, t, ha, hh⟩

variable {node} {i : Interface} {given : Value} {s t u : Session ρ σ} {a b : Address} {e : Failure}

theorem wire_of_refused (h : Refused node i given s e t) :
    wire node i given s =
      (.error (.binding ("Failed to create " ++ title i ++ " contract") (some e)), t) := by
  rw [wire_apply, WiringStep.attempt_apply]
  cases h with
  | address ha =>
    rw [ha]
    rfl
  | handle ha hh =>
    rw [ha]
    simp only [hh]
    rfl

theorem wire_of_granted (h : Granted node i given s a t) : wire node i given s = (.ok ⟨a.text, i⟩, t) := by
  obtain ⟨ha, hh⟩ := h
  rw [wire_apply, WiringStep.attempt_apply, ha]
  simp only [hh]
  rfl

theorem granted_of_wire {h : Handle} (hw : wire node i given s = (.ok h, t)) :
    ∃ a, Granted node i given s a t ∧ h = ⟨a.text, i⟩ := by
  rcases refused_or_granted node i given s with ⟨e, u, hr⟩ | ⟨a, u, hg⟩
  · rw [wire_of_refused hr] at hw
    cases hw
  · rw [wire_of_granted hg] at hw
    cases hw
    exact ⟨a, hg, rfl⟩

/-! ## What the build gives, and why it fails -/

/-- The handles of the two contracts at these addresses, and no others. -/
def pair (manager directory : Address) : Bindings :=
  { empty with
    delegationManager := some ⟨manager.text, .delegationManager⟩
    avsDirectory := some ⟨directory.text, .avsDirectory⟩ }

/-- Why no two handles are had, how that is reported and where. The delegation manager is tried first. -/
inductive Fails (node : Node ρ σ) (manager directory : Value) (s : Session ρ σ) :
    String → Failure → Session ρ σ → Prop where
  | manager {e : Failure} {t : Session ρ σ} : Refused node .delegationManager manager s e t →
    Fails node manager directory s "Failed to create DelegationManager contract" e t
  | directory {a : Address} {u : Session ρ σ} {e : Failure} {t : Session ρ σ} :
    Granted node .delegationManager manager s a u → Refused node .avsDirectory directory u e t →
    Fails node manager directory s "Failed to create AVSDirectory contract" e t

variable {manager directory : Value} {logger : Option Logging.Logger} {description : String}

theorem fails_or_granted (node : Node ρ σ) (manager directory : Value) (s : Session ρ σ) :
    (∃ description e t, Fails node manager directory s description e t) ∨
      ∃ a u b t, Granted node .delegationManager manager s a u ∧
        Granted node .avsDirectory directory u b t := by
  rcases refused_or_granted node .delegationManager manager s with ⟨e, t, hr⟩ | ⟨a, u, hmanager⟩
  · exact .inl ⟨_, e, t, .manager hr⟩
  · rcases refused_or_granted node .avsDirectory directory u with ⟨e, t, hr⟩ | ⟨b, t, hdirectory⟩
    · exact .inl ⟨_, e, t, .directory hmanager hr⟩
    · exact .inr ⟨a, u, b, t, hmanager, hdirectory⟩

theorem ofTwoAddresses_of_fails (h : Fails node manager directory s description e t) :
    ofTwoAddresses node manager directory logger s = (.error (.binding description (some e)), t) := by
  rw [ofTwoAddresses, Action.bind_apply]
  cases h with
  | manager hr =>
    rw [wire_of_refused hr]
    rfl
  | directory hg hr =>
    rw [wire_of_granted hg]
    simp only [Action.bind_apply, wire_of_refused hr]
    rfl

/-- With both handles granted the build has them, unless the logger refuses the note of it. -/
theorem ofTwoAddresses_of_granted (hmanager : Granted node .delegationManager manager s a u)
    (hdirectory : Granted node .avsDirectory directory u b t) (logger : Option Logging.Logger) :
    ∃ message, ofTwoAddresses node manager directory logger s =
      ((fun _ => pair a b) <$> Action.log (loggerOr logger) .debug message) t := by
  refine ⟨"Built legacy bindings for DelegationManager " ++ manager.plain ++ " and AVSDirectory " ++
    directory.plain, ?_⟩
  rw [ofTwoAddresses, Action.bind_apply, wire_of_granted hmanager]
  simp only [Action.bind_apply, wire_of_granted hdirectory]
  rw [map_eq_pure_bind, Action.bind_apply]
  rfl

theorem ofTwoAddresses_of_accepting (hmanager : Granted node .delegationManager manager s a u)
    (hdirectory : Granted node .avsDirectory directory u b t) (hlogger : (loggerOr logger).Accepting) :
    ∃ w, ofTwoAddresses node manager directory logger s = (.ok (pair a b), w) := by
  obtain ⟨message, h⟩ := ofTwoAddresses_of_granted hmanager hdirectory logger
  obtain ⟨w, hw⟩ := Action.log_of_accepting hlogger .debug message t
  rw [Action.map_apply, hw] at h
  exact ⟨w, h⟩

theorem ofTwoAddresses_eq_ok {made : Bindings}
    (h : ofTwoAddresses node manager directory logger s = (.ok made, t)) :
    (loggerOr logger).Accepting ∧ ∃ a u b w, Granted node .delegationManager manager s a u ∧
      Granted node .avsDirectory directory u b w ∧ made = pair a b := by
  rcases fails_or_granted node manager directory s with
    ⟨description, e, u, hf⟩ | ⟨a, u, b, w, hmanager, hdirectory⟩
  · rw [ofTwoAddresses_of_fails hf] at h
    cases h
  · obtain ⟨message, hm⟩ := ofTwoAddresses_of_granted hmanager hdirectory logger
    rw [hm, map_eq_pure_bind] at h
    obtain ⟨_, _, hlog, h⟩ := Action.bind_apply_eq_ok h
    cases h
    exact ⟨Action.accepting_of_log hlog, a, u, b, w, hmanager, hdirectory, rfl⟩

theorem fails_of_ofTwoAddresses {cause : Option Failure}
    (h : ofTwoAddresses node manager directory logger s = (.error (.binding description cause), t)) :
    ∃ e, cause = some e ∧ Fails node manager directory s description e t := by
  rcases fails_or_granted node manager directory s with
    ⟨description', e, u, hf⟩ | ⟨a, u, b, w, hmanager, hdirectory⟩
  · rw [ofTwoAddresses_of_fails hf] at h
    cases h
    exact ⟨e, rfl, hf⟩
  · obtain ⟨message, hm⟩ := ofTwoAddresses_of_granted hmanager hdirectory logger
    rw [hm, Action.map_apply] at h
    -- Only the logger is left to refuse, and it does not report a failure of wiring.
    cases hr : ((loggerOr logger).record .debug message none).reserved? with
    | none =>
      simp only [Action.log, hr] at h
      cases h
    | some name =>
      simp only [Action.log, hr] at h
      cases h

theorem exists_fails_of_ofInput {label : String} {e : InputError}
    (h : Address.ofInput label manager = .error e ∨ Address.ofInput label directory = .error e) :
    ∃ description e t, Fails node manager directory s description e t := by
  have hdiffer {label' : String} {v : Value} {a : Address} (ha : Address.ofInput label' v = .ok a) :
      Address.ofInput label v ≠ .error e := by
    rw [Address.ofInput_eq_ok_iff.2 (Address.ofInput_eq_ok_iff.1 ha)]
    rintro ⟨⟩
  rcases fails_or_granted node manager directory s with hf | ⟨a, u, b, w, hmanager, hdirectory⟩
  · exact hf
  · rcases h with h | h
    · exact absurd h (hdiffer hmanager.1)
    · exact absurd h (hdiffer hdirectory.1)

/-! ## Against a configuration -/

theorem connect_of_granted (h : Granted node i given s a t) :
    (node.connect a.text i s.node).1.outcome = .ok () := by
  obtain ⟨_, hx, -⟩ := map_eq_ok (congrArg Prod.fst h.2)
  exact hx

theorem granted_of_connect (ha : Address.ofInput (title i ++ " address") given = .ok a)
    (hc : (node.connect a.text i s.node).1.outcome = .ok ()) : ∃ t, Granted node i given s a t := by
  refine ⟨(node.handle a.text i s).2, ha, Prod.ext ?_ rfl⟩
  show (node.connect a.text i s.node).1.outcome.map _ = _
  rw [hc]
  rfl

/-- A contract that was wired anywhere is had at the same address in any session. -/
theorem granted_of_grantsByAddress {label : String} (hnode : node.GrantsByAddress)
    (ha : Address.ofInput label given = .ok a) {j : Interface} {given' : Value} {s' t' : Session ρ σ}
    (h : Granted node j given' s' a t') : ∃ t, Granted node i given s a t := by
  have hsame := hnode a.text i j s.node s'.node
  rw [connect_of_granted h] at hsame
  have hconnect : (node.connect a.text i s.node).1.outcome = .ok () := by
    cases hc : (node.connect a.text i s.node).1.outcome with
    | ok u => rfl
    | error e =>
      rw [hc] at hsame
      cases hsame
  exact granted_of_connect (Address.ofInput_eq_ok_iff.2 (Address.ofInput_eq_ok_iff.1 ha)) hconnect

theorem granted_of_wire_text {h : Handle} (hw : wire node i (.text a.text) s = (.ok h, t)) :
    Granted node i (.text a.text) s a t := by
  obtain ⟨b, hb, -⟩ := granted_of_wire hw
  cases (Address.ofInput_text _ a).symm.trans hb.1
  exact hb

/-- A build from a configuration that deploys both contracts was granted both handles, and its logger took a
record. -/
theorem granted_of_ofConfig {config : ReaderConfig} {made : Bindings}
    (h : ofConfig node config logger s = (.ok made, t)) (hmanager : config.delegationManager ≠ .zero)
    (hdirectory : config.avsDirectory ≠ .zero) :
    (loggerOr logger).Accepting ∧
      (∃ u w, Granted node .delegationManager (.text config.delegationManager.text) u
        config.delegationManager w) ∧
      ∃ u w, Granted node .avsDirectory (.text config.avsDirectory.text) u config.avsDirectory w := by
  obtain ⟨managers, _, hmanagers, h⟩ := Action.bind_apply_eq_ok h
  obtain ⟨found, _, hfound, -⟩ := Action.bind_apply_eq_ok h
  rw [if_neg hmanager] at hmanagers
  -- What the delegation manager names is asked for and wired in between.
  obtain ⟨handle, _, hwire, hmanagers⟩ := Action.bind_apply_eq_ok hmanagers
  obtain ⟨slasherAnswer, _, -, hmanagers⟩ := Action.bind_apply_eq_ok hmanagers
  obtain ⟨strategyAnswer, _, -, hmanagers⟩ := Action.bind_apply_eq_ok hmanagers
  obtain ⟨_, _, hlog, -⟩ := Action.bind_apply_eq_ok hmanagers
  rw [wireDeployed, if_neg hdirectory] at hfound
  obtain ⟨_, _, hdeployed, -⟩ := Action.bind_apply_eq_ok hfound
  exact ⟨Action.accepting_of_log hlog, ⟨_, _, granted_of_wire_text hwire⟩, _, _,
    granted_of_wire_text hdeployed⟩

theorem ofEntries_pair {label : String} (ha : Address.ofInput label manager = .ok a)
    (hb : Address.ofInput label directory = .ok b) :
    ReaderConfig.ofEntries [(ReaderConfig.delegationManagerField, manager),
      (ReaderConfig.avsDirectoryField, directory)] = .ok ⟨a, b, .zero⟩ := by
  have hmanager : deployment manager = .ok a := deployment_eq_ok_iff.2 (denotes_of_ofInput ha)
  have hdirectory : deployment directory = .ok b := deployment_eq_ok_iff.2 (denotes_of_ofInput hb)
  have hrewards : deployment .null = .ok .zero := rfl
  show ReaderConfig.ofValues manager directory .null = _
  rw [ReaderConfig.ofValues, hmanager, hdirectory, hrewards]

theorem ofTwoAddresses_of_ofConfig {label : String} {made : Bindings} {s' : Session ρ σ}
    (hnode : node.GrantsByAddress) (ha : Address.ofInput label manager = .ok a)
    (hb : Address.ofInput label directory = .ok b) (hmanager : a ≠ .zero) (hdirectory : b ≠ .zero)
    (h : ofConfig node ⟨a, b, .zero⟩ logger s' = (.ok made, t)) :
    ∃ w, ofTwoAddresses node manager directory logger s = (.ok (pair a b), w) := by
  obtain ⟨hlogger, ⟨_, _, hfirst⟩, _, _, hsecond⟩ := granted_of_ofConfig h hmanager hdirectory
  obtain ⟨u, hmanager⟩ : ∃ u, Granted node .delegationManager manager s a u :=
    granted_of_grantsByAddress hnode ha hfirst
  obtain ⟨w, hdirectory⟩ : ∃ w, Granted node .avsDirectory directory u b w :=
    granted_of_grantsByAddress hnode hb hsecond
  exact ofTwoAddresses_of_accepting hmanager hdirectory hlogger

end Bindings

/-! ## The reader of such a build -/

/-- The state of the node decides the outcome and the state that follows. -/
def Action.ByNode {α : Type} (a : Action ρ σ α) : Prop :=
  ∀ s t, s.node = t.node → (a s).1 = (a t).1 ∧ (a s).2.node = (a t).2.node

namespace Action

variable {α β : Type}

theorem ByNode.bind {a : Action ρ σ α} {f : α → Action ρ σ β} (ha : a.ByNode) (hf : ∀ x, (f x).ByNode) :
    (a >>= f).ByNode := by
  intro s t hst
  obtain ⟨houtcome, hnode⟩ := ha s t hst
  rw [bind_apply, bind_apply]
  rcases hs : a s with ⟨e | x, s'⟩ <;> rcases ht : a t with ⟨e' | y, t'⟩ <;> rw [hs, ht] at houtcome hnode
  · cases houtcome
    exact ⟨rfl, hnode⟩
  · cases houtcome
  · cases houtcome
  · cases houtcome
    exact hf x s' t' hnode

theorem ByNode.mapFailure {a : Action ρ σ α} (ha : a.ByNode) (g : Failure → Failure) :
    (a.mapFailure g).ByNode := by
  intro s t hst
  obtain ⟨houtcome, hnode⟩ := ha s t hst
  rw [mapFailure_apply, mapFailure_apply, houtcome]
  exact ⟨rfl, hnode⟩

theorem byNode_ofExcept (x : Except Failure α) : (ofExcept x : Action ρ σ α).ByNode :=
  fun _ _ h => ⟨rfl, h⟩

theorem byNode_log (logger : Logging.Logger) (level : Logging.Level) (message : String) :
    (log logger level message : Action ρ σ Unit).ByNode := by
  intro s t hst
  cases hr : (logger.record level message none).reserved? with
  | none => simpa only [log, hr, true_and] using hst
  | some name => simpa only [log, hr, true_and] using hst

end Action

theorem Node.byNode_handle (node : Node ρ σ) (address : String) (interface : Interface) :
    (node.handle address interface).ByNode := by
  intro s t hst
  have houtcome (u : Session ρ σ) : (node.handle address interface u).1 =
      (node.connect address interface u.node).1.outcome.map fun _ => ⟨address, interface⟩ := rfl
  rw [node.node_handle, node.node_handle, houtcome, houtcome, hst]
  exact ⟨rfl, rfl⟩

theorem Bindings.byNode_ofTwoAddresses (node : Node ρ σ) (manager directory : Value)
    (logger : Option Logging.Logger) : (ofTwoAddresses node manager directory logger).ByNode := by
  have hwire (i : Interface) (given : Value) : (wire node i given).ByNode := by
    refine Action.ByNode.mapFailure ?_ _
    exact (Action.byNode_ofExcept _).bind fun a => node.byNode_handle a.text i
  exact (hwire _ _).bind fun _ => (hwire _ _).bind fun _ => (Action.byNode_log _ _ _).bind fun _ =>
    Action.byNode_ofExcept (.ok _)

/-- A reader built from two addresses has the handles of the build, or fails as it does. -/
theorem Reader.handles_ofTwoAddresses (node : Node ρ σ) (defaults : Settings) (manager directory : Value)
    (client : Option Client) (logger : Option Logging.Logger) (s : Session ρ σ) :
    (ofTwoAddresses node defaults manager directory client logger s).1.map handles =
      (Bindings.ofTwoAddresses node manager directory logger s).1 := by
  let warned : Session ρ σ := { s with
    warnings := s.warnings ++
      [⟨"DeprecationWarning", "ChainReader.build is deprecated, use ChainReader.from_config"⟩] }
  -- The caller is told first, which leaves the node as it was.
  rw [(Bindings.byNode_ofTwoAddresses node manager directory logger s warned rfl).1]
  show ((Bindings.ofTwoAddresses node manager directory logger >>= fun b =>
    ofBindings (client.getD (.ofSettings defaults)) b logger) warned).1.map handles = _
  rw [Action.bind_apply]
  rcases hbuild : Bindings.ofTwoAddresses node manager directory logger warned with ⟨e | b, t⟩
  · rfl
  · simp only [ofBindings_apply (Bindings.ofTwoAddresses_eq_ok hbuild).1]
    rfl

/-- The build from two addresses makes no call. It succeeds if both handles are granted, at the zero address
too, where a configuration has none, and then has these two alone. It is refused exactly if one of them is not
granted, with the cause of that, the delegation manager's being wished for first; hence whenever one of the
two is no address. Where a configuration of two accepted addresses, neither of them zero, can be built over a
node that judges wishes by their addresses, this build succeeds as well and has the same two handles. A reader
has the handles of its build. -/
theorem Bindings.ofTwoAddresses_agrees (node : Node ρ σ) (manager directory : Value)
    (logger : Option Logging.Logger) (s : Session ρ σ) :
    let legacy := ofTwoAddresses node manager directory logger s
    legacy.2.calls = s.calls ∧
    (∀ {made t}, legacy = (.ok made, t) → ∃ a u b w, Granted node .delegationManager manager s a u ∧
      Granted node .avsDirectory directory u b w ∧ made = pair a b) ∧
    (∀ {a u b w}, Granted node .delegationManager manager s a u → Granted node .avsDirectory directory u b w →
      (loggerOr logger).Accepting → ∃ t, legacy = (.ok (pair a b), t)) ∧
    (∀ {description cause t}, legacy = (.error (.binding description cause), t) ↔
      ∃ e, cause = some e ∧ Fails node manager directory s description e t) ∧
    (∀ {label e}, Address.ofInput label manager = .error e ∨ Address.ofInput label directory = .error e →
      ∃ description cause, legacy.1 = .error (.binding description (some cause))) ∧
    (∀ {config made s' t}, ofConfig node config logger s' = (.ok made, t) →
      (made.delegationManager = none ↔ config.delegationManager = .zero) ∧
        (made.avsDirectory = none ↔ config.avsDirectory = .zero)) ∧
    (∀ {label a b}, Address.ofInput label manager = .ok a → Address.ofInput label directory = .ok b →
      ReaderConfig.ofEntries [(ReaderConfig.delegationManagerField, manager),
          (ReaderConfig.avsDirectoryField, directory)] = .ok ⟨a, b, .zero⟩ ∧
        (node.GrantsByAddress → a ≠ .zero → b ≠ .zero →
          ∀ {made s' t}, ofConfig node ⟨a, b, .zero⟩ logger s' = (.ok made, t) →
            made.delegationManager = (pair a b).delegationManager ∧
              made.avsDirectory = (pair a b).avsDirectory ∧ ∃ w, legacy = (.ok (pair a b), w))) ∧
    ∀ defaults client, (Reader.ofTwoAddresses node defaults manager directory client logger s).1.map
      Reader.handles = legacy.1 := by
  intro legacy
  refine ⟨?_, ?_, ?_, ?_, ?_, ?_, ?_, ?_⟩
  · exact moves_ofTwoAddresses node (R := fun s t => t.calls = s.calls) (fun _ => rfl)
      (fun _ _ _ hst htu => htu.trans hst) (fun _ _ => rfl)
      (fun a interface s => node.calls_handle a.text interface s) manager directory logger s
  · intro made t h
    exact (ofTwoAddresses_eq_ok h).2
  · intro a u b w hmanager hdirectory hlogger
    exact ofTwoAddresses_of_accepting hmanager hdirectory hlogger
  · intro description cause t
    constructor
    · intro h
      exact fails_of_ofTwoAddresses h
    · rintro ⟨e, rfl, hfails⟩
      exact ofTwoAddresses_of_fails hfails
  · intro label e h
    obtain ⟨description, cause, t, hfails⟩ :
        ∃ description e t, Fails node manager directory s description e t := exists_fails_of_ofInput h
    exact ⟨description, cause, congrArg Prod.fst (ofTwoAddresses_of_fails hfails)⟩
  · intro config made s' t h
    constructor
    · exact get_eq_none_iff h .delegationManager
    · exact get_eq_none_iff h .avsDirectory
  · intro label a b ha hb
    refine ⟨ofEntries_pair ha hb, fun hnode hmanager hdirectory made s' t h => ?_⟩
    have hfirst := get_of_ofConfig h .delegationManager
    have hsecond := get_of_ofConfig h .avsDirectory
    refine ⟨hfirst.trans (if_neg hmanager), hsecond.trans (if_neg hdirectory), ?_⟩
    exact ofTwoAddresses_of_ofConfig hnode ha hb hmanager hdirectory h
  · intro defaults client
    exact Reader.handles_ofTwoAddresses node defaults manager directory client logger s

namespace Bindings

theorem exists_ofConfig_namingNode {a b : Address} (ha : a ≠ .zero) (hb : b ≠ .zero)
    (s : Session Unit Unit) : ∃ made t, ofConfig namingNode ⟨a, b, .zero⟩ none s = (.ok made, t) := by
  have hwire (i : Interface) (c : Address) (u : Session Unit Unit) :
      ∃ t, wire namingNode i (.text c.text) u = (.ok ⟨c.text, i⟩, t) :=
    ⟨_, wire_of_granted ⟨Address.ofInput_text _ c, rfl⟩⟩
  obtain ⟨t, hmanager⟩ := hwire .delegationManager a s
  have hmanagers : ∃ found u, wireManager namingNode (loggerOr none) a s = (.ok found, u) := by
    rw [wireManager, Action.bind_apply, hmanager]
    exact ⟨_, _, rfl⟩
  obtain ⟨found, u, hmanagers⟩ := hmanagers
  obtain ⟨w, hdirectory⟩ := hwire .avsDirectory b u
  rw [ofConfig, Action.bind_apply, if_neg ha, hmanagers]
  simp only [Action.bind_apply, wireDeployed, if_neg hb, hdirectory]
  exact ⟨_, _, rfl⟩

/-- Two spellings that a configuration can be built of; the zero address in place of the second one; and a
number there, for which the first handle is had in vain. -/
theorem ofTwoAddresses_agrees_spelled :
    let manager : Value := .buffer (List.replicate 20 7)
    let directory : Value := .text (String.ofList (['0', 'X'] ++ (List.replicate 20 ['a', 'B']).flatten))
    let a : Address := ⟨List.replicate 20 7, rfl⟩
    let b : Address := ⟨List.replicate 20 171, rfl⟩
    let s := Session.start 0.0 ()
    let legacy (given : Value) := ofTwoAddresses namingNode manager given none s
    namingNode.GrantsByAddress ∧
      (∃ made t, ofConfig namingNode ⟨a, b, .zero⟩ none s = (.ok made, t) ∧
        made.delegationManager = (pair a b).delegationManager ∧
        made.avsDirectory = (pair a b).avsDirectory) ∧
      (legacy directory).1 = .ok (pair a b) ∧
      (legacy (.bytes (List.replicate 20 0))).1 = .ok (pair a .zero) ∧
      (legacy (.int 5)).1 = .error (.binding "Failed to create AVSDirectory contract"
        (some (.input (.notAddress "AVSDirectory address" (.int 5))))) ∧
      (legacy (.int 5)).2.connections = [(a.text, .delegationManager)] := by
  intro manager directory a b s legacy
  have hnode : namingNode.GrantsByAddress := fun _ _ _ _ _ => rfl
  have ha : a ≠ .zero := by decide
  have hb : b ≠ .zero := by decide
  have hlogger : (loggerOr none).Accepting := fun _ _ => rfl
  let t : Session Unit Unit := (namingNode.handle a.text .delegationManager s).2
  have hread : Address.ofInput "address" manager = .ok a ∧ Address.ofInput "address" directory = .ok b :=
    ⟨rfl, rfl⟩
  have hmanager : Granted namingNode .delegationManager manager s a t := ⟨rfl, rfl⟩
  have hzero : Granted namingNode .avsDirectory (.bytes (List.replicate 20 0)) t .zero
      (namingNode.handle Address.zero.text .avsDirectory t).2 := ⟨rfl, rfl⟩
  have hfails : Fails namingNode manager (.int 5) s "Failed to create AVSDirectory contract"
      (.input (.notAddress "AVSDirectory address" (.int 5))) t := .directory hmanager (.address rfl)
  obtain ⟨made, _, hmade⟩ := exists_ofConfig_namingNode ha hb s
  obtain ⟨-, -, -, -, -, -, hconfig, -⟩ := ofTwoAddresses_agrees namingNode manager directory none s
  obtain ⟨hfirst, hsecond, _, hbuilt⟩ := (hconfig hread.1 hread.2).2 hnode ha hb hmade
  obtain ⟨-, -, hsuccess, -⟩ :=
    ofTwoAddresses_agrees namingNode manager (.bytes (List.replicate 20 0)) none s
  obtain ⟨_, hatzero⟩ := hsuccess hmanager hzero hlogger
  obtain ⟨-, -, -, hfailure, -⟩ := ofTwoAddresses_agrees namingNode manager (.int 5) none s
  have hrefused : legacy (.int 5) = _ := hfailure.2 ⟨_, rfl, hfails⟩
  have hbuilt : legacy directory = _ := hbuilt
  have hatzero : legacy (.bytes (List.replicate 20 0)) = _ := hatzero
  refine ⟨hnode, ⟨made, _, hmade, hfirst, hsecond⟩, ?_, ?_, ?_, ?_⟩
  · rw [hbuilt]
  · rw [hatzero]
  · rw [hrefused]
  · rw [hrefused]
    rfl

end Bindings

end Restaking
