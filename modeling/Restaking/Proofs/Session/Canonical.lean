import Restaking.Node.Direct
import Restaking.Proofs.Bindings.Movement
import Restaking.Proofs.Context.Run
import Restaking.Proofs.Node.Wire

/-!
# Canonical data

What a run leaves behind at a node that records calls as they are made: every handle was asked for at a
checksummed address, and the arguments of every call are in the one form of their declared types. Of handles,
answers and failures of the node nothing is taken. A claim that the caller laid out goes out as it is, and of
a claim's leaves either kind may stand in the place of the other, each in its own form.
-/
namespace Restaking

variable {ρ σ : Type}

/-- Reading the text as an address and writing it again gives the same text. -/
def Checksummed (s : String) : Prop :=
  ∀ label, (Address.ofInput label (.text s)).map Address.text = .ok s

theorem Address.checksummed_text (a : Address) : Checksummed a.text := by
  intro label
  rw [Address.ofInput_text]
  rfl

/-! ## Arguments -/

/-- The forms of a claim's leaves. -/
inductive CanonicalLeaf : Value → Prop where
  | earner {s : String} {root : List UInt8} : Checksummed s → root.length = 32 →
    CanonicalLeaf (.tuple [.text s, .bytes root])
  | token {s : String} (earnings : Int) : Checksummed s → CanonicalLeaf (.tuple [.text s, .int earnings])

/-- The form of an argument for a declared type. -/
inductive CanonicalValue : Abi.AbiType → Value → Prop where
  | address {s : String} (contract : Option String) : Checksummed s →
    CanonicalValue (.address contract) (.text s)
  | word {bs : List UInt8} : bs.length = 32 → CanonicalValue .word (.bytes bs)
  | integer (bits : Nat) (n : Int) : CanonicalValue (.uint bits) (.int n)
  | claim (rootIndex earnerIndex : Int) (proof : List UInt8) {leaf : Value} (indices : List Int)
      (proofs : List (List UInt8)) {leaves : List Value} : CanonicalLeaf leaf →
    (∀ l ∈ leaves, CanonicalLeaf l) →
    CanonicalValue Contract.claimType (.tuple [.int rootIndex, .int earnerIndex, .bytes proof, leaf,
      .list (indices.map .int), .list (proofs.map .bytes), .list leaves])

theorem LeafForm.canonicalLeaf (l : LeafForm) : CanonicalLeaf l.toValue := by
  cases l with
  | earner account root => exact .earner account.checksummed_text root.length_eq
  | token account amount => exact .token amount account.checksummed_text

namespace Argument

theorem canonicalValue_of_suits {a : Argument} {t : Abi.AbiType} (h : a.Suits t) :
    CanonicalValue t a.toValue := by
  cases h with
  | address a contract => exact .address contract a.checksummed_text
  | word w => exact .word w.length_eq
  | integer n => exact .integer 256 n
  | claim c =>
    refine .claim c.rootIndex c.earnerIndex c.earnerTreeProof c.tokenIndices c.tokenTreeProofs
      c.earnerLeaf.canonicalLeaf fun l hl => ?_
    obtain ⟨leaf, -, rfl⟩ := List.mem_map.1 hl
    exact leaf.canonicalLeaf

/-- An argument is in the form of its type, or it is a claim that the caller laid out. -/
def Canonical (t : Abi.AbiType) (a : Argument) : Prop :=
  CanonicalValue t a.toValue ∨ t = Contract.claimType ∧ ∃ v, a = .raw v ∧ ∀ c, v ≠ .claim c

end Argument

/-! ## Calls and answers -/

/-- A call of some contract's function, with arguments for its declared inputs. -/
def Direct.Call.Canonical (call : Call) : Prop :=
  ∃ (i : Interface) (f : Abi.Function), f ∈ i.functions ∧ f.name = call.function ∧
    List.Forall₂ (fun input a => Argument.Canonical input.2 a) f.inputs call.arguments

/-- What goes out is recorded as it was asked for. Nothing else is taken of the node. -/
def Direct.Recording (node : Node Direct.Call σ) : Prop :=
  ∀ request call, node.prepare request = .ok call →
    call = ⟨request.target.address, request.function.name, request.arguments, request.block⟩

/-- The addresses that an answer gives are checksummed: an approver, a token, and those of the handles. -/
def Answer.Canonical : Answer → Prop
  | operator o => ∃ s, o.delegationApprover = .text s ∧ Checksummed s
  | strategyAndToken h token => Checksummed h.address ∧ Checksummed token.text
  | strategyAndTokenHandle h t token =>
    Checksummed h.address ∧ Checksummed t.address ∧ Checksummed token.text
  | _ => True

structure Session.Canonical (s : Session Direct.Call σ) : Prop where
  connections : ∀ e ∈ s.connections, Checksummed e.1
  calls : ∀ call ∈ s.calls, call.Canonical

theorem Parameter.normalize_raw {v : Value} (h : ∀ c, v ≠ .claim c) :
    (Parameter.claim v).normalize = .ok (.raw v) := by
  cases v with
  | claim c => exact absurd rfl (h c)
  | _ => rfl

namespace Query

variable {q : Query} {reader : Reader} {h : Handle} {f : Abi.Function} {arguments : List Argument}

theorem Asks.mem_functions (ha : q.Asks reader h f arguments) : ∃ i : Interface, f ∈ i.functions := by
  rcases ha with ⟨p, hp, -, rfl, -⟩ | ⟨v, a, -, -, -, rfl, -⟩
  · refine ⟨p.contract, ?_⟩
    cases q <;> cases hp <;> simp [Interface.functions]
  · exact ⟨.strategy, by simp [Interface.functions]⟩

/-- The question of a query has canonical arguments, whatever its caller gave. -/
theorem Asks.canonical (ha : q.Asks reader h f arguments) :
    List.Forall₂ (fun input a => Argument.Canonical input.2 a) f.inputs arguments := by
  by_cases hq : q.Typed
  · exact (ha.suitAll hq).imp fun _ _ hsuits => .inl (Argument.canonicalValue_of_suits hsuits)
  · -- Among the queries only a claim that the caller laid out is untyped.
    cases q
    case checkClaim v =>
      have hraw : ∀ c, v ≠ .claim c := fun c hc => hq ⟨c, hc⟩
      rcases ha with ⟨p, hp, -, rfl, ha⟩ | ⟨v, a, hv, -⟩
      · cases hp
        have harguments := mapM_eq_ok_iff.1 ha
        rw [List.map_cons, List.map_nil, Parameter.normalize_raw hraw] at harguments
        cases arguments with
        | nil => cases harguments
        | cons a rest =>
          obtain ⟨ha, hrest⟩ := List.cons.inj harguments
          cases ha
          rw [eq_comm, List.map_eq_nil_iff] at hrest
          rw [hrest]
          exact .cons (.inr ⟨rfl, v, rfl, hraw⟩) .nil
      · cases hv
    all_goals exact absurd trivial hq

variable {node : Node ρ σ} {context : Option String}

theorem canonical_of_shape {p : Plan} (hp : q.plan? = some p) {v : Value} {a : Answer}
    (ha : p.shape v = .ok a) : a.Canonical := by
  cases q
  case operatorDetails operator =>
    cases hp
    obtain ⟨o, ho, rfl⟩ := map_eq_ok ha
    obtain ⟨approver, -, ho⟩ := bind_eq_ok ho
    obtain ⟨window, -, ho⟩ := bind_eq_ok ho
    obtain ⟨b, -, ho⟩ := bind_eq_ok ho
    cases ho
    exact ⟨b.text, rfl, b.checksummed_text⟩
  case currentClaimableRoot =>
    cases hp
    obtain ⟨root, -, rfl⟩ := map_eq_ok ha
    trivial
  case delegationApprovalDigest =>
    cases hp
    obtain ⟨digest, -, rfl⟩ := map_eq_ok ha
    trivial
  case avsRegistrationDigest =>
    cases hp
    obtain ⟨digest, -, rfl⟩ := map_eq_ok ha
    trivial
  case strategyAndToken => cases hp
  case strategyAndTokenHandle => cases hp
  all_goals
    cases hp
    cases ha
    trivial

/-- An answer is canonical, in whatever form the node gave the address. -/
theorem canonical_of_run {s : Session ρ σ} {a : Answer} (ha : (q.run node reader context s).1 = .ok a) :
    a.Canonical := by
  rcases q.plan_or_strategy with ⟨p, hp⟩ | ⟨v, hv⟩
  · rw [run_eq_plan hp] at ha
    rcases p.run_cases node reader context s with ⟨e, hr⟩ | ⟨h, arguments, -, -, hr⟩
    · rw [hr] at ha
      cases ha
    · rw [hr] at ha
      obtain ⟨x, t, -, hshape⟩ := Action.bind_apply_eq_ok (Prod.ext ha rfl)
      exact canonical_of_shape hp (congrArg Prod.fst hshape)
  · rw [run_eq_lookup hv] at ha
    obtain ⟨h, t, hmade, ha⟩ := Action.bind_apply_eq_ok (Prod.ext ha rfl)
    obtain ⟨token, u, -, ha⟩ := Action.bind_apply_eq_ok ha
    obtain ⟨b, -, rfl⟩ := Reader.strategyHandle_eq_ok node (congrArg Prod.fst hmade)
    have hfirst := congrArg Prod.fst ha
    cases q
    case strategyAndToken =>
      cases hfirst
      exact ⟨b.checksummed_text, token.checksummed_text⟩
    case strategyAndTokenHandle =>
      rw [finish, Action.map_apply, Action.mapFailure_apply] at hfirst
      obtain ⟨c, hc, rfl⟩ := map_eq_ok hfirst
      cases node.handle_eq_ok (mapError_eq_ok hc)
      exact ⟨b.checksummed_text, token.checksummed_text, token.checksummed_text⟩
    all_goals cases hv

end Query

/-! ## What runs keep -/

namespace Session

variable {s t : Session Direct.Call σ}

theorem canonical_start (clock : Float) (state : σ) :
    (start clock state : Session Direct.Call σ).Canonical where
  connections := by rintro e ⟨⟩
  calls := by rintro call ⟨⟩

theorem Canonical.calls_append (hs : s.Canonical) {call : Direct.Call} (hcall : call.Canonical)
    (hcalls : t.calls = s.calls ++ [call]) : ∀ c ∈ t.calls, c.Canonical := by
  intro c hc
  rw [hcalls, List.mem_append, List.mem_singleton] at hc
  rcases hc with hc | rfl
  · exact hs.calls c hc
  · exact hcall

/-- What was neither called nor asked for does not matter. -/
theorem Canonical.congr (hs : s.Canonical) (hconnections : t.connections = s.connections)
    (hcalls : t.calls = s.calls) : t.Canonical where
  connections := by rw [hconnections]; exact hs.connections
  calls := by rw [hcalls]; exact hs.calls

end Session

namespace Node

variable {node : Node Direct.Call σ}

theorem moves_handle_checksummed (node : Node ρ σ) (a : Address) (interface : Interface) :
    (node.handle a.text interface).Moves fun s t =>
      (∀ e ∈ s.connections, Checksummed e.1) → ∀ e ∈ t.connections, Checksummed e.1 := by
  intro s hs e he
  rw [connections_handle, List.mem_append, List.mem_singleton] at he
  rcases he with he | rfl
  · exact hs e he
  · exact a.checksummed_text

theorem moves_handle_canonical (node : Node Direct.Call σ) (a : Address) (interface : Interface) :
    (node.handle a.text interface).Moves fun s t => s.Canonical → t.Canonical := by
  intro s hs
  refine ⟨node.moves_handle_checksummed a interface s hs.connections, ?_⟩
  rw [calls_handle]
  exact hs.calls

theorem canonical_of_prepare (hnode : Direct.Recording node) {request : Request} {call : Direct.Call}
    (hcall : node.prepare request = .ok call) {i : Interface} (hi : request.function ∈ i.functions)
    (harguments : List.Forall₂ (fun input a => Argument.Canonical input.2 a) request.function.inputs
      request.arguments) : call.Canonical := by
  obtain rfl := hnode request call hcall
  exact ⟨i, request.function, hi, rfl, harguments⟩

/-- The delegation manager is asked for another contract without arguments. -/
theorem moves_question_canonical (hnode : Direct.Recording node) (manager : Handle) (f : Abi.Function)
    (hf : f = Contract.slasher ∨ f = Contract.strategyManager) :
    (node.call ⟨manager, f, [], none⟩).Moves fun s t => s.Canonical → t.Canonical := by
  intro s hs
  have hi : f ∈ Interface.delegationManager.functions := by
    rcases hf with rfl | rfl <;> simp [Interface.functions]
  have hinputs : f.inputs = [] := by rcases hf with rfl | rfl <;> rfl
  refine ⟨by rw [connections_call]; exact hs.connections, ?_⟩
  rcases node.calls_call ⟨manager, f, [], none⟩ s with hc | ⟨wire, hwire, hc⟩
  · rw [hc]
    exact hs.calls
  · refine hs.calls_append (canonical_of_prepare hnode hwire hi ?_) hc
    rw [hinputs]
    exact .nil

end Node

/-- How handles come to be. -/
inductive Construction where
  | ofConfig (config : ReaderConfig) (logger : Option Logging.Logger)
  | ofTwoAddresses (delegationManager avsDirectory : Value) (logger : Option Logging.Logger)

def Construction.run (node : Node ρ σ) : Construction → Action ρ σ Bindings
  | ofConfig config logger => Bindings.ofConfig node config logger
  | ofTwoAddresses delegationManager avsDirectory logger =>
    Bindings.ofTwoAddresses node delegationManager avsDirectory logger

variable {node : Node Direct.Call σ}

theorem Construction.moves_run_canonical (hnode : Direct.Recording node) (c : Construction) :
    (c.run node).Moves fun s t => s.Canonical → t.Canonical := by
  have hrefl (s : Session Direct.Call σ) (hs : s.Canonical) : s.Canonical := hs
  have htrans (s t u : Session Direct.Call σ) (hst : s.Canonical → t.Canonical)
      (htu : t.Canonical → u.Canonical) (hs : s.Canonical) : u.Canonical := htu (hst hs)
  have hrecords (s : Session Direct.Call σ) (records : List Logging.Record) (hs : s.Canonical) :
      (s.withRecords records).Canonical := hs.congr rfl rfl
  cases c with
  | ofConfig config logger =>
    exact Bindings.moves_ofConfig node hrefl htrans hrecords
      (fun a interface _ => node.moves_handle_canonical a interface)
      (fun manager f => Node.moves_question_canonical hnode manager f) logger
  | ofTwoAddresses delegationManager avsDirectory logger =>
    exact Bindings.moves_ofTwoAddresses node hrefl htrans hrecords node.moves_handle_canonical _ _ logger

namespace Query

theorem checksummed_connections (node : Node ρ σ) (reader : Reader) (context : Option String) (q : Query) :
    (q.run node reader context).Moves fun s t =>
      (∀ e ∈ s.connections, Checksummed e.1) → ∀ e ∈ t.connections, Checksummed e.1 := by
  refine moves_run ?_ ?_ node node.moves_handle_checksummed (fun request => ?_) reader context q
  · exact fun _ hs => hs
  · exact fun _ _ _ hst htu hs => htu (hst hs)
  · intro s hs
    rw [Node.connections_call]
    exact hs

/-- One query asks for handles at canonical texts and makes one canonical call, or none. -/
theorem moves_run_canonical (hnode : Direct.Recording node) (reader : Reader) (context : Option String)
    (q : Query) : (q.run node reader context).Moves fun s t => s.Canonical → t.Canonical := by
  intro s hs
  refine ⟨q.checksummed_connections node reader context s hs.connections, ?_⟩
  rcases q.calls_run node reader context s with hc | ⟨h, f, arguments, block, wire, ha, hwire, hc⟩
  · rw [hc]
    exact hs.calls
  · obtain ⟨i, hi⟩ := ha.mem_functions
    exact hs.calls_append (Node.canonical_of_prepare hnode hwire hi ha.canonical) hc

end Query

namespace Step

/-- Beside its query a step neither calls nor asks for handles. -/
theorem moves_run_canonical (hnode : Direct.Recording node) (reader : Reader) (step : Step) :
    (step.run node reader).Moves fun s t => s.Canonical → t.Canonical := by
  intro s hs
  cases step with
  | background name block => exact hs.congr rfl rfl
  | timeout name seconds block =>
    cases h : CallContext.withTimeout s.clock seconds block with
    | ok x =>
      simp only [run, h]
      exact hs.congr rfl rfl
    | error e =>
      simp only [run, h]
      exact hs
  | deadline name limit block => exact hs.congr rfl rfl
  | cancel name => exact hs.congr rfl rfl
  | advance seconds => exact hs.congr rfl rfl
  | check name =>
    rw [run, Action.map_apply]
    exact hs.congr rfl rfl
  | look name => exact hs
  | ask query context =>
    rw [run, Action.map_apply]
    exact Query.moves_run_canonical hnode reader context query s hs

theorem exists_ask_of_run {node : Node ρ σ} {reader : Reader} {step : Step} {s : Session ρ σ} {a : Answer}
    (ha : (step.run node reader s).1 = .ok (.answer a)) :
    ∃ (q : Query) (context : Option String), (q.run node reader context s).1 = .ok a := by
  cases step with
  | timeout name seconds block =>
    cases h : CallContext.withTimeout s.clock seconds block with
    | ok x =>
      simp only [run, h] at ha
      cases ha
    | error e =>
      simp only [run, h] at ha
      cases ha
  | check name =>
    rw [run, Action.map_apply] at ha
    obtain ⟨_, -, ha⟩ := map_eq_ok ha
    cases ha
  | look name =>
    obtain ⟨_, -, ha⟩ := map_eq_ok ha
    cases ha
  | ask query context =>
    rw [run, Action.map_apply] at ha
    obtain ⟨b, hb, heq⟩ := map_eq_ok ha
    cases heq
    exact ⟨query, context, hb⟩
  | _ => cases ha

/-- Every answer among the outcomes of a run is canonical. -/
theorem canonical_of_mem_runAll {node : Node ρ σ} {reader : Reader} {steps : List Step} {s : Session ρ σ}
    {a : Answer} (ha : .ok (.answer a) ∈ (runAll node reader steps s).1) : a.Canonical := by
  induction steps generalizing s with
  | nil => cases ha
  | cons step rest ih =>
    rcases List.mem_cons.1 ha with ha | ha
    · obtain ⟨q, context, hq⟩ := exists_ask_of_run ha.symm
      exact Query.canonical_of_run hq
    · exact ih ha

/-- Only canonical data leave, and only canonical addresses come back. However handles were made and whatever
steps follow, every handle was asked for at a checksummed address, every recorded call has arguments in the
form of their types, and every address in an answer is checksummed. -/
theorem run_leaves_canonical (hnode : Direct.Recording node) (clock : Float) (state : σ)
    (construction : Construction) (reader : Reader) (steps : List Step) :
    let built := (construction.run node (.start clock state)).2
    let after := runAll node reader steps built
    (built.Canonical ∧ after.2.Canonical) ∧ ∀ a, .ok (.answer a) ∈ after.1 → a.Canonical := by
  intro built after
  have hbuilt : built.Canonical :=
    construction.moves_run_canonical hnode _ (Session.canonical_start clock state)
  have hafter : built.Canonical → after.2.Canonical :=
    moves_runAll (fun _ hs => hs) (fun _ _ _ hst htu hs => htu (hst hs))
      (fun step _ => moves_run_canonical hnode reader step) built
  exact ⟨⟨hbuilt, hafter hbuilt⟩, fun a ha => canonical_of_mem_runAll ha⟩

/-- A node that records its calls and answers each with an operator whose approver is given in bytes. -/
def approvingNode : Node Direct.Call Unit where
  connect _ _ state := (⟨[], .ok ()⟩, state)
  offers _ _ _ := .ok ()
  accepts _ _ := .ok ()
  prepare request :=
    .ok ⟨request.target.address, request.function.name, request.arguments, request.block⟩
  answer _ _ state := (⟨[], .ok (.tuple [.null, .bytes (List.replicate 20 0xab), .int 7])⟩, state)

/-- Two handles from bytes, one call, and one answer with an approver. -/
theorem run_leaves_canonical_approver :
    let given : Value := .buffer (List.replicate 20 0xcd)
    let manager : Address := ⟨List.replicate 20 0xcd, rfl⟩
    let reader : Reader :=
      ⟨.given, { Bindings.empty with delegationManager := some ⟨manager.text, .delegationManager⟩ },
        .named "reads"⟩
    let built := ((Construction.ofTwoAddresses given given none).run approvingNode (.start 0.0 ())).2
    let after := runAll approvingNode reader [.ask (.operatorDetails given) none] built
    Direct.Recording approvingNode ∧ built.connections.length = 2 ∧ after.2.calls.length = 1 ∧
      (built.Canonical ∧ after.2.Canonical) ∧
      ∃ o, .ok (.answer (.operator o)) ∈ after.1 ∧ (Answer.operator o).Canonical := by
  intro given manager reader built after
  have hnode : Direct.Recording approvingNode := by
    intro request call hcall
    cases hcall
    rfl
  obtain ⟨hcanonical, hanswers⟩ :=
    run_leaves_canonical hnode 0.0 () (.ofTwoAddresses given given none) reader
      [.ask (.operatorDetails given) none]
  have hmem : Except.ok (StepResult.answer (.operator
      ⟨given, .text (Address.text ⟨List.replicate 20 0xab, rfl⟩), .int 7⟩)) ∈ after.1 :=
    List.mem_singleton.2 rfl
  exact ⟨hnode, rfl, rfl, hcanonical, _, hmem, hanswers _ hmem⟩

end Step

end Restaking
