import Restaking.Bindings
import Restaking.Proofs.Session.Contexts

/-!
# The steps of wiring

What a configuration asks for as a list of steps, each taken with the outcome of those before it, and run
up to the first that fails. Steps know nothing of loggers and of the wording of failures; `Follows` relates
them to the actions that wire, which log on the way and wrap what fails.
-/
namespace Restaking

variable {ρ σ α β : Type}

/-- The same session with other records. -/
def Session.withRecords (s : Session ρ σ) (records : List Logging.Record) : Session ρ σ :=
  { s with records }

theorem Session.applyAll_withRecords (effects : List Effect) (s : Session ρ σ)
    (records : List Logging.Record) :
    (s.withRecords records).applyAll effects = (s.applyAll effects).withRecords records := by
  induction effects generalizing s with
  | nil => rfl
  | cons e rest ih =>
    have first : (s.withRecords records).apply e = (s.apply e).withRecords records := by cases e <;> rfl
    show ((s.withRecords records).apply e).applyAll rest = _
    rw [first, ih]
    rfl

/-- The action takes no notice of records and makes none. -/
def Action.Blind (a : Action ρ σ α) : Prop :=
  ∀ s records, a (s.withRecords records) = ((a s).1, (a s).2.withRecords records)

theorem Action.Blind.bind {a : Action ρ σ α} {f : α → Action ρ σ β} (ha : a.Blind)
    (hf : ∀ x, (f x).Blind) : (a >>= f).Blind := by
  intro s records
  rw [bind_apply, bind_apply, ha s records]
  rcases a s with ⟨e | x, t⟩
  · rfl
  · exact hf x t records

namespace Node

variable (node : Node ρ σ)

theorem blind_handle (address : String) (interface : Interface) :
    (node.handle address interface).Blind := fun s records =>
  Prod.ext rfl (Session.applyAll_withRecords _
    { s with
      connections := s.connections ++ [(address, interface)],
      node := (node.connect address interface s.node).2 } records)

theorem blind_call (request : Request) : (node.call request).Blind := by
  intro s records
  cases h : node.prepare request with
  | error e => rw [call_of_prepare_eq_error node h, call_of_prepare_eq_error node h]
  | ok wire =>
    rw [call_of_prepare_eq_ok node h, call_of_prepare_eq_ok node h]
    exact Prod.ext rfl (Session.applyAll_withRecords _
      { s with calls := s.calls ++ [wire], node := (node.answer request wire s.node).2 } records)

end Node

/-- Puts a handle in the place of its contract. -/
def Bindings.set (b : Bindings) (h : Handle) : Interface → Bindings
  | .slasher => { b with slasher := some h }
  | .delegationManager => { b with delegationManager := some h }
  | .strategyManager => { b with strategyManager := some h }
  | .avsDirectory => { b with avsDirectory := some h }
  | .rewardsCoordinator => { b with rewardsCoordinator := some h }
  | .strategy | .token => b

/-- How far wiring has come: where each contract is, as far as it is known, and the handles. -/
structure Wiring where
  addresses : Interface → Value
  bindings : Bindings

/-- Before the first step. -/
def Wiring.start (config : ReaderConfig) : Wiring where
  addresses
    | .delegationManager => .text config.delegationManager.text
    | .avsDirectory => .text config.avsDirectory.text
    | .rewardsCoordinator => .text config.rewardsCoordinator.text
    | _ => .null
  bindings := .empty

/-- A logger that refuses no record. -/
def Logging.Logger.Accepting (logger : Logging.Logger) : Prop :=
  ∀ level message, (logger.record level message none).reserved? = none

inductive WiringStep where
  /-- A handle of a contract. -/
  | connect (interface : Interface)
  /-- The question where a contract is. -/
  | ask (interface : Interface) (function : Abi.Function)

namespace WiringStep

/-- What a failure of the step is reported as. -/
def description : WiringStep → String
  | connect i => "Failed to create " ++ Bindings.title i ++ " contract"
  | ask i _ => "Failed to fetch " ++ Bindings.title i ++ " address"

/-- The delegation manager, its two answers and the contracts that they name. -/
def managed : List WiringStep :=
  [connect .delegationManager, ask .slasher Contract.slasher,
   ask .strategyManager Contract.strategyManager, connect .slasher, connect .strategyManager]

/-- The steps that a configuration asks for, in order. -/
def ofConfig (config : ReaderConfig) : List WiringStep :=
  (if config.delegationManager = .zero then [] else managed) ++
    (if config.avsDirectory = .zero then [] else [connect .avsDirectory]) ++
    (if config.rewardsCoordinator = .zero then [] else [connect .rewardsCoordinator])

section

variable (node : Node ρ σ) (manager : Handle)

/-- A handle of a contract at the address that a value denotes. -/
def attempt (interface : Interface) (given : Value) : Action ρ σ Handle := do
  let a ← Action.ofExcept (ofInput (Address.ofInput (Bindings.title interface ++ " address") given))
  node.handle a.text interface

/-- The answer to a question without arguments, at the block of the node's choice. -/
def question (f : Abi.Function) : Action ρ σ Value := do
  node.offering manager f
  node.accepting f []
  node.call ⟨manager, f, [], none⟩

/-- Takes one step. Questions go to `manager`. -/
def run : WiringStep → Wiring → Action ρ σ Wiring
  | connect i, w =>
    (fun h => { w with bindings := w.bindings.set h i }) <$> attempt node i (w.addresses i)
  | ask i f, w =>
    (fun v => { w with addresses := fun j => if j = i then v else w.addresses j }) <$>
      question node manager f

/-- Takes steps up to the first that fails, and tells which. -/
def runAll : List WiringStep → Wiring → Session ρ σ →
    Except (WiringStep × Failure) Wiring × Session ρ σ
  | [], w, s => (.ok w, s)
  | step :: rest, w, s =>
    match step.run node manager w s with
    | (.ok v, t) => runAll rest v t
    | (.error e, t) => (.error (step, e), t)

/-- An action does what the steps do, but for records: where a step fails it fails with that failure wrapped,
and otherwise its result is related to how far wiring has come. -/
def Follows (a : Action ρ σ α) (steps : List WiringStep) (w : Wiring) (R : α → Wiring → Prop) : Prop :=
  ∀ s records, ∃ records',
    match runAll node manager steps w s with
    | (.ok v, t) => ∃ x, R x v ∧ a (s.withRecords records) = (.ok x, t.withRecords records')
    | (.error (step, e), t) =>
      a (s.withRecords records) =
        (.error (.binding step.description (some e)), t.withRecords records')

end

variable {node : Node ρ σ} {manager : Handle} {step : WiringStep} {first rest steps : List WiringStep}
  {w v : Wiring} {s t : Session ρ σ} {i : Interface} {f : Abi.Function} {e : Failure}

theorem attempt_apply (i : Interface) (given : Value) (s : Session ρ σ) :
    attempt node i given s =
      match Address.ofInput (Bindings.title i ++ " address") given with
      | .error e => (.error (.input e), s)
      | .ok a => node.handle a.text i s := by
  rw [attempt, Action.bind_apply, Action.ofExcept]
  cases Address.ofInput (Bindings.title i ++ " address") given <;> rfl

/-- A question fails before it is asked, or it is one call. -/
theorem question_cases (node : Node ρ σ) (manager : Handle) (f : Abi.Function) (s : Session ρ σ) :
    (∃ e, question node manager f s = (.error e, s)) ∨
      question node manager f s = node.call ⟨manager, f, [], none⟩ s := by
  rw [question, Action.bind_apply, Node.offering]
  cases node.offers manager f s.node with
  | error e => exact .inl ⟨e, rfl⟩
  | ok u =>
    simp only [Action.bind_apply, Node.accepting, Action.ofExcept]
    cases node.accepts f [] with
    | error e => exact .inl ⟨e, rfl⟩
    | ok u => exact .inr rfl

/-! ## What has been done when steps do not fail, and when one does -/

theorem run_connect_eq_ok (h : (connect i).run node manager w s = (.ok v, t)) :
    ∃ a, Address.ofInput (Bindings.title i ++ " address") (w.addresses i) = .ok a ∧
      v = { w with bindings := w.bindings.set ⟨a.text, i⟩ i } ∧ t.calls = s.calls ∧
      t.node = (node.connect a.text i s.node).2 := by
  rw [run, Action.map_apply, attempt_apply] at h
  cases ha : Address.ofInput (Bindings.title i ++ " address") (w.addresses i) with
  | error e =>
    rw [ha] at h
    cases congrArg Prod.fst h
  | ok a =>
    rw [ha] at h
    obtain rfl := congrArg Prod.snd h
    refine ⟨a, rfl, ?_, node.calls_handle _ _ _, node.node_handle _ _ _⟩
    obtain ⟨h', hok, hv⟩ := map_eq_ok (congrArg Prod.fst h)
    cases node.handle_eq_ok hok
    exact hv.symm

theorem run_ask_eq_ok (h : (ask i f).run node manager w s = (.ok v, t)) :
    ∃ wire x, node.prepare ⟨manager, f, [], none⟩ = .ok wire ∧
      (node.answer ⟨manager, f, [], none⟩ wire s.node).1.outcome = .ok x ∧
      v = { w with addresses := fun j => if j = i then x else w.addresses j } ∧
      t.calls = s.calls ++ [wire] ∧ t.node = (node.answer ⟨manager, f, [], none⟩ wire s.node).2 := by
  rw [run, Action.map_apply] at h
  rcases question_cases node manager f s with ⟨e, hq⟩ | hq
  · rw [hq] at h
    cases congrArg Prod.fst h
  · cases hp : node.prepare ⟨manager, f, [], none⟩ with
    | error e =>
      rw [hq, Node.call_of_prepare_eq_error node hp] at h
      cases congrArg Prod.fst h
    | ok wire =>
      rw [hq, Node.call_of_prepare_eq_ok node hp] at h
      obtain rfl := congrArg Prod.snd h
      obtain ⟨x, hx, hv⟩ := map_eq_ok (congrArg Prod.fst h)
      exact ⟨wire, x, rfl, hx, hv.symm, node.calls_answered _ _ _, node.node_answered _ _ _⟩

theorem runAll_cons_eq_ok (h : runAll node manager (step :: rest) w s = (.ok v, t)) :
    ∃ x u, step.run node manager w s = (.ok x, u) ∧ runAll node manager rest x u = (.ok v, t) := by
  rw [runAll] at h
  rcases hr : step.run node manager w s with ⟨e | x, u⟩
  · simp [hr] at h
  · rw [hr] at h
    exact ⟨x, u, rfl, h⟩

theorem runAll_append (first rest : List WiringStep) (w : Wiring) (s : Session ρ σ) :
    runAll node manager (first ++ rest) w s =
      match runAll node manager first w s with
      | (.ok v, t) => runAll node manager rest v t
      | (.error e, t) => (.error e, t) := by
  induction first generalizing w s with
  | nil => rfl
  | cons step more ih =>
    simp only [List.cons_append, runAll]
    rcases step.run node manager w s with ⟨e | v, t⟩
    · rfl
    · exact ih v t

theorem runAll_append_eq_ok (h : runAll node manager (first ++ rest) w s = (.ok v, t)) :
    ∃ x u, runAll node manager first w s = (.ok x, u) ∧ runAll node manager rest x u = (.ok v, t) := by
  rw [runAll_append] at h
  rcases hr : runAll node manager first w s with ⟨e | x, u⟩
  · simp [hr] at h
  · rw [hr] at h
    exact ⟨x, u, rfl, h⟩

/-- A failure comes from the first step that fails; the steps before it are done and those after it are not
tried. -/
theorem runAll_eq_error (h : runAll node manager steps w s = (.error (step, e), t)) :
    ∃ before after x u, steps = before ++ step :: after ∧
      runAll node manager before w s = (.ok x, u) ∧ step.run node manager x u = (.error e, t) := by
  induction steps generalizing w s with
  | nil => simp [runAll] at h
  | cons first rest ih =>
    rw [runAll] at h
    rcases hr : first.run node manager w s with ⟨c | x, u⟩
    · rw [hr] at h
      cases h
      exact ⟨[], rest, w, s, rfl, rfl, hr⟩
    · rw [hr] at h
      obtain ⟨before, after, y, u', rfl, hbefore, hstep⟩ := ih h
      exact ⟨first :: before, after, y, u', rfl, by rw [runAll, hr]; exact hbefore, hstep⟩

/-! ## What follows the steps -/

theorem follows_pure {x : α} {R : α → Wiring → Prop} (h : R x w) :
    Follows node manager (pure x) [] w R :=
  fun _ records => ⟨records, x, h, rfl⟩

theorem Follows.bind {a : Action ρ σ α} {f : α → Action ρ σ β} {first rest : List WiringStep}
    {R : α → Wiring → Prop} {Q : β → Wiring → Prop} (ha : Follows node manager a first w R)
    (hf : ∀ x v, R x v → Follows node manager (f x) rest v Q) :
    Follows node manager (a >>= f) (first ++ rest) w Q := by
  intro s records
  obtain ⟨records', h⟩ := ha s records
  rw [runAll_append]
  rcases hr : runAll node manager first w s with ⟨⟨step, e⟩ | v, t⟩
  · rw [hr] at h
    exact ⟨records', by simp only [Action.bind_apply, h]⟩
  · rw [hr] at h
    obtain ⟨x, hx, h⟩ := h
    obtain ⟨records'', hrest⟩ := hf x v hx t records'
    refine ⟨records'', ?_⟩
    simp only [Action.bind_apply, h]
    exact hrest

theorem follows_of_map {a : Action ρ σ α} {step : WiringStep} {k : α → Wiring} (ha : a.Blind)
    (hrun : step.run node manager w = k <$> a) :
    Follows node manager (a.mapFailure fun e => .binding step.description (some e)) [step] w
      fun x v => v = k x ∧ ∃ s, (a s).1 = .ok x := by
  intro s records
  refine ⟨records, ?_⟩
  rw [runAll, hrun, Action.mapFailure_apply, ha s records, Action.map_apply]
  cases hx : (a s).1 with
  | error e => rfl
  | ok x => exact ⟨x, ⟨rfl, s, hx⟩, rfl⟩

/-- A handle that is wired is the step that connects its contract. -/
theorem follows_wire (i : Interface) {given : Value} (hw : w.addresses i = given) :
    Follows node manager (Bindings.wire node i given) [connect i] w fun h v =>
      v = { w with bindings := w.bindings.set h i } ∧ ∃ s, (attempt node i given s).1 = .ok h := by
  subst hw
  exact follows_of_map (Action.Blind.bind (fun _ _ => rfl) fun a => node.blind_handle a.text i) rfl

/-- An address that is resolved is the step that asks for it. -/
theorem follows_resolve (i : Interface) (f : Abi.Function) :
    Follows node manager (Bindings.resolve node manager i f) [ask i f] w fun x v =>
      v = { w with addresses := fun j => if j = i then x else w.addresses j } ∧
        ∃ s, (question node manager f s).1 = .ok x := by
  refine follows_of_map ?_ rfl
  refine Action.Blind.bind (fun _ _ => rfl) fun _ => ?_
  exact Action.Blind.bind (fun _ _ => rfl) fun _ => node.blind_call _

theorem follows_log {logger : Logging.Logger} (hlogger : logger.Accepting) (level : Logging.Level)
    (message : String) : Follows node manager (Action.log logger level message) [] w fun _ v => v = w := by
  intro s records
  refine ⟨records ++ [logger.record level message none], (), rfl, ?_⟩
  simp only [Action.log, hlogger level message]
  rfl

end WiringStep

end Restaking
