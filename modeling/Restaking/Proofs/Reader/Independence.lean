import Mathlib.Data.Fin.VecNotation
import Mathlib.Data.List.FinRange
import Mathlib.Logic.Equiv.Basic
import Restaking.Node.Direct
import Restaking.Proofs.Context.Run

/-!
# Calls do not depend on one another

The node is taken to decide every outcome by what it is asked, whatever it was asked before; its answers may
take time. Of contexts it is taken that each call finds its own as it stood when the run began, and leaves it
so: the clock may go on as long as no deadline is met. What a call comes to, and what is asked of the node for
it, is then the same wherever it stands in a run.
-/
namespace Restaking

open Session

variable {ρ σ α β : Type}

namespace Session

variable {context : Option String} {s t u : Session ρ σ}

/-- The context reads at the same block, and is open in both sessions or refuses alike. -/
def Unchanged (context : Option String) (s t : Session ρ σ) : Prop :=
  (t.contextOf context).block = (s.contextOf context).block ∧
    (t.contextOf context).check t.clock = (s.contextOf context).check s.clock

theorem Unchanged.symm (h : Unchanged context s t) : Unchanged context t s := ⟨h.1.symm, h.2.symm⟩

theorem Unchanged.trans (hst : Unchanged context s t) (htu : Unchanged context t u) :
    Unchanged context s u := ⟨htu.1.trans hst.1, htu.2.trans hst.2⟩

theorem unchanged_of_eq (context : Option String) (hcontexts : t.contexts = s.contexts)
    (hclock : t.clock = s.clock) : Unchanged context s t := by
  have hcontext : t.contextOf context = s.contextOf context := by
    cases context with
    | none => rfl
    | some name => rw [contextOf, contextOf, hcontexts]
  rw [Unchanged, hcontext, hclock]
  exact ⟨rfl, rfl⟩

end Session

namespace Node

/-- What is asked decides what comes of it, whatever the node's own state. Handles are had or
refused at once. -/
structure Memoryless (node : Node ρ σ) : Prop where
  atOnce : node.ConnectsAtOnce
  connect : ∀ address interface state state',
    (node.connect address interface state).1.outcome = (node.connect address interface state').1.outcome
  offers : ∀ h f state state', node.offers h f state = node.offers h f state'
  answer : ∀ request wire state state',
    (node.answer request wire state).1.outcome = (node.answer request wire state').1.outcome

end Node

namespace Action

variable {context : Option String} {a : Action ρ σ α} {f : α → Action ρ σ β} {s t : Session ρ σ}

/-- From either session comes the same outcome, and the same calls are made. -/
def SameFrom (a : Action ρ σ α) (s t : Session ρ σ) : Prop :=
  (a t).1 = (a s).1 ∧ ∃ asked, (a s).2.calls = s.calls ++ asked ∧ (a t).2.calls = t.calls ++ asked

/-- Sessions between which the context has not changed are not told apart, if it has not changed
afterwards. -/
def Repeats (context : Option String) (a : Action ρ σ α) : Prop :=
  ∀ s t, Unchanged context s t → Unchanged context (a s).2 (a t).2 → a.SameFrom s t

/-- One outcome from every session; no call is made, and neither the clock nor a context moves. -/
structure Settled (a : Action ρ σ α) : Prop where
  outcome : ∀ s t, (a t).1 = (a s).1
  calls : ∀ s, (a s).2.calls = s.calls
  contexts : ∀ s, (a s).2.contexts = s.contexts
  clock : ∀ s, (a s).2.clock = s.clock

theorem bind_of_fst_eq_error {e : Failure} (h : (a s).1 = .error e) :
    (a >>= f) s = (.error e, (a s).2) := by
  have hs : a s = (.error e, (a s).2) := Prod.ext h rfl
  rw [bind_apply, hs]

theorem bind_of_fst_eq_ok {x : α} (h : (a s).1 = .ok x) : (a >>= f) s = f x (a s).2 := by
  have hs : a s = (.ok x, (a s).2) := Prod.ext h rfl
  rw [bind_apply, hs]

theorem SameFrom.bind (ha : a.SameFrom s t)
    (hf : ∀ x, (a s).1 = .ok x → (f x).SameFrom (a s).2 (a t).2) : (a >>= f).SameFrom s t := by
  obtain ⟨houtcome, asked, hs, ht⟩ := ha
  cases hr : (a s).1 with
  | error e =>
    rw [SameFrom, bind_of_fst_eq_error hr, bind_of_fst_eq_error (houtcome.trans hr)]
    exact ⟨rfl, asked, hs, ht⟩
  | ok x =>
    obtain ⟨houtcome', later, hs', ht'⟩ := hf x hr
    rw [SameFrom, bind_of_fst_eq_ok hr, bind_of_fst_eq_ok (houtcome.trans hr)]
    refine ⟨houtcome', asked ++ later, ?_, ?_⟩
    · rw [hs', hs, List.append_assoc]
    · rw [ht', ht, List.append_assoc]

theorem SameFrom.mapFailure (ha : a.SameFrom s t) (g : Failure → Failure) :
    (a.mapFailure g).SameFrom s t := by
  rw [SameFrom, mapFailure_apply, mapFailure_apply, ha.1]
  exact ⟨rfl, ha.2⟩

theorem sameFrom_checkContext (h : Unchanged context s t) :
    (checkContext context : Action ρ σ Unit).SameFrom s t :=
  ⟨h.2, [], (List.append_nil s.calls).symm, (List.append_nil t.calls).symm⟩

/-! ## Settled actions -/

theorem settled_ofExcept (r : Except Failure α) : (ofExcept r : Action ρ σ α).Settled :=
  ⟨fun _ _ => rfl, fun _ => rfl, fun _ => rfl, fun _ => rfl⟩

theorem Settled.sameFrom (ha : a.Settled) (s t : Session ρ σ) : a.SameFrom s t := by
  refine ⟨ha.outcome s t, [], ?_, ?_⟩
  · rw [ha.calls, List.append_nil]
  · rw [ha.calls, List.append_nil]

theorem Settled.unchanged (ha : a.Settled) (context : Option String) (s : Session ρ σ) :
    Unchanged context s (a s).2 := unchanged_of_eq context (ha.contexts s) (ha.clock s)

theorem Settled.mapFailure (ha : a.Settled) (g : Failure → Failure) : (a.mapFailure g).Settled where
  outcome s t := by rw [mapFailure_apply, mapFailure_apply, ha.outcome s t]
  calls s := by rw [mapFailure_apply]; exact ha.calls s
  contexts s := by rw [mapFailure_apply]; exact ha.contexts s
  clock s := by rw [mapFailure_apply]; exact ha.clock s

theorem Settled.map (ha : a.Settled) (g : α → β) : (g <$> a).Settled where
  outcome s t := by rw [map_apply, map_apply, ha.outcome s t]
  calls s := by rw [map_apply]; exact ha.calls s
  contexts s := by rw [map_apply]; exact ha.contexts s
  clock s := by rw [map_apply]; exact ha.clock s

/-- What is kept by a settled action and by what comes after it is kept by both together. -/
theorem kept_bind {γ : Type} {g : Session ρ σ → γ} (ha : ∀ s, g (a s).2 = g s)
    (hf : ∀ x s, g (f x s).2 = g s) (s : Session ρ σ) : g ((a >>= f) s).2 = g s := by
  cases hr : (a s).1 with
  | error e => rw [bind_of_fst_eq_error hr, ha]
  | ok x => rw [bind_of_fst_eq_ok hr, hf, ha]

theorem Settled.bind (ha : a.Settled) (hf : ∀ x, (f x).Settled) : (a >>= f).Settled where
  outcome s t := ((ha.sameFrom s t).bind fun x _ => (hf x).sameFrom _ _).1
  calls := kept_bind ha.calls fun x => (hf x).calls
  contexts := kept_bind ha.contexts fun x => (hf x).contexts
  clock := kept_bind ha.clock fun x => (hf x).clock

/-! ## Actions that repeat -/

theorem Settled.bind_repeats (ha : a.Settled) (hf : ∀ x, Repeats context (f x)) :
    Repeats context (a >>= f) := by
  intro s t hbefore hafter
  have hsame := ha.sameFrom s t
  have hmiddle : Unchanged context (a s).2 (a t).2 :=
    (ha.unchanged context s).symm.trans (hbefore.trans (ha.unchanged context t))
  refine hsame.bind fun x hx => hf x _ _ hmiddle ?_
  rwa [bind_of_fst_eq_ok hx, bind_of_fst_eq_ok (hsame.1.trans hx)] at hafter

theorem unchanged_bind (hf : ∀ x, (f x).Settled) (context : Option String) (s : Session ρ σ) :
    Unchanged context (a s).2 ((a >>= f) s).2 := by
  cases hr : (a s).1 with
  | error e =>
    rw [bind_of_fst_eq_error hr]
    exact unchanged_of_eq context rfl rfl
  | ok x =>
    rw [bind_of_fst_eq_ok hr]
    exact (hf x).unchanged context _

theorem Repeats.bind_settled (ha : Repeats context a) (hf : ∀ x, (f x).Settled) :
    Repeats context (a >>= f) := by
  intro s t hbefore hafter
  have hmiddle : Unchanged context (a s).2 (a t).2 :=
    (unchanged_bind hf context s).trans (hafter.trans (unchanged_bind hf context t).symm)
  exact (ha s t hbefore hmiddle).bind fun x _ => (hf x).sameFrom _ _

theorem within_snd {question : Action ρ σ α} {shape : α → Except Failure β}
    (hopen : (s.contextOf context).check s.clock = .ok ()) :
    (within context question shape s).2 = (question s).2 := by
  rw [within_apply, hopen]
  rcases question s with ⟨_ | x, u⟩ <;> rfl

/-- The two checks come out alike, so the answer alone could make a difference, and it does not. -/
theorem repeats_within {question : Action ρ σ α}
    (hquestion : ∀ s t, Unchanged context s t → question.SameFrom s t) (shape : α → Except Failure β) :
    Repeats context (within context question shape) := by
  intro s t hbefore hafter
  refine (sameFrom_checkContext hbefore).bind fun _ hopen => ?_
  refine (hquestion s t hbefore).bind fun x _ => ?_
  refine (sameFrom_checkContext ?_).bind fun _ _ => (settled_ofExcept (shape x)).sameFrom _ _
  rwa [within_snd hopen, within_snd (hbefore.2.trans hopen)] at hafter

end Action

namespace Node.Memoryless

variable {node : Node ρ σ} (hnode : node.Memoryless)

include hnode

theorem settled_offering (h : Handle) (f : Abi.Function) : (node.offering h f).Settled :=
  ⟨fun s t => hnode.offers h f t.node s.node, fun _ => rfl, fun _ => rfl, fun _ => rfl⟩

theorem settled_handle (address : String) (interface : Interface) :
    (node.handle address interface).Settled where
  outcome s t := congrArg (fun r => r.map fun _ => (⟨address, interface⟩ : Handle))
    (hnode.connect address interface t.node s.node)
  calls s := by rw [hnode.atOnce.handle]
  contexts s := by rw [hnode.atOnce.handle]
  clock s := by rw [hnode.atOnce.handle]

/-- A call reads at the block of its context, so it is the same call while the context is the same. -/
theorem sameFrom_call {context : Option String} {s t : Session ρ σ} (h : Unchanged context s t)
    (target : Handle) (f : Abi.Function) (arguments : List Argument) :
    (Action.blockOf context >>= fun block =>
      node.call ⟨target, f, arguments, some block⟩).SameFrom s t := by
  have hs (u : Session ρ σ) : (Action.blockOf context >>= fun block =>
      node.call ⟨target, f, arguments, some block⟩) u =
        node.call ⟨target, f, arguments, some (u.contextOf context).block⟩ u := rfl
  rw [Action.SameFrom, hs, hs, h.1]
  cases hwire : node.prepare ⟨target, f, arguments, some (s.contextOf context).block⟩ with
  | error e =>
    rw [call_of_prepare_eq_error node hwire, call_of_prepare_eq_error node hwire]
    exact ⟨rfl, [], (List.append_nil s.calls).symm, (List.append_nil t.calls).symm⟩
  | ok wire =>
    rw [call_of_prepare_eq_ok node hwire, call_of_prepare_eq_ok node hwire]
    exact ⟨hnode.answer _ wire t.node s.node, [wire], node.calls_answered _ wire s,
      node.calls_answered _ wire t⟩

theorem settled_collect (p : Plan) (h : Handle) : (p.collect node h).Settled := by
  unfold Plan.collect
  split
  · exact (Action.settled_ofExcept _).bind fun arguments =>
      (hnode.settled_offering h p.function).bind fun _ => Action.settled_ofExcept (.ok arguments)
  · exact (hnode.settled_offering h p.function).bind fun _ => Action.settled_ofExcept _

theorem repeats_plan (p : Plan) (reader : Reader) (context : Option String) :
    Action.Repeats context (p.run node reader context) := by
  have hrequire : (Reader.require (reader.handles.get p.contract) (Reader.contractName p.contract) :
      Action ρ σ Handle).Settled := by
    unfold Reader.require
    split <;> exact Action.settled_ofExcept _
  refine hrequire.bind_repeats fun h => (hnode.settled_collect p h).bind_repeats fun arguments => ?_
  refine (Action.settled_ofExcept (node.accepts p.function arguments)).bind_repeats fun _ => ?_
  rw [callWithin_eq_within]
  refine (Action.repeats_within (fun s t hst => ?_) .ok).bind_settled fun v => Action.settled_ofExcept _
  exact hnode.sameFrom_call hst h p.function arguments

theorem sameFrom_tokenCall {context : Option String} {s t : Session ρ σ} (h : Unchanged context s t)
    (strategy : Handle) : (Reader.tokenCall node strategy context).SameFrom s t := by
  refine Action.SameFrom.mapFailure ?_ _
  refine ((hnode.settled_offering strategy Contract.underlyingToken).sameFrom s t).bind fun _ _ => ?_
  refine ((Action.settled_ofExcept (node.accepts Contract.underlyingToken [])).sameFrom s t).bind
    fun _ _ => ?_
  exact hnode.sameFrom_call h strategy Contract.underlyingToken []

theorem settled_strategyHandle (v : Value) : (Reader.strategyHandle node v).Settled := by
  unfold Reader.strategyHandle
  refine Action.Settled.mapFailure ?_ _
  exact (Action.settled_ofExcept _).bind fun a => hnode.settled_handle a.text .strategy

theorem settled_finish (q : Query) (h : Handle) (token : Address) : (q.finish node h token).Settled := by
  cases q
  case strategyAndTokenHandle v => exact ((hnode.settled_handle token.text .token).mapFailure _).map _
  all_goals exact Action.settled_ofExcept (.ok _)

/-- A query comes to the same wherever its context has not changed. -/
theorem repeats_run (q : Query) (reader : Reader) (context : Option String) :
    Action.Repeats context (q.run node reader context) := by
  rcases q.plan_or_strategy with ⟨p, hp⟩ | ⟨v, hv⟩
  · rw [Query.run_eq_plan hp]
    exact hnode.repeats_plan p reader context
  · rw [Query.run_eq_lookup hv]
    refine (hnode.settled_strategyHandle v).bind_repeats fun h => ?_
    rw [Reader.underlyingTokenAddress_eq_within]
    refine (Action.repeats_within (fun s t hst => ?_) _).bind_settled fun token => ?_
    · exact hnode.sameFrom_tokenCall hst h
    · exact hnode.settled_finish q h token

/-- What a query comes to, and what is asked for it, wherever its context is as in the session `start`. -/
theorem exists_outcome (q : Query) (reader : Reader) (context : Option String) (start : Session ρ σ) :
    ∃ (outcome : Except Failure Answer) (asked : List ρ), ∀ s, Unchanged context start s →
      Unchanged context start (q.run node reader context s).2 →
      (q.run node reader context s).1 = outcome ∧
        (q.run node reader context s).2.calls = s.calls ++ asked := by
  by_cases hmet : ∃ u, Unchanged context start u ∧ Unchanged context start (q.run node reader context u).2
  · obtain ⟨u, hbefore, hafter⟩ := hmet
    refine ⟨(q.run node reader context u).1,
      (q.run node reader context u).2.calls.drop u.calls.length, fun s hs hs' => ?_⟩
    obtain ⟨houtcome, asked, hu, hasked⟩ :=
      hnode.repeats_run q reader context u s (hbefore.symm.trans hs) (hafter.symm.trans hs')
    refine ⟨houtcome, ?_⟩
    rw [hasked, hu, List.drop_left]
  · -- No run comes to this query with its context unchanged.
    exact ⟨.error default, [], fun s hs hs' => absurd ⟨s, hs, hs'⟩ hmet⟩

end Node.Memoryless

/-- Of a reader only its handles count, neither its client nor its logger. -/
theorem Query.run_congr {reader other : Reader} (h : other.handles = reader.handles) (node : Node ρ σ)
    (q : Query) (context : Option String) : q.run node other context = q.run node reader context := by
  rcases q.plan_or_strategy with ⟨p, hp⟩ | ⟨v, hv⟩
  · rw [run_eq_plan hp, run_eq_plan hp, Plan.run, Plan.run, h]
  · rw [run_eq_lookup hv, run_eq_lookup hv]

namespace Step

/-- Calls in some order, each after a pause. -/
def timed {ι : Type} (calls : ι → Query × Option String) (pause : ι → Float) (order : List ι) : List Step :=
  order.flatMap fun i => [.advance (pause i), .ask (calls i).1 (calls i).2]

/-- Each call finds its context as it stood in the session `start`, and leaves it so. -/
def Undisturbed (node : Node ρ σ) (reader : Reader) (start : Session ρ σ) :
    List Step → Session ρ σ → Prop
  | [], _ => True
  | step :: rest, s =>
    (∀ q context, step = .ask q context →
      Unchanged context start s ∧ Unchanged context start (step.run node reader s).2) ∧
      Undisturbed node reader start rest (step.run node reader s).2

variable {node : Node ρ σ} {reader : Reader}

theorem runAll_cons (step : Step) (rest : List Step) (s : Session ρ σ) :
    runAll node reader (step :: rest) s =
      ((step.run node reader s).1 :: (runAll node reader rest (step.run node reader s).2).1,
        (runAll node reader rest (step.run node reader s).2).2) := rfl

theorem runAll_congr {other : Reader} (h : other.handles = reader.handles) (steps : List Step)
    (s : Session ρ σ) : runAll node other steps s = runAll node reader steps s := by
  induction steps generalizing s with
  | nil => rfl
  | cons step rest ih =>
    have hstep : step.run node other = step.run node reader := by
      cases step
      case ask q context => rw [run, run, q.run_congr h]
      all_goals rfl
    rw [runAll_cons, runAll_cons, hstep, ih]

theorem runAll_append (before after : List Step) (s : Session ρ σ) :
    runAll node reader (before ++ after) s =
      ((runAll node reader before s).1 ++ (runAll node reader after (runAll node reader before s).2).1,
        (runAll node reader after (runAll node reader before s).2).2) := by
  induction before generalizing s with
  | nil => rfl
  | cons step rest ih =>
    rw [List.cons_append, runAll_cons, ih, runAll_cons]
    rfl

section

variable {ι : Type} {calls : ι → Query × Option String} {pause : ι → Float} {start : Session ρ σ}

theorem runAll_timed_cons (i : ι) (rest : List ι) (s : Session ρ σ) :
    let call := (calls i).1.run node reader (calls i).2 (s.advance (pause i))
    let later := runAll node reader (timed calls pause rest) call.2
    runAll node reader (timed calls pause (i :: rest)) s =
      ([.ok .done, call.1.map .answer] ++ later.1, later.2) := by
  have hcall := Action.map_apply StepResult.answer ((calls i).1.run node reader (calls i).2)
    (s.advance (pause i))
  have hsteps : timed calls pause (i :: rest) =
      .advance (pause i) :: .ask (calls i).1 (calls i).2 :: timed calls pause rest := rfl
  have hpause : run node reader (.advance (pause i)) s = (.ok .done, s.advance (pause i)) := rfl
  rw [hsteps, runAll_cons, runAll_cons, hpause, run, hcall]
  rfl

theorem undisturbed_timed_cons {i : ι} {rest : List ι} {s : Session ρ σ} :
    let u := ((calls i).1.run node reader (calls i).2 (s.advance (pause i))).2
    Undisturbed node reader start (timed calls pause (i :: rest)) s ↔
      Unchanged (calls i).2 start (s.advance (pause i)) ∧ Unchanged (calls i).2 start u ∧
        Undisturbed node reader start (timed calls pause rest) u := by
  intro u
  have hcall : (run node reader (.ask (calls i).1 (calls i).2) (s.advance (pause i))).2 = u := by
    rw [run, Action.map_apply]
  constructor
  · rintro ⟨-, hstands, hrest⟩
    obtain ⟨hbefore, hafter⟩ := hstands _ _ rfl
    exact ⟨hbefore, hcall ▸ hafter, hcall ▸ hrest⟩
  · rintro ⟨hbefore, hafter, hrest⟩
    refine ⟨fun q context h => (Step.noConfusion h), fun q context h => ?_, hcall.symm ▸ hrest⟩
    cases h
    exact ⟨hbefore, hcall.symm ▸ hafter⟩

/-- If every call comes to the same wherever it is made, a run is made up of what its calls come to. -/
theorem runAll_timed {outcome : ι → Except Failure Answer} {asked : ι → List ρ}
    (hcalls : ∀ i s, Unchanged (calls i).2 start s →
      Unchanged (calls i).2 start ((calls i).1.run node reader (calls i).2 s).2 →
      ((calls i).1.run node reader (calls i).2 s).1 = outcome i ∧
        ((calls i).1.run node reader (calls i).2 s).2.calls = s.calls ++ asked i)
    (order : List ι) (s : Session ρ σ)
    (hundisturbed : Undisturbed node reader start (timed calls pause order) s) :
    (runAll node reader (timed calls pause order) s).1 =
        order.flatMap (fun i => [.ok .done, (outcome i).map .answer]) ∧
      (runAll node reader (timed calls pause order) s).2.calls = s.calls ++ order.flatMap asked := by
  induction order generalizing s with
  | nil => exact ⟨rfl, (List.append_nil s.calls).symm⟩
  | cons i rest ih =>
    obtain ⟨hbefore, hafter, hrest⟩ := undisturbed_timed_cons.1 hundisturbed
    obtain ⟨houtcome, hasked⟩ := hcalls i _ hbefore hafter
    obtain ⟨houtcomes, hcalled⟩ := ih _ hrest
    have hadvanced : (s.advance (pause i)).calls = s.calls := rfl
    rw [runAll_timed_cons, List.flatMap_cons, List.flatMap_cons, houtcome]
    refine ⟨?_, ?_⟩
    · rw [houtcomes]
    · rw [hcalled, hasked, hadvanced, List.append_assoc]

end

/-- A reader keeps nothing between calls. In two runs of the same calls, the second in another order, each
call has one outcome and asks the node for the same, so what is asked is put in order as the calls are. It has
that outcome and asks for the same by itself too, in any session that its context has come to, from any reader
of the same handles; and whatever part of a run is over, failed calls or not, any such reader does the
rest. -/
theorem calls_in_any_order (hnode : node.Memoryless) (reader : Reader) (s : Session ρ σ) {n : ℕ}
    (calls : Fin n → Query × Option String) (reorder : Equiv.Perm (Fin n)) (pause pause' : Fin n → Float)
    (hfirst : Undisturbed node reader s (timed calls pause (List.finRange n)) s)
    (hsecond : Undisturbed node reader s (timed calls pause' ((List.finRange n).map reorder)) s) :
    let first := timed calls pause (List.finRange n)
    let second := timed calls pause' ((List.finRange n).map reorder)
    (∃ (outcome : Fin n → Except Failure Answer) (asked : Fin n → List ρ),
      (runAll node reader first s).1 =
        (List.finRange n).flatMap (fun i => [.ok .done, (outcome i).map .answer]) ∧
      (runAll node reader second s).1 =
        (List.finRange n).flatMap (fun i => [.ok .done, (outcome (reorder i)).map .answer]) ∧
      (runAll node reader first s).2.calls = s.calls ++ (List.finRange n).flatMap asked ∧
      (runAll node reader second s).2.calls =
        s.calls ++ (List.finRange n).flatMap (fun i => asked (reorder i)) ∧
      ∀ other : Reader, other.handles = reader.handles → ∀ i u, Unchanged (calls i).2 s u →
        Unchanged (calls i).2 s ((calls i).1.run node other (calls i).2 u).2 →
        ((calls i).1.run node other (calls i).2 u).1 = outcome i ∧
          ((calls i).1.run node other (calls i).2 u).2.calls = u.calls ++ asked i) ∧
    ∀ before after (other : Reader), second = before ++ after → other.handles = reader.handles →
      let t := (runAll node reader before s).2
      runAll node reader second s =
        ((runAll node reader before s).1 ++ (runAll node other after t).1,
          (runAll node other after t).2) := by
  intro first second
  choose outcome asked hcalls using fun i =>
    hnode.exists_outcome (calls i).1 reader (calls i).2 s
  refine ⟨⟨outcome, asked, ?_⟩, fun before after other hsplit hhandles => ?_⟩
  · obtain ⟨houtcomes, hcalled⟩ := runAll_timed hcalls _ s hfirst
    obtain ⟨houtcomes', hcalled'⟩ := runAll_timed hcalls _ s hsecond
    rw [List.flatMap_map] at houtcomes' hcalled'
    refine ⟨houtcomes, houtcomes', hcalled, hcalled', fun other hhandles i u => ?_⟩
    rw [Query.run_congr hhandles]
    exact hcalls i u
  · intro t
    rw [hsplit, runAll_append, runAll_congr hhandles]

/-- A node that counts its answers, each of which takes a second. -/
def countingNode : Node Direct.Call Nat where
  connect _ _ state := (⟨[], .ok ()⟩, state)
  offers _ _ _ := .ok ()
  accepts _ _ := .ok ()
  prepare request :=
    .ok ⟨request.target.address, request.function.name, request.arguments, request.block⟩
  answer _ _ state := (⟨[.advance 1.0], .ok (.int 3)⟩, state + 1)

theorem memoryless_countingNode : countingNode.Memoryless where
  atOnce _ _ _ := rfl
  connect _ _ _ _ := rfl
  offers _ _ _ _ := rfl
  answer _ _ _ _ := rfl

theorem contexts_run_countingNode (q : Query) (reader : Reader) (context : Option String)
    (s : Session Direct.Call Nat) : (q.run countingNode reader context s).2.contexts = s.contexts :=
  Query.moves_run (R := fun s t => t.contexts = s.contexts) (fun _ => rfl)
    (fun _ _ _ hst htu => htu.trans hst) countingNode (fun _ _ _ => rfl) (fun _ _ => rfl) reader context q s

/-- A call that is answered and one that wants a contract, in both orders, before a deadline, and once more by
a reader with another client and logger. -/
theorem calls_in_any_order_swapped :
    let s : Session Direct.Call Nat :=
      (Session.start 0.0 0).putContext "c" (.withDeadline (some (.real 10.0)) CallContext.latest)
    let coordinator : Handle := ⟨"0x000000000000000000000000000000000000c0de", .rewardsCoordinator⟩
    let reader : Reader :=
      ⟨.given, { Bindings.empty with rewardsCoordinator := some coordinator }, .named "reads"⟩
    let calls : Fin 2 → Query × Option String :=
      ![(.distributionRootsLength, some "c"), (.operatorIsFrozen .null, some "c")]
    let first := timed calls (fun _ => 0.5) (List.finRange 2)
    let second := timed calls (fun _ => 2.0) ((List.finRange 2).map (Equiv.swap 0 1))
    countingNode.Memoryless ∧ Undisturbed countingNode reader s first s ∧
      Undisturbed countingNode reader s second s ∧
      ∃ (outcome : Fin 2 → Except Failure Answer) (asked : Fin 2 → List Direct.Call),
        (runAll countingNode reader first s).1 =
          [.ok .done, (outcome 0).map .answer, .ok .done, (outcome 1).map .answer] ∧
        (runAll countingNode reader second s).1 =
          [.ok .done, (outcome 1).map .answer, .ok .done, (outcome 0).map .answer] ∧
        (runAll countingNode reader first s).2.calls = asked 0 ++ asked 1 ∧
        (runAll countingNode reader second s).2.calls = asked 1 ++ asked 0 ∧
        (runAll countingNode ⟨.endpoint "http://node" 10.0, reader.handles, .named "other"⟩ second s).1 =
          (runAll countingNode reader second s).1 := by
  intro s coordinator reader calls first second
  have hstart : (s.contextOf (some "c")).deadlineExceeded s.clock = false := by decide +kernel
  have hstands {t : Session Direct.Call Nat} (hcontexts : t.contexts = s.contexts)
      (hclock : (s.contextOf (some "c")).deadlineExceeded t.clock = false) :
      Unchanged (some "c") s t := by
    have hcontext : t.contextOf (some "c") = s.contextOf (some "c") := by
      rw [Session.contextOf, Session.contextOf, hcontexts]
    rw [Unchanged, hcontext, CallContext.check, CallContext.check, hclock, hstart]
    exact ⟨rfl, rfl⟩
  have hrun := contexts_run_countingNode
  have hfirst : Undisturbed countingNode reader s first s := by
    refine undisturbed_timed_cons.2 ⟨hstands rfl ?_, hstands (hrun ..) ?_,
      undisturbed_timed_cons.2 ⟨hstands (hrun ..) ?_, hstands ((hrun ..).trans (hrun ..)) ?_, trivial⟩⟩
      <;> decide +kernel
  have hsecond : Undisturbed countingNode reader s second s := by
    refine undisturbed_timed_cons.2 ⟨hstands rfl ?_, hstands (hrun ..) ?_,
      undisturbed_timed_cons.2 ⟨hstands (hrun ..) ?_, hstands ((hrun ..).trans (hrun ..)) ?_, trivial⟩⟩
      <;> decide +kernel
  obtain ⟨⟨outcome, asked, houtcomes, houtcomes', hcalled, hcalled', -⟩, hrest⟩ :=
    calls_in_any_order memoryless_countingNode reader s calls (Equiv.swap 0 1) (fun _ => 0.5)
      (fun _ => 2.0) hfirst hsecond
  refine ⟨memoryless_countingNode, hfirst, hsecond, outcome, asked, houtcomes, houtcomes', ?_, ?_, ?_⟩
  · rw [hcalled]
    simp [s, Session.start, Session.putContext, List.finRange_succ]
  · rw [hcalled']
    simp [s, Session.start, Session.putContext, List.finRange_succ]
  · exact (congrArg Prod.fst (hrest [] second _ rfl rfl)).symm

end Step

end Restaking
