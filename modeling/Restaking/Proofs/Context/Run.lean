import Restaking.Proofs.Context.Lifetime

/-!
# Contexts along a run

A caller's steps are of any number and kind; only a step that makes a context of the same name anew is left
out, since that is another context. The clock is taken to go forward from step to step, as it reads: nothing
is asked of it inside a step.
-/
namespace Restaking

open Session

variable {ρ σ : Type}

namespace Node

/-- From one session to another a context was left alone, unless an answer to one of the calls asked in
between cancelled it. -/
def SameUnlessAnswered (node : Node ρ σ) (c : String) (s t : Session ρ σ) : Prop :=
  ∃ asked, t.calls = s.calls ++ asked ∧
    (Same c s t ∨ ∃ request, ∃ wire ∈ asked, ∃ state, node.prepare request = .ok wire ∧
      Effect.cancel c ∈ (node.answer request wire state).1.effects)

variable {node : Node ρ σ}

theorem sameUnlessAnswered_of_same {c : String} {s t : Session ρ σ} (h : Same c s t)
    (hcalls : t.calls = s.calls) : node.SameUnlessAnswered c s t :=
  ⟨[], by rw [hcalls, List.append_nil], .inl h⟩

theorem sameUnlessAnswered_refl (c : String) (s : Session ρ σ) : node.SameUnlessAnswered c s s :=
  sameUnlessAnswered_of_same rfl rfl

theorem sameUnlessAnswered_trans {c : String} (s t u : Session ρ σ)
    (hst : node.SameUnlessAnswered c s t) (htu : node.SameUnlessAnswered c t u) :
    node.SameUnlessAnswered c s u := by
  obtain ⟨before, hbefore, hst⟩ := hst
  obtain ⟨after, hafter, htu⟩ := htu
  refine ⟨before ++ after, by rw [hafter, hbefore, List.append_assoc], ?_⟩
  rcases hst with hst | ⟨request, wire, hw, state, hcancel⟩
  · rcases htu with htu | ⟨request, wire, hw, state, hcancel⟩
    · exact .inl (htu.trans hst)
    · exact .inr ⟨request, wire, List.mem_append_right before hw, state, hcancel⟩
  · exact .inr ⟨request, wire, List.mem_append_left after hw, state, hcancel⟩

theorem moves_call_sameUnlessAnswered (c : String) (request : Request) :
    (node.call request).Moves (node.SameUnlessAnswered c) := by
  intro s
  cases h : node.prepare request with
  | error e =>
    rw [call_of_prepare_eq_error node h]
    exact sameUnlessAnswered_refl c s
  | ok wire =>
    rw [call_of_prepare_eq_ok node h]
    refine ⟨[wire], calls_applyAll _ _, ?_⟩
    by_cases hc : Effect.cancel c ∈ (node.answer request wire s.node).1.effects
    · exact .inr ⟨request, wire, List.mem_singleton_self wire, s.node, h, hc⟩
    · exact .inl (same_applyAll hc _)

theorem ConnectsAtOnce.moves_handle (h : node.ConnectsAtOnce) (c address : String)
    (interface : Interface) :
    (node.handle address interface).Moves (node.SameUnlessAnswered c) := by
  intro s
  rw [h.handle]
  exact sameUnlessAnswered_of_same rfl rfl

end Node

namespace Step

variable {node : Node ρ σ} {reader : Reader} {c : String}

/-- The name under which a step makes a context anew. -/
def created? : Step → Option String
  | background name _ | timeout name _ _ | deadline name _ _ => some name
  | _ => none

/-- The clock never reads earlier after a step than before it. -/
def ClockForward (node : Node ρ σ) (reader : Reader) : List Step → Session ρ σ → Prop
  | [], _ => True
  | step :: rest, s =>
    Moment.inOrder s.clock (step.run node reader s).2.clock = true ∧
      ClockForward node reader rest (step.run node reader s).2

/-- Beside its query, a step only makes contexts, cancels one or lets time pass. -/
theorem moves_run {R : Session ρ σ → Session ρ σ → Prop} (hrefl : ∀ s, R s s)
    (hput : ∀ s name x, c ≠ name → R s (s.putContext name x))
    (hadvance : ∀ s seconds, R s (s.advance seconds))
    (hquery : ∀ (q : Query) context, (q.run node reader context).Moves R) (step : Step)
    (hcancel : ∀ s name, step = .cancel name → R s (s.cancel name))
    (hcreated : step.created? ≠ some c) : (step.run node reader).Moves R := by
  have other {name : String} (h : step.created? = some name) : c ≠ name := by
    rintro rfl
    exact hcreated h
  intro s
  cases step with
  | background name block => exact hput s name _ (other rfl)
  | timeout name seconds block =>
    cases h : CallContext.withTimeout s.clock seconds block with
    | ok x => simpa only [run, h] using hput s name x (other rfl)
    | error e => simpa only [run, h] using hrefl s
  | deadline name limit block => exact hput s name _ (other rfl)
  | cancel name => exact hcancel s name rfl
  | advance seconds => exact hadvance s seconds
  | check name => exact (Action.moves_of_snd_eq hrefl fun _ => rfl).map _ s
  | look name => exact hrefl s
  | ask query context => exact (hquery query context).map _ s

/-- A step that does not make a context anew keeps it, whatever the node does. -/
theorem moves_run_keeps (step : Step) (hcreated : step.created? ≠ some c) :
    (step.run node reader).Moves (Keeps c) := by
  have hquery (q : Query) (context : Option String) : (q.run node reader context).Moves (Keeps c) :=
    Query.moves_run (keeps_refl c) keeps_trans node (fun a => node.moves_handle_keeps c a.text)
      (node.moves_call_keeps c) reader context q
  exact moves_run (keeps_refl c) (fun s _ x h => (same_putContext h x s).keeps)
    (fun s _ => keeps_refl c s) hquery step (fun s name _ => keeps_cancel c name s) hcreated

/-- A step that neither makes a context anew nor cancels it leaves that to the answers. -/
theorem moves_run_sameUnlessAnswered (hn : node.ConnectsAtOnce) (step : Step)
    (hcreated : step.created? ≠ some c) (hcancel : step ≠ .cancel c) :
    (step.run node reader).Moves (node.SameUnlessAnswered c) := by
  have hquery (q : Query) (context : Option String) :
      (q.run node reader context).Moves (node.SameUnlessAnswered c) :=
    Query.moves_run (node.sameUnlessAnswered_refl c) node.sameUnlessAnswered_trans node
      (fun a => hn.moves_handle c a.text) (node.moves_call_sameUnlessAnswered c) reader context q
  refine moves_run (node.sameUnlessAnswered_refl c) (fun s _ x h => ?_) (fun s _ => ?_) hquery step
    (fun s name h => ?_) hcreated
  · exact node.sameUnlessAnswered_of_same (same_putContext h x s) rfl
  · exact node.sameUnlessAnswered_of_same rfl rfl
  · refine node.sameUnlessAnswered_of_same (same_cancel ?_ s) rfl
    rintro rfl
    exact hcancel h

/-! ## Runs -/

/-- What every step keeps, a run keeps. -/
theorem moves_runAll {R : Session ρ σ → Session ρ σ → Prop} (hrefl : ∀ s, R s s)
    (htrans : ∀ s t u, R s t → R t u → R s u) {steps : List Step}
    (hstep : ∀ step ∈ steps, (step.run node reader).Moves R) (s : Session ρ σ) :
    R s (runAll node reader steps s).2 := by
  induction steps generalizing s with
  | nil => exact hrefl s
  | cons step rest ih =>
    have first : R s (step.run node reader s).2 := hstep step (by simp) s
    exact htrans _ _ _ first (ih (fun t ht => hstep t (by simp [ht])) _)

section

variable {steps : List Step} (hcreated : ∀ step ∈ steps, step.created? ≠ some c)

include hcreated

theorem keeps_runAll (s : Session ρ σ) : Keeps c s (runAll node reader steps s).2 :=
  moves_runAll (keeps_refl c) keeps_trans (fun step h => moves_run_keeps step (hcreated step h)) s

/-- A context that has ended stays so to the end of the run. -/
theorem ended_runAll {s : Session ρ σ} (hclock : ClockForward node reader steps s) (h : s.Ended c) :
    (runAll node reader steps s).2.Ended c := by
  induction steps generalizing s with
  | nil => exact h
  | cons step rest ih =>
    have first : Keeps c s (step.run node reader s).2 := moves_run_keeps step (hcreated step (by simp)) s
    exact ih (fun t ht => hcreated t (by simp [ht])) hclock.2 (h.of_keeps first hclock.1)

/-- A caller's cancellation lasts to the end of the run. -/
theorem cancelled_runAll {s : Session ρ σ} (hs : (s.contexts.lookup c).isSome)
    (hcancel : .cancel c ∈ steps) :
    ((runAll node reader steps s).2.contextOf (some c)).cancelled = true := by
  obtain ⟨before, after, rfl⟩ := List.append_of_mem hcancel
  clear hcancel
  induction before generalizing s with
  | nil =>
    have later : ∀ t ∈ after, t.created? ≠ some c := fun t ht => hcreated t (by simp [ht])
    exact (keeps_runAll later (s.cancel c)).cancelled (cancelled_cancel hs)
  | cons step rest ih =>
    have first : Keeps c s (step.run node reader s).2 := moves_run_keeps step (hcreated step (by simp)) s
    exact ih (first.isSome hs) fun t ht => hcreated t (List.mem_cons_of_mem step ht)

theorem sameUnlessAnswered_runAll (hn : node.ConnectsAtOnce) (hcancel : .cancel c ∉ steps)
    (s : Session ρ σ) : node.SameUnlessAnswered c s (runAll node reader steps s).2 := by
  refine moves_runAll (node.sameUnlessAnswered_refl c) node.sameUnlessAnswered_trans (fun step h => ?_) s
  refine moves_run_sameUnlessAnswered hn step (hcreated step h) ?_
  rintro rfl
  exact hcancel h

/-- An untimed context that has ended by the end of a run was cancelled: before it, by the caller, or by the
answer to a call of the run. -/
theorem cancelled_of_untimed (hn : node.ConnectsAtOnce) {s : Session ρ σ} (hs : s.Untimed c)
    (hu : (runAll node reader steps s).2.Ended c) :
    (s.contextOf (some c)).cancelled = true ∨ .cancel c ∈ steps ∨
      ∃ request, ∃ wire ∈ (runAll node reader steps s).2.calls.drop s.calls.length, ∃ state,
        node.prepare request = .ok wire ∧
          Effect.cancel c ∈ (node.answer request wire state).1.effects := by
  have hcancelled := (hs.of_keeps (keeps_runAll hcreated s)).ended_iff.1 hu
  by_cases hcancel : .cancel c ∈ steps
  · exact .inr (.inl hcancel)
  · obtain ⟨asked, hasked, hsame | ⟨request, wire, hw, state, hwire⟩⟩ :=
      sameUnlessAnswered_runAll hcreated hn hcancel s
    · rw [contextOf, hsame] at hcancelled
      exact .inl hcancelled
    · refine .inr (.inr ⟨request, wire, ?_, state, hwire⟩)
      rwa [hasked, List.drop_left]

end

/-- A context that has ended is over for good. After any run `u` of steps: it has still ended, every query
under it fails without a call, and it refuses with its cause, which is cancellation whenever it was
cancelled, before the run or during it. A query that it ends under hands nothing over, and only cancellation
ends a context without a deadline. -/
theorem context_ends_for_good (hn : node.ConnectsAtOnce) (reader : Reader) (c : String)
    (steps : List Step) (s : Session ρ σ) (hcreated : ∀ step ∈ steps, step.created? ≠ some c)
    (hclock : ClockForward node reader steps s) :
    let u := (runAll node reader steps s).2
    (s.Ended c → u.Ended c) ∧
      (u.Ended c →
        (∀ q : Query, (∃ e, (q.run node reader (some c) u).1 = .error e) ∧
          (q.run node reader (some c) u).2.calls = u.calls) ∧
        (Action.checkContext (some c) u).1 = .error (u.cause c)) ∧
      ((s.contextOf (some c)).cancelled = true → u.Ended c ∧ u.cause c = .cancelled) ∧
      ((s.contexts.lookup c).isSome → .cancel c ∈ steps → u.Ended c ∧ u.cause c = .cancelled) ∧
      (∀ q : Query, (q.run node reader (some c) u).2.Ended c →
        ∃ e, (q.run node reader (some c) u).1 = .error e) ∧
      (s.Untimed c → u.Ended c →
        (s.contextOf (some c)).cancelled = true ∨ .cancel c ∈ steps ∨
          ∃ request, ∃ wire ∈ u.calls.drop s.calls.length, ∃ state,
            node.prepare request = .ok wire ∧
              Effect.cancel c ∈ (node.answer request wire state).1.effects) := by
  intro u
  have hcause (h : (u.contextOf (some c)).cancelled = true) : u.Ended c ∧ u.cause c = .cancelled :=
    ⟨.inl h, by rw [cause, h]; rfl⟩
  refine ⟨ended_runAll hcreated hclock, fun hu => ⟨fun q => q.run_of_ended hn reader hu, ?_⟩,
    fun hs => hcause ((keeps_runAll hcreated s).cancelled hs),
    fun hs hcancel => hcause (cancelled_runAll hcreated hs hcancel), fun q hq => ?_,
    cancelled_of_untimed hcreated hn⟩
  · exact check_of_ended hu
  · cases hr : (q.run node reader (some c) u).1 with
    | error e => exact ⟨e, rfl⟩
    | ok a => exact absurd hq (q.not_ended_of_run hn reader hr)

/-- A node whose every answer takes a second and finds its caller's context cancelled. -/
def hastyNode : Node Unit Unit where
  connect _ _ state := (⟨[], .ok ()⟩, state)
  offers _ _ _ := .ok ()
  accepts _ _ := .ok ()
  prepare _ := .ok ()
  answer _ _ state := (⟨[.advance 1.0, .cancel "c"], .ok (.int 3)⟩, state)

/-- A query in flight past the deadline, on a node that also cancels: the answer is discarded, the context
refuses as cancelled, and so it stays. A context that only its deadline ends refuses for that, and so it
stays. -/
theorem context_ends_for_good_in_flight :
    let s : Session Unit Unit :=
      (Session.start 5.0 ()).putContext "c" (.withDeadline (some (.real 5.5)) CallContext.latest)
    let coordinator : Handle := ⟨"0x000000000000000000000000000000000000c0de", .rewardsCoordinator⟩
    let reader : Reader :=
      ⟨.given, { Bindings.empty with rewardsCoordinator := some coordinator }, .named "reads"⟩
    let t := (runAll hastyNode reader [.ask .distributionRootsLength (some "c")] s).2
    let u := (runAll hastyNode reader [.check "c", .advance 1.0] t).2
    let late := (runAll hastyNode reader [.advance 1.0] s).2
    let later := (runAll hastyNode reader [.advance 1.0, .check "c"] late).2
    (¬ s.Ended "c" ∧ t.calls = [()] ∧
      (∃ e, (Query.distributionRootsLength.run hastyNode reader (some "c") s).1 = .error e) ∧
      t.Ended "c" ∧ u.Ended "c" ∧ u.cause "c" = .cancelled ∧
      ∃ e, (Query.distributionRootsLength.run hastyNode reader (some "c") u).1 = .error e) ∧
    (late.contextOf (some "c")).cancelled = false ∧ late.Ended "c" ∧ later.Ended "c" ∧
      (Action.checkContext (some "c") later).1 = .error .deadlineExceeded ∧
      (∃ e, (Query.distributionRootsLength.run hastyNode reader (some "c") later).1 = .error e) ∧
      (Query.distributionRootsLength.run hastyNode reader (some "c") later).2.calls = [] := by
  intro s coordinator reader t u late later
  have hn : hastyNode.ConnectsAtOnce := fun _ _ _ => rfl
  have ht : ClockForward hastyNode reader [.check "c", .advance 1.0] t :=
    ⟨by decide +kernel, by decide +kernel, trivial⟩
  have atStart := context_ends_for_good hn reader "c" [] s (by decide) trivial
  have after := context_ends_for_good hn reader "c" [.check "c", .advance 1.0] t (by decide) ht
  have cancelled : (t.contextOf (some "c")).cancelled = true := by decide +kernel
  obtain ⟨hu, hcause⟩ := after.2.2.1 cancelled
  have inFlight : (Query.distributionRootsLength.run hastyNode reader (some "c") s).2.Ended "c" := by
    decide +kernel
  -- From here on nobody cancels: the deadline alone has ended the context.
  have hlater : ClockForward hastyNode reader [.advance 1.0, .check "c"] late :=
    ⟨by decide +kernel, by decide +kernel, trivial⟩
  have hlate : late.Ended "c" := by decide +kernel
  obtain ⟨hends, hrefuses, -⟩ :=
    context_ends_for_good hn reader "c" [.advance 1.0, .check "c"] late (by decide) hlater
  obtain ⟨hqueries, hcheck⟩ := hrefuses (hends hlate)
  obtain ⟨hfails, hcalls⟩ := hqueries .distributionRootsLength
  have uncancelled : (later.contextOf (some "c")).cancelled = false := by decide +kernel
  have hlaterCause : later.cause "c" = .deadlineExceeded := by
    rw [cause, uncancelled]
    rfl
  have hnone : later.calls = [] := by decide +kernel
  refine ⟨⟨by decide +kernel, by decide +kernel, ?_, .inl cancelled, hu, hcause, ?_⟩,
    by decide +kernel, hlate, hends hlate, hlaterCause ▸ hcheck, hfails, hcalls.trans hnone⟩
  · exact atStart.2.2.2.2.1 .distributionRootsLength inFlight
  · exact ((after.2.1 hu).1 .distributionRootsLength).1

end Step

end Restaking
