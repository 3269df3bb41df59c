import Restaking.Run
import Restaking.Proofs.Reader.Calls

/-!
# The end of a context

A context ends when it is cancelled or when the clock comes to its deadline. From then on it stays ended,
and nothing more is asked or returned under it. The clock is taken to go forward only, and handles to be had
without time passing; what the contracts answer may cancel contexts and let time pass at will.
-/
namespace Restaking

variable {ρ σ : Type}

namespace Moment

/-- Whether a later reading of the clock is not before an earlier one. Nothing is asked of a clock that
reads as no number. -/
def inOrder (earlier later : Float) : Bool :=
  match ofFloat? earlier, ofFloat? later with
  | some m, some n => m.le n
  | some _, none => false
  | none, _ => true

end Moment

namespace CallContext

/-- There is a deadline, and the clock has come to it. Neither is a point in time if it is not a number, and
then nothing is due. -/
def Due (c : CallContext) (clock : Float) : Prop :=
  ∃ d m n, c.deadline = some d ∧ d.moment? = some m ∧ Moment.ofFloat? clock = some n ∧ m.le n = true

theorem deadlineExceeded_eq_true_iff (c : CallContext) (clock : Float) :
    c.deadlineExceeded clock = true ↔ c.Due clock := by
  unfold deadlineExceeded
  constructor
  · intro h
    split at h
    · rename_i d hd
      unfold Seconds.reached at h
      split at h
      · rename_i m n hm hn
        exact ⟨d, m, n, hd, hm, hn, h⟩
      · cases h
    · cases h
  · rintro ⟨d, m, n, hd, hm, hn, hle⟩
    rw [hd]
    simp only [Seconds.reached, hm, hn, hle]

/-- What was due at a deadline stays due while the clock goes forward. -/
theorem Due.of_inOrder {c c' : CallContext} {x y : Float} (h : c.Due x) (hdeadline : c'.deadline = c.deadline)
    (hxy : Moment.inOrder x y = true) : c'.Due y := by
  obtain ⟨d, m, n, hd, hm, hn, hle⟩ := h
  unfold Moment.inOrder at hxy
  rw [hn] at hxy
  cases hy : Moment.ofFloat? y with
  | none => simp [hy] at hxy
  | some t =>
    simp only [hy] at hxy
    exact ⟨d, m, t, hdeadline.trans hd, hm, hy, Moment.le_trans hle hxy⟩

end CallContext

namespace Session

/-- The named context was cancelled, or the clock has come to its deadline. -/
def Ended (s : Session ρ σ) (c : String) : Prop :=
  (s.contextOf (some c)).cancelled = true ∨ (s.contextOf (some c)).Due s.clock

theorem cancelled_or_deadlineExceeded_iff {s : Session ρ σ} {c : String} :
    (s.contextOf (some c)).cancelled = true ∨ (s.contextOf (some c)).deadlineExceeded s.clock = true ↔
      s.Ended c := by
  rw [Ended, CallContext.deadlineExceeded_eq_true_iff]

instance (s : Session ρ σ) (c : String) : Decidable (s.Ended c) :=
  decidable_of_iff _ cancelled_or_deadlineExceeded_iff

/-- Why a context that has ended refuses. Cancellation comes first. -/
def cause (s : Session ρ σ) (c : String) : Failure :=
  if (s.contextOf (some c)).cancelled then .cancelled else .deadlineExceeded

/-- A context without a deadline, or with one that is no number. -/
def Untimed (s : Session ρ σ) (c : String) : Prop :=
  (s.contextOf (some c)).deadline = none ∨
    ∃ x, (s.contextOf (some c)).deadline = some (.real x) ∧ Decimal.Reading.ofFloat x = .nan

theorem check_of_ended {s : Session ρ σ} {c : String} (h : s.Ended c) :
    (s.contextOf (some c)).check s.clock = .error (s.cause c) := by
  unfold CallContext.check cause
  rcases cancelled_or_deadlineExceeded_iff.2 h with h | h
  · simp [h]
  · cases (s.contextOf (some c)).cancelled <;> simp [h]

theorem not_ended_of_check {s : Session ρ σ} {c : String}
    (h : (s.contextOf (some c)).check s.clock = .ok ()) : ¬ s.Ended c := by
  intro he
  rw [check_of_ended he] at h
  cases h

theorem ended_congr {s t : Session ρ σ} {c : String} (hcontexts : t.contexts = s.contexts)
    (hclock : t.clock = s.clock) : t.Ended c ↔ s.Ended c := by
  simp only [Ended, contextOf, hcontexts, hclock]

/-- Ended contexts stay ended while the clock goes forward. -/
theorem Ended.of_keeps {s t : Session ρ σ} {c : String} (h : s.Ended c) (hkeeps : Keeps c s t)
    (hclock : Moment.inOrder s.clock t.clock = true) : t.Ended c := by
  rcases h with h | h
  · exact .inl (hkeeps.cancelled h)
  · exact .inr (h.of_inOrder hkeeps.deadline_eq hclock)

theorem Untimed.of_keeps {s t : Session ρ σ} {c : String} (h : s.Untimed c) (hkeeps : Keeps c s t) :
    t.Untimed c := by
  rw [Untimed, hkeeps.deadline_eq]
  exact h

/-- Only cancellation ends an untimed context. -/
theorem Untimed.ended_iff {s : Session ρ σ} {c : String} (h : s.Untimed c) :
    s.Ended c ↔ (s.contextOf (some c)).cancelled = true := by
  have never : ¬ (s.contextOf (some c)).Due s.clock := by
    rintro ⟨d, m, n, hd, hm, -⟩
    rcases h with h | ⟨x, h, hx⟩
    · cases h.symm.trans hd
    · cases h.symm.trans hd
      simp [Seconds.moment?, Moment.ofFloat?, hx] at hm
  exact or_iff_left never

end Session

namespace Node

/-- Handles are had at once: while one is made no time passes and nothing is cancelled. -/
def ConnectsAtOnce (node : Node ρ σ) : Prop :=
  ∀ address interface state, (node.connect address interface state).1.effects = []

variable {node : Node ρ σ}

theorem ConnectsAtOnce.handle (h : node.ConnectsAtOnce) (address : String) (interface : Interface)
    (s : Session ρ σ) :
    (node.handle address interface s).2 =
      { s with
        connections := s.connections ++ [(address, interface)],
        node := (node.connect address interface s.node).2 } := by
  simp only [Node.handle, h address interface s.node, Session.applyAll, List.foldl_nil]

/-- Making a handle at once neither ends a context nor revives it. -/
theorem ConnectsAtOnce.ended_handle (h : node.ConnectsAtOnce) (address : String)
    (interface : Interface) (s : Session ρ σ) (c : String) :
    (node.handle address interface s).2.Ended c ↔ s.Ended c := by
  rw [h.handle]
  exact Session.ended_congr rfl rfl

end Node

namespace Action

variable {α β : Type} {question : Action ρ σ α} {shape : α → Except Failure β}

/-- Under a context that has ended nothing is asked. -/
theorem within_of_ended {s : Session ρ σ} {c : String} (he : s.Ended c) :
    within (some c) question shape s = (.error (s.cause c), s) := by
  rw [within_apply, Session.check_of_ended he]

/-- An answer is handed over only if the context has not ended by then. -/
theorem not_ended_of_within {s : Session ρ σ} {c : String} {b : β}
    (hr : (within (some c) question shape s).1 = .ok b) :
    ¬ (within (some c) question shape s).2.Ended c := by
  rw [within_apply] at hr ⊢
  cases hs : (s.contextOf (some c)).check s.clock with
  | error e => simp [hs] at hr
  | ok _ =>
    rcases hq : question s with ⟨e | x, t⟩
    · simp [hs, hq] at hr
    · simp only [hs, hq] at hr ⊢
      obtain ⟨_, hcheck, -⟩ := bind_eq_ok hr
      exact Session.not_ended_of_check hcheck

end Action

namespace Reader

/-- Making a strategy's handle at once ends no context. -/
theorem ended_strategyHandle {node : Node ρ σ} (h : node.ConnectsAtOnce) (v : Value) (s : Session ρ σ)
    (c : String) : (strategyHandle node v s).2.Ended c ↔ s.Ended c := by
  rw [strategyHandle_apply]
  cases Address.ofInput "strategy address" v with
  | error e => exact Iff.rfl
  | ok a => exact h.ended_handle a.text .strategy s c

end Reader

namespace Query

variable {node : Node ρ σ}

/-- A query that starts under a context that has ended fails and calls nothing. -/
theorem run_of_ended (hn : node.ConnectsAtOnce) (reader : Reader) (q : Query) {s : Session ρ σ}
    {c : String} (he : s.Ended c) :
    (∃ e, (q.run node reader (some c) s).1 = .error e) ∧
      (q.run node reader (some c) s).2.calls = s.calls := by
  rcases q.plan_or_strategy with ⟨p, hp⟩ | ⟨v, hv⟩
  · rw [run_eq_plan hp]
    rcases p.run_cases node reader (some c) s with ⟨e, hr⟩ | ⟨h, arguments, _, _, hr⟩
    · rw [hr]
      exact ⟨⟨e, rfl⟩, rfl⟩
    · rw [hr, Action.bind_apply, Node.callWithin_eq_within, Action.within_of_ended he]
      exact ⟨⟨_, rfl⟩, rfl⟩
  · -- The strategy's handle is made first, then the check is met.
    have hcalls := Reader.calls_strategyHandle node v s
    have hended := Reader.ended_strategyHandle hn v s c
    rw [run_eq_lookup hv, Action.bind_apply]
    rcases hs : Reader.strategyHandle node v s with ⟨e | h, t⟩
    · rw [hs] at hcalls
      exact ⟨⟨e, rfl⟩, hcalls⟩
    · rw [hs] at hcalls hended
      simp only [Action.bind_apply, Reader.underlyingTokenAddress_eq_within,
        Action.within_of_ended (hended.2 he)]
      exact ⟨⟨_, rfl⟩, hcalls⟩

theorem ended_finish (hn : node.ConnectsAtOnce) (q : Query) (h : Handle) (token : Address)
    (s : Session ρ σ) (c : String) : (q.finish node h token s).2.Ended c ↔ s.Ended c := by
  cases q
  case strategyAndTokenHandle v =>
    rw [finish, Action.map_apply, Action.mapFailure_apply]
    exact hn.ended_handle token.text .token s c
  all_goals exact Iff.rfl

/-- What a query answers is handed over only if its context has not ended by then. -/
theorem not_ended_of_run (hn : node.ConnectsAtOnce) (reader : Reader) (q : Query) {s : Session ρ σ}
    {c : String} {a : Answer} (hr : (q.run node reader (some c) s).1 = .ok a) :
    ¬ (q.run node reader (some c) s).2.Ended c := by
  rcases q.plan_or_strategy with ⟨p, hp⟩ | ⟨v, hv⟩
  · rw [run_eq_plan hp] at hr ⊢
    rcases p.run_cases node reader (some c) s with ⟨e, hp⟩ | ⟨h, arguments, _, _, hp⟩
    · simp [hp] at hr
    · rw [hp, Action.bind_apply, Node.callWithin_eq_within] at hr ⊢
      generalize hw : Action.within (some c) _ _ s = r at hr ⊢
      rcases r with ⟨e | w, t⟩
      · cases hr
      · have live := Action.not_ended_of_within (congrArg Prod.fst hw)
        rwa [hw] at live
  · rw [run_eq_lookup hv, Action.bind_apply] at hr ⊢
    rcases hs : Reader.strategyHandle node v s with ⟨e | h, t⟩
    · simp [hs] at hr
    · simp only [hs, Action.bind_apply] at hr ⊢
      rcases ht : Reader.underlyingTokenAddress node h (some c) t with ⟨e | token, u⟩
      · simp [ht] at hr
      · rw [Reader.underlyingTokenAddress_eq_within] at ht
        have live := Action.not_ended_of_within (congrArg Prod.fst ht)
        rw [ht] at live
        exact mt (ended_finish hn q h token u c).1 live

end Query

end Restaking
