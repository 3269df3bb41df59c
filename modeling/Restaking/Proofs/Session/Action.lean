import Restaking.Proofs.Except
import Restaking.Session

/-!
# What actions do to a session

Equations for the small actions, applied to a session, and the relations that pass from the parts of an
action to the whole: one that is reflexive, transitive and kept by handles and calls is kept by all that
is built from them.
-/
namespace Restaking

variable {ρ σ α β : Type}

namespace Action

theorem ofExcept_pure (a : α) : (ofExcept (pure a) : Action ρ σ α) = pure a := rfl

theorem ofExcept_ok (a : α) : (ofExcept (.ok a) : Action ρ σ α) = pure a := rfl

theorem ofExcept_bind (x : Except Failure α) (f : α → Except Failure β) :
    (ofExcept (x >>= f) : Action ρ σ β) = ofExcept x >>= fun a => ofExcept (f a) := by
  funext s
  rw [bind_apply]
  cases x <;> rfl

theorem ofExcept_map (f : α → β) (x : Except Failure α) :
    (ofExcept (x.map f) : Action ρ σ β) = f <$> ofExcept x := by
  cases x <;> rfl

/-- Of two computations that succeed one after the other, each succeeded. -/
theorem bind_apply_eq_ok {a : Action ρ σ α} {f : α → Action ρ σ β} {s t : Session ρ σ} {b : β}
    (h : (a >>= f) s = (.ok b, t)) : ∃ x u, a s = (.ok x, u) ∧ f x u = (.ok b, t) := by
  rw [bind_apply] at h
  rcases hs : a s with ⟨_ | x, u⟩
  · rw [hs] at h
    cases h
  · rw [hs] at h
    exact ⟨x, u, rfl, h⟩

theorem map_apply (f : α → β) (a : Action ρ σ α) (s : Session ρ σ) :
    (f <$> a) s = ((a s).1.map f, (a s).2) := by
  rw [map_eq_pure_bind, bind_apply]
  rcases a s with ⟨_ | _, t⟩ <;> rfl

theorem mapFailure_apply (f : Failure → Failure) (a : Action ρ σ α) (s : Session ρ σ) :
    a.mapFailure f s = ((a s).1.mapError f, (a s).2) := by
  unfold mapFailure
  rcases a s with ⟨_ | _, t⟩ <;> rfl

/-- A question inside a context, which is checked before it is asked and once more before the answer is
given its shape. -/
def within (context : Option String) (question : Action ρ σ α) (shape : α → Except Failure β) :
    Action ρ σ β := do
  checkContext context
  let x ← question
  checkContext context
  ofExcept (shape x)

theorem within_apply (context : Option String) (question : Action ρ σ α) (shape : α → Except Failure β)
    (s : Session ρ σ) :
    within context question shape s =
      match (s.contextOf context).check s.clock with
      | .error e => (.error e, s)
      | .ok () =>
        match question s with
        | (.error e, t) => (.error e, t)
        | (.ok x, t) => (((t.contextOf context).check t.clock).bind fun _ => shape x, t) := by
  simp only [within, bind_apply, checkContext, ofExcept]
  cases (s.contextOf context).check s.clock with
  | error e => rfl
  | ok u =>
    rcases hq : question s with ⟨_ | x, t⟩
    · simp only [hq]
    · simp only [hq]
      cases (t.contextOf context).check t.clock <;> rfl

/-- A question inside a context is asked or not. -/
theorem within_snd_cases (context : Option String) (question : Action ρ σ α)
    (shape : α → Except Failure β) (s : Session ρ σ) :
    (within context question shape s).2 = s ∨
      (within context question shape s).2 = (question s).2 := by
  rw [within_apply]
  cases (s.contextOf context).check s.clock with
  | error e => exact .inl rfl
  | ok u =>
    right
    rcases question s with ⟨_ | x, t⟩ <;> rfl

/-- Whatever session an action starts in, the relation holds from there to the one that it leaves. -/
def Moves (R : Session ρ σ → Session ρ σ → Prop) (a : Action ρ σ α) : Prop := ∀ s, R s (a s).2

section

variable {R : Session ρ σ → Session ρ σ → Prop}

theorem moves_of_snd_eq (hrefl : ∀ s, R s s) {a : Action ρ σ α} (h : ∀ s, (a s).2 = s) : a.Moves R := by
  intro s
  rw [h s]
  exact hrefl s

theorem Moves.bind (htrans : ∀ s t u, R s t → R t u → R s u) {a : Action ρ σ α}
    {f : α → Action ρ σ β} (ha : a.Moves R) (hf : ∀ x, (f x).Moves R) : (a >>= f).Moves R := by
  intro s
  have first := ha s
  rw [bind_apply]
  rcases hs : a s with ⟨_ | x, t⟩
  · simpa only [hs] using first
  · rw [hs] at first
    exact htrans _ _ _ first (hf x t)

theorem Moves.map {a : Action ρ σ α} (ha : a.Moves R) (f : α → β) : (f <$> a).Moves R := by
  intro s
  rw [map_apply]
  exact ha s

theorem Moves.within (hrefl : ∀ s, R s s) {a : Action ρ σ α} (ha : a.Moves R) (context : Option String)
    (shape : α → Except Failure β) : (within context a shape).Moves R := by
  intro s
  rcases within_snd_cases context a shape s with h | h
  · rw [h]
    exact hrefl s
  · rw [h]
    exact ha s

theorem Moves.mapFailure {a : Action ρ σ α} (ha : a.Moves R) (f : Failure → Failure) :
    (a.mapFailure f).Moves R := by
  intro s
  rw [mapFailure_apply]
  exact ha s

end

end Action

namespace Node

variable (node : Node ρ σ)

/-- The handle that is had is the one that was asked for. -/
theorem handle_eq_ok {address : String} {interface : Interface} {s : Session ρ σ} {h : Handle}
    (hh : (node.handle address interface s).1 = .ok h) : h = ⟨address, interface⟩ := by
  obtain ⟨-, -, rfl⟩ := map_eq_ok hh
  rfl

/-- The session in which a call that went out as `wire` has been answered. -/
def answered (request : Request) (wire : ρ) (s : Session ρ σ) : Session ρ σ :=
  { s with calls := s.calls ++ [wire], node := (node.answer request wire s.node).2 }.applyAll
    (node.answer request wire s.node).1.effects

theorem call_of_prepare_eq_error {request : Request} {e : Failure} (h : node.prepare request = .error e)
    (s : Session ρ σ) : node.call request s = (.error e, s) := by
  simp only [call, h]

theorem call_of_prepare_eq_ok {request : Request} {wire : ρ} (h : node.prepare request = .ok wire)
    (s : Session ρ σ) :
    node.call request s =
      ((node.answer request wire s.node).1.outcome, node.answered request wire s) := by
  simp only [call, h, answered]

/-- A call reads at the block of its context. -/
theorem callWithin_eq_within (context : Option String) (h : Handle) (f : Abi.Function)
    (arguments : List Argument) :
    node.callWithin context h f arguments = Action.within context (do
      let block ← Action.blockOf context
      node.call ⟨h, f, arguments, some block⟩) .ok := by
  simp only [callWithin, Action.within, bind_assoc]
  rfl

/-- One call inside a context, on the session that it starts in. -/
theorem callWithin_apply (context : Option String) (h : Handle) (f : Abi.Function)
    (arguments : List Argument) (s : Session ρ σ) :
    node.callWithin context h f arguments s =
      match (s.contextOf context).check s.clock with
      | .error e => (.error e, s)
      | .ok () =>
        match node.call ⟨h, f, arguments, some (s.contextOf context).block⟩ s with
        | (.error e, t) => (.error e, t)
        | (.ok v, t) => (((t.contextOf context).check t.clock).bind fun _ => .ok v, t) := by
  have asked : (do let block ← Action.blockOf context; node.call ⟨h, f, arguments, some block⟩ :
      Action ρ σ Value) s = node.call ⟨h, f, arguments, some (s.contextOf context).block⟩ s := rfl
  rw [callWithin_eq_within, Action.within_apply, asked]
  cases (s.contextOf context).check s.clock with
  | error e => rfl
  | ok u => rcases node.call ⟨h, f, arguments, some (s.contextOf context).block⟩ s with ⟨_ | v, t⟩ <;> rfl

end Node

end Restaking
