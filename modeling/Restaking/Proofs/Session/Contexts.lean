import Restaking.Proofs.Session.Action

/-!
# What becomes of contexts

Beside the caller, only the effects of a reply touch contexts, and they only cancel. So what is found under
a name stays there, perhaps cancelled, whatever the node answers.
-/
namespace Restaking

variable {ρ σ : Type}

namespace Session

theorem lookup_map_cancel (name c : String) (contexts : List (String × CallContext)) :
    (contexts.map fun e => if e.1 == name then (e.1, e.2.cancel) else e).lookup c =
      (contexts.lookup c).map fun x => if c == name then x.cancel else x := by
  induction contexts with
  | nil => rfl
  | cons e rest ih =>
    obtain ⟨key, x⟩ := e
    by_cases hc : c = key
    · subst hc
      by_cases hn : c = name <;> simp [hn]
    · have hne : (c == key) = false := by simpa using hc
      have hkey : (if key == name then (key, x.cancel) else (key, x)).1 = key := by split <;> rfl
      rw [List.map_cons, List.lookup_cons, List.lookup_cons, hkey, hne]
      exact ih

theorem lookup_filter_ne {name c : String} (hc : c ≠ name) (contexts : List (String × CallContext)) :
    (contexts.filter fun e => e.1 != name).lookup c = contexts.lookup c := by
  induction contexts with
  | nil => rfl
  | cons e rest ih =>
    obtain ⟨key, x⟩ := e
    by_cases hk : key = name
    · have hne : (c == key) = false := by simpa [hk] using hc
      rw [List.filter_cons_of_neg (by simp [hk]), List.lookup_cons, hne, ih]
    · rw [List.filter_cons_of_pos (by simpa using hk), List.lookup_cons, List.lookup_cons, ih]

/-- The context under a name is the same, perhaps cancelled since. -/
def Keeps (c : String) (s t : Session ρ σ) : Prop :=
  ∃ b, t.contexts.lookup c = (s.contexts.lookup c).map fun x => { x with cancelled := x.cancelled || b }

/-- The context under a name is exactly the same. -/
def Same (c : String) (s t : Session ρ σ) : Prop := t.contexts.lookup c = s.contexts.lookup c

theorem Same.keeps {c : String} {s t : Session ρ σ} (h : Same c s t) : Keeps c s t :=
  ⟨false, by rw [h]; simp⟩

theorem keeps_refl (c : String) (s : Session ρ σ) : Keeps c s s := Same.keeps rfl

theorem keeps_trans {c : String} (s t u : Session ρ σ) (hst : Keeps c s t) (htu : Keeps c t u) :
    Keeps c s u := by
  obtain ⟨b, hb⟩ := hst
  obtain ⟨d, hd⟩ := htu
  refine ⟨b || d, ?_⟩
  rw [hd, hb, Option.map_map]
  simp [Function.comp_def, Bool.or_assoc]

theorem Keeps.deadline_eq {c : String} {s t : Session ρ σ} (h : Keeps c s t) :
    (t.contextOf (some c)).deadline = (s.contextOf (some c)).deadline := by
  obtain ⟨b, hb⟩ := h
  simp only [contextOf, hb]
  cases s.contexts.lookup c <;> rfl

theorem Keeps.block_eq {c : String} {s t : Session ρ σ} (h : Keeps c s t) :
    (t.contextOf (some c)).block = (s.contextOf (some c)).block := by
  obtain ⟨b, hb⟩ := h
  simp only [contextOf, hb]
  cases s.contexts.lookup c <;> rfl

theorem Keeps.cancelled {c : String} {s t : Session ρ σ} (h : Keeps c s t)
    (hs : (s.contextOf (some c)).cancelled = true) : (t.contextOf (some c)).cancelled = true := by
  obtain ⟨b, hb⟩ := h
  simp only [contextOf, hb] at hs ⊢
  cases hl : s.contexts.lookup c with
  | none => simp only [hl] at hs; exact hs
  | some x =>
    simp only [hl, Option.getD_some] at hs
    simp [hs]

theorem lookup_cancel (c name : String) (s : Session ρ σ) :
    (s.cancel name).contexts.lookup c =
      (s.contexts.lookup c).map fun x => if c == name then x.cancel else x :=
  lookup_map_cancel name c s.contexts

theorem keeps_cancel (c name : String) (s : Session ρ σ) : Keeps c s (s.cancel name) := by
  refine ⟨c == name, ?_⟩
  rw [lookup_cancel]
  cases s.contexts.lookup c with
  | none => rfl
  | some x =>
    cases hc : c == name with
    | false => simp
    | true => simp [CallContext.cancel]

theorem same_cancel {c name : String} (hc : c ≠ name) (s : Session ρ σ) : Same c s (s.cancel name) := by
  have hne : (c == name) = false := by simpa using hc
  rw [Same, lookup_cancel, hne]
  simp

theorem same_putContext {c name : String} (hc : c ≠ name) (x : CallContext) (s : Session ρ σ) :
    Same c s (s.putContext name x) := by
  have hne : (c == name) = false := by simpa using hc
  simp only [Same, putContext, List.lookup_cons, hne, lookup_filter_ne hc]

/-- A context that is there is cancelled by `cancel`. -/
theorem cancelled_cancel {c : String} {s : Session ρ σ} (hs : (s.contexts.lookup c).isSome) :
    ((s.cancel c).contextOf (some c)).cancelled = true := by
  obtain ⟨x, hx⟩ := Option.isSome_iff_exists.1 hs
  rw [contextOf, lookup_cancel, hx]
  simp [CallContext.cancel]

theorem Keeps.isSome {c : String} {s t : Session ρ σ} (h : Keeps c s t)
    (hs : (s.contexts.lookup c).isSome) : (t.contexts.lookup c).isSome := by
  obtain ⟨b, hb⟩ := h
  rw [hb, Option.isSome_map]
  exact hs

theorem keeps_applyAll (c : String) (effects : List Effect) (s : Session ρ σ) :
    Keeps c s (s.applyAll effects) := by
  induction effects generalizing s with
  | nil => exact keeps_refl c s
  | cons e rest ih =>
    have first : Keeps c s (s.apply e) := by
      cases e with
      | advance seconds => exact keeps_refl c s
      | cancel name => exact keeps_cancel c name s
    exact keeps_trans _ _ _ first (ih _)

theorem same_applyAll {c : String} {effects : List Effect} (hc : Effect.cancel c ∉ effects)
    (s : Session ρ σ) : Same c s (s.applyAll effects) := by
  induction effects generalizing s with
  | nil => rfl
  | cons e rest ih =>
    rw [List.mem_cons, not_or] at hc
    have first : Same c s (s.apply e) := by
      cases e with
      | advance seconds => rfl
      | cancel name =>
        refine same_cancel ?_ s
        rintro rfl
        exact hc.1 rfl
    exact (ih hc.2 _).trans first

/-- Effects leave what was asked, the handles that were wished for and the node alone. -/
theorem calls_applyAll (effects : List Effect) (s : Session ρ σ) :
    (s.applyAll effects).calls = s.calls := by
  induction effects generalizing s with
  | nil => rfl
  | cons e rest ih =>
    have first : (s.apply e).calls = s.calls := by cases e <;> rfl
    exact (ih _).trans first

theorem connections_applyAll (effects : List Effect) (s : Session ρ σ) :
    (s.applyAll effects).connections = s.connections := by
  induction effects generalizing s with
  | nil => rfl
  | cons e rest ih =>
    have first : (s.apply e).connections = s.connections := by cases e <;> rfl
    exact (ih _).trans first

theorem node_applyAll (effects : List Effect) (s : Session ρ σ) : (s.applyAll effects).node = s.node := by
  induction effects generalizing s with
  | nil => rfl
  | cons e rest ih =>
    have first : (s.apply e).node = s.node := by cases e <;> rfl
    exact (ih _).trans first

end Session

namespace Node

open Session

variable (node : Node ρ σ)

theorem calls_handle (address : String) (interface : Interface) (s : Session ρ σ) :
    (node.handle address interface s).2.calls = s.calls := calls_applyAll _ _

theorem node_handle (address : String) (interface : Interface) (s : Session ρ σ) :
    (node.handle address interface s).2.node = (node.connect address interface s.node).2 :=
  node_applyAll _ _

theorem calls_answered (request : Request) (wire : ρ) (s : Session ρ σ) :
    (node.answered request wire s).calls = s.calls ++ [wire] := calls_applyAll _ _

theorem connections_handle (address : String) (interface : Interface) (s : Session ρ σ) :
    (node.handle address interface s).2.connections = s.connections ++ [(address, interface)] :=
  connections_applyAll _ _

theorem connections_call (request : Request) (s : Session ρ σ) :
    (node.call request s).2.connections = s.connections := by
  cases h : node.prepare request with
  | error e => rw [call_of_prepare_eq_error node h]
  | ok wire =>
    rw [call_of_prepare_eq_ok node h]
    exact connections_applyAll _ _

theorem node_answered (request : Request) (wire : ρ) (s : Session ρ σ) :
    (node.answered request wire s).node = (node.answer request wire s.node).2 := node_applyAll _ _

theorem moves_handle_keeps (c address : String) (interface : Interface) :
    (node.handle address interface).Moves (Keeps c) :=
  fun s => keeps_applyAll c _ { s with
    connections := s.connections ++ [(address, interface)],
    node := (node.connect address interface s.node).2 }

theorem moves_call_keeps (c : String) (request : Request) : (node.call request).Moves (Keeps c) := by
  intro s
  cases h : node.prepare request with
  | error e => rw [call_of_prepare_eq_error node h]; exact keeps_refl c s
  | ok wire => rw [call_of_prepare_eq_ok node h]; exact keeps_applyAll c _ _

end Node

end Restaking
