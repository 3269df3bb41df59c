/-!
# Computations that may fail

When a computation of several parts succeeds, its parts did; in a list, the first member that fails decides.
A computation fails as a list of stages does when the first stage that fails gives its failure, if any does.
-/
namespace Restaking

variable {α β ε : Type}

theorem map_eq_ok {f : α → β} {x : Except ε α} {b : β} (h : x.map f = .ok b) :
    ∃ a, x = .ok a ∧ f a = b := by
  cases x with
  | error e => cases h
  | ok a => exact ⟨a, rfl, Except.ok.inj h⟩

theorem mapError_eq_ok {δ : Type} {f : ε → δ} {x : Except ε α} {a : α} (h : x.mapError f = .ok a) :
    x = .ok a := by
  cases x with
  | error e => cases h
  | ok b =>
    cases h
    rfl

theorem mapError_eq_error {δ : Type} {f : ε → δ} {x : Except ε α} {d : δ} (h : x.mapError f = .error d) :
    ∃ e, x = .error e ∧ f e = d := by
  cases x with
  | error e => exact ⟨e, rfl, Except.error.inj h⟩
  | ok a => cases h

theorem map_eq_error {f : α → β} {x : Except ε α} {e : ε} (h : x.map f = .error e) : x = .error e := by
  cases x with
  | error e => exact congrArg Except.error (Except.error.inj h)
  | ok a => cases h

theorem bind_eq_ok {x : Except ε α} {f : α → Except ε β} {b : β} (h : (x >>= f) = .ok b) :
    ∃ a, x = .ok a ∧ f a = .ok b := by
  cases x with
  | error e => cases h
  | ok a => exact ⟨a, rfl, h⟩

variable {f : α → Except ε β}

theorem mapM_eq_ok_iff {xs : List α} {ys : List β} : xs.mapM f = .ok ys ↔ xs.map f = ys.map .ok := by
  induction xs generalizing ys with
  | nil =>
    constructor
    · intro h
      cases h
      rfl
    · intro h
      rw [List.map_nil, eq_comm, List.map_eq_nil_iff] at h
      rw [h]
      rfl
  | cons x xs ih =>
    rw [List.mapM_cons]
    constructor
    · intro h
      obtain ⟨y, hy, h⟩ := bind_eq_ok h
      obtain ⟨zs, hzs, h⟩ := bind_eq_ok h
      cases h
      rw [List.map_cons, List.map_cons, hy, ih.1 hzs]
    · intro h
      cases ys with
      | nil => cases h
      | cons y ys =>
        obtain ⟨hx, hxs⟩ := List.cons.inj h
        rw [hx, ih.2 hxs]
        rfl

theorem mapM_eq_error {before : List α} {x : α} {e : ε} (hbefore : ∀ y ∈ before, ∃ b, f y = .ok b)
    (hx : f x = .error e) (after : List α) : (before ++ x :: after).mapM f = .error e := by
  induction before with
  | nil =>
    rw [List.nil_append, List.mapM_cons, hx]
    rfl
  | cons y rest ih =>
    obtain ⟨b, hy⟩ := hbefore y (by simp)
    rw [List.cons_append, List.mapM_cons, hy, ih fun z hz => hbefore z (by simp [hz])]
    rfl

/-- Each result of a list comes from a member. -/
theorem exists_of_mem_mapM {xs : List α} {ys : List β} (h : xs.mapM f = .ok ys) {y : β} (hy : y ∈ ys) :
    ∃ x ∈ xs, f x = .ok y := by
  have hmem : Except.ok y ∈ xs.map f := mapM_eq_ok_iff.1 h ▸ List.mem_map_of_mem hy
  exact List.mem_map.1 hmem

/-- What takes each result back to its member takes the list back. -/
theorem map_eq_of_mapM {xs : List α} {ys : List β} {g : β → α} (h : xs.mapM f = .ok ys)
    (hg : ∀ x ∈ xs, ∀ y, f x = .ok y → g y = x) : ys.map g = xs := by
  have h := mapM_eq_ok_iff.1 h
  induction xs generalizing ys with
  | nil =>
    rw [List.map_nil, eq_comm, List.map_eq_nil_iff] at h
    rw [h, List.map_nil]
  | cons x xs ih =>
    cases ys with
    | nil => cases h
    | cons y ys =>
      obtain ⟨hx, hxs⟩ := List.cons.inj h
      rw [List.map_cons, hg x (by simp) y hx,
        ih (mapM_eq_ok_iff.2 hxs) (fun z hz => hg z (by simp [hz])) hxs]

/-! ## Stages of a computation -/

/-- A computation of which only the failure matters. -/
def stage (x : Except ε α) : Except ε Unit := x.map fun _ => ()

/-- The failure of the first stage that fails. -/
def settle : List (Except ε Unit) → Except ε Unit
  | [] => .ok ()
  | x :: rest => x >>= fun _ => settle rest

theorem settle_append (xs ys : List (Except ε Unit)) :
    settle (xs ++ ys) = settle xs >>= fun _ => settle ys := by
  induction xs with
  | nil => rfl
  | cons x rest ih =>
    rw [List.cons_append, settle, settle, ih]
    cases x <;> rfl

theorem settle_eq_ok_iff {stages : List (Except ε Unit)} :
    settle stages = .ok () ↔ ∀ x ∈ stages, x = .ok () := by
  induction stages with
  | nil => exact iff_of_true rfl (by simp)
  | cons x rest ih =>
    rw [settle, List.forall_mem_cons, ← ih]
    cases x with
    | error e => exact iff_of_false nofun fun h => nomatch h.1
    | ok u => exact (and_iff_right rfl).symm

theorem settle_of_error {before : List (Except ε Unit)} (hbefore : ∀ x ∈ before, x = .ok ())
    (e : ε) (after : List (Except ε Unit)) : settle (before ++ .error e :: after) = .error e := by
  rw [settle_append, settle_eq_ok_iff.2 hbefore]
  rfl

/-- Either no stage fails, or one of them is the first to fail. -/
theorem all_ok_or_first_error (stages : List (Except ε Unit)) : (∀ x ∈ stages, x = .ok ()) ∨
    ∃ before e after, stages = before ++ .error e :: after ∧ ∀ x ∈ before, x = .ok () := by
  induction stages with
  | nil => exact .inl (by simp)
  | cons x rest ih =>
    cases x with
    | error e => exact .inr ⟨[], e, rest, rfl, by simp⟩
    | ok u =>
      rcases ih with hrest | ⟨before, e, after, rfl, hbefore⟩
      · exact .inl (List.forall_mem_cons.2 ⟨rfl, hrest⟩)
      · exact .inr ⟨.ok u :: before, e, after, rfl, List.forall_mem_cons.2 ⟨rfl, hbefore⟩⟩

variable {x : Except ε α} {xs ys stages before after : List (Except ε Unit)} {e : ε}

/-- The computation fails as the stages do, one after the other. -/
def FailsAs (x : Except ε α) (stages : List (Except ε Unit)) : Prop := stage x = settle stages

theorem failsAs_ok (a : α) : FailsAs (.ok a : Except ε α) [] := rfl

theorem failsAs_stage (x : Except ε α) : FailsAs x [stage x] := by
  cases x <;> rfl

theorem FailsAs.bind {f : α → Except ε β} (hx : FailsAs x xs)
    (hf : ∀ a, x = .ok a → FailsAs (f a) ys) : FailsAs (x >>= f) (xs ++ ys) := by
  rw [FailsAs, settle_append, ← hx]
  cases x with
  | error e => rfl
  | ok a => exact hf a rfl

theorem FailsAs.map (hx : FailsAs x xs) (g : α → β) :
    FailsAs (x >>= fun a => .ok (g a)) xs := by
  have h := hx.bind fun a _ => failsAs_ok (g a)
  rwa [List.append_nil] at h

theorem FailsAs.mapM {f : α → Except ε β} {each : α → List (Except ε Unit)}
    (h : ∀ x, FailsAs (f x) (each x)) (xs : List α) : FailsAs (xs.mapM f) (xs.flatMap each) := by
  induction xs with
  | nil => exact failsAs_ok []
  | cons x xs ih =>
    rw [List.mapM_cons, List.flatMap_cons]
    exact (h x).bind fun y _ => ih.map fun ys => y :: ys

theorem FailsAs.exists_ok_iff (h : FailsAs x stages) :
    (∃ a, x = .ok a) ↔ ∀ y ∈ stages, y = .ok () := by
  rw [← settle_eq_ok_iff, ← h]
  cases x with
  | error e => exact iff_of_false (fun ⟨a, ha⟩ => nomatch ha) nofun
  | ok a => exact iff_of_true ⟨a, rfl⟩ rfl

theorem FailsAs.eq_error (h : FailsAs x (before ++ .error e :: after))
    (hbefore : ∀ y ∈ before, y = .ok ()) : x = .error e := by
  rw [FailsAs, settle_of_error hbefore] at h
  exact map_eq_error h

/-- What ends in a failure fails for the first stage before it that does, or else with that failure. -/
theorem FailsAs.eq_first_error (h : FailsAs x (stages ++ [.error e])) :
    (∃ before first after, stages = before ++ .error first :: after ∧ (∀ y ∈ before, y = .ok ()) ∧
      x = .error first) ∨
      (∀ y ∈ stages, y = .ok ()) ∧ x = .error e := by
  rcases all_ok_or_first_error stages with hall | ⟨before, first, after, rfl, hbefore⟩
  · exact .inr ⟨hall, h.eq_error hall⟩
  · rw [List.append_assoc, List.cons_append] at h
    exact .inl ⟨before, first, after, rfl, hbefore, h.eq_error hbefore⟩

end Restaking
