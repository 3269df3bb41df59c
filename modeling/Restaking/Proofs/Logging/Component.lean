import Restaking.Proofs.Bindings.Build
import Restaking.Proofs.Context.Run

/-!
# The component on a reader's record

A reader logs once, when it is made. Of the adapters around a logger the innermost one decides with which
fields a record arrives, while the reader puts its component on the outermost one: the component arrives where
there is one adapter or none. Under more of them it arrives only if the innermost one has it anyway.
-/
namespace Restaking

variable {ρ σ : Type}

namespace Logging

namespace Logger

/-- The fields of each adapter, the outermost one first. -/
def layers : Logger → List Extra
  | named _ => []
  | adapter inner own => own.getD [] :: inner.layers

/-- The logger inside all adapters. -/
def core : Logger → String
  | named name => name
  | adapter inner _ => inner.core

/-- A record arrives with the fields of the innermost adapter. -/
theorem record_eq (logger : Logger) (level : Level) (message : String) (extra : Option Extra) :
    logger.record level message extra =
      ⟨logger.core, level, message, logger.layers.getLast?.getD (extra.getD [])⟩ := by
  induction logger generalizing extra with
  | named name => rfl
  | adapter inner own ih =>
    -- An adapter drops the fields that it is passed and hands on its own.
    rw [record, ih, layers, List.getLast?_cons, Option.getD_some]
    rfl

theorem layers_tagged (component fallback : String) (given : Option Logger) :
    (tagged component fallback given).layers =
      setField "component" (.text component) ((given.elim [] layers).headD []) ::
        (given.elim [] layers).tail := by
  rcases given with _ | ⟨name | ⟨inner, own⟩⟩ <;> rfl

theorem core_tagged (component fallback : String) (given : Option Logger) :
    (tagged component fallback given).core = given.elim fallback core := by
  rcases given with _ | ⟨name | ⟨inner, own⟩⟩ <;> rfl

theorem lookup_setField_self (name : String) (v : Value) (extra : Extra) :
    (setField name v extra).lookup name = some v := by
  induction extra with
  | nil => rw [setField, List.lookup_cons_self]
  | cons field rest ih =>
    obtain ⟨n, w⟩ := field
    rw [setField]
    by_cases hn : n = name
    · rw [if_pos (beq_iff_eq.2 hn), hn, List.lookup_cons_self]
    · have hne : (name == n) = false := beq_eq_false_iff_ne.2 (Ne.symm hn)
      rw [if_neg (by simpa using hn), List.lookup_cons, hne]
      exact ih

theorem lookup_setField_of_ne {name other : String} (hne : other ≠ name) (v : Value) (extra : Extra) :
    (setField name v extra).lookup other = extra.lookup other := by
  have hother : (other == name) = false := beq_eq_false_iff_ne.2 hne
  induction extra with
  | nil => rw [setField, List.lookup_cons, hother]
  | cons field rest ih =>
    obtain ⟨n, w⟩ := field
    rw [setField]
    by_cases hn : n = name
    · rw [if_pos (beq_iff_eq.2 hn), List.lookup_cons, List.lookup_cons, hn, hother]
    · rw [if_neg (by simpa using hn), List.lookup_cons, List.lookup_cons, ih]

theorem mem_keys_setField_iff {key name : String} {v : Value} {extra : Extra} :
    key ∈ (setField name v extra).map (·.1) ↔ key = name ∨ key ∈ extra.map (·.1) := by
  refine ⟨mem_keys_setField, ?_⟩
  induction extra with
  | nil => simp [setField]
  | cons field rest ih =>
    obtain ⟨n, w⟩ := field
    rw [setField]
    by_cases hn : n = name
    · rw [if_pos (beq_iff_eq.2 hn), ← hn]
      simp
    · rw [if_neg (by simpa using hn), List.map_cons, List.map_cons, List.mem_cons, List.mem_cons]
      rintro (hkey | hkey | hkey)
      · exact .inr (ih (.inl hkey))
      · exact .inl hkey
      · exact .inr (ih (.inr hkey))

end Logger

/-- The fields show the component, and beside it those of `outer`. -/
structure Carries (extra : Extra) (component : String) (outer : Extra) : Prop where
  component : extra.lookup "component" = some (.text component)
  others : ∀ name v, name ≠ "component" → outer.lookup name = some v → extra.lookup name = some v

theorem carries_setField (component : String) (outer : Extra) :
    Carries (Logger.setField "component" (.text component) outer) component outer where
  component := Logger.lookup_setField_self _ _ _
  others _ _ hname hv := (Logger.lookup_setField_of_ne hname _ _).trans hv

/-- The last of the layers, with another one in the place of the first. -/
theorem getLast_layers (first : Extra) (layers : List Extra) :
    (first :: layers.tail).getLast?.getD [] =
      if layers.length ≤ 1 then first else layers.getLast?.getD [] := by
  match layers with
  | [] => rfl
  | [_] => rfl
  | _ :: second :: rest =>
    have hlong : ¬ (rest.length + 1 + 1 ≤ 1) := by omega
    rw [List.length_cons, List.length_cons, if_neg hlong, List.tail_cons, List.getLast?_cons_cons,
      List.getLast?_cons_cons]

end Logging

/-! ## Records of a session -/

theorem Action.Blind.records {α : Type} {a : Action ρ σ α} (h : a.Blind) (s : Session ρ σ) :
    (a s).2.records = s.records :=
  congrArg (fun r => r.2.records) (h s s.records)

theorem Query.records_run (node : Node ρ σ) (reader : Reader) (context : Option String) (q : Query) :
    (q.run node reader context).Moves fun s t => t.records = s.records :=
  moves_run (R := fun s t => t.records = s.records) (fun _ => rfl) (fun _ _ _ hst htu => htu.trans hst) node
    (fun a i => (node.blind_handle a.text i).records) (fun request => (node.blind_call request).records)
    reader context q

theorem Step.records_runAll (node : Node ρ σ) (reader : Reader) (steps : List Step) (s : Session ρ σ) :
    (runAll node reader steps s).2.records = s.records := by
  refine moves_runAll (R := fun s t => t.records = s.records) (fun _ => rfl)
    (fun _ _ _ hst htu => htu.trans hst) (fun step _ => ?_) s
  -- A name under which the step makes no context.
  have hname : ∃ c, step.created? ≠ some c := by
    by_cases h : step.created? = some "a"
    · exact ⟨"b", by rw [h]; decide⟩
    · exact ⟨"a", h⟩
  obtain ⟨c, hc⟩ := hname
  exact moves_run (R := fun s t => t.records = s.records) (fun _ => rfl) (fun _ _ _ _ => rfl) (fun _ _ => rfl)
    (fun q context => q.records_run node reader context) step (fun _ _ _ => rfl) hc

/-! ## Making a reader -/

namespace Reader

open Logging (Logger Extra Record Carries reservedFields)

variable {client : Client} {handles : Bindings} {given : Option Logger} {s t : Session ρ σ} {reader : Reader}

/-- The fields with which a reader's record arrives. -/
def arriving (given : Option Logger) : Extra :=
  let layers := given.elim [] Logger.layers
  if layers.length ≤ 1 then Logger.setField "component" (.text component) (layers.headD [])
  else layers.getLast?.getD []

/-- What a reader logs when it is made. -/
def readyRecord (handles : Bindings) (given : Option Logger) : Record where
  logger := given.elim loggerName Logger.core
  level := .debug
  message := "Chain reader ready, contracts wired: " ++ (Value.list ((wired handles).map .text)).quoted
  extra := arriving given

theorem record_tagged (handles : Bindings) (given : Option Logger) :
    (Logger.tagged component loggerName given).record .debug (readyRecord handles given).message none =
      readyRecord handles given := by
  rw [Logger.record_eq, Logger.core_tagged, Logger.layers_tagged, Option.getD_none, Logging.getLast_layers]
  rfl

/-- A reader is made after its one record. -/
theorem ofBindings_eq (client : Client) (handles : Bindings) (given : Option Logger) :
    (ofBindings client handles given : Action ρ σ Reader) = do
      Action.log (Logger.tagged component loggerName given) .debug (readyRecord handles given).message
      return ⟨client, handles, Logger.tagged component loggerName given⟩ := rfl

theorem ofBindings_of_reserved {name : String} (hr : (readyRecord handles given).reserved? = some name) :
    ofBindings client handles given s = (.error (.reservedField name), s) := by
  rw [ofBindings_eq, Action.bind_apply]
  simp only [Action.log, record_tagged, hr]

theorem ofBindings_of_not_reserved (hr : (readyRecord handles given).reserved? = none) :
    ofBindings client handles given s = (.ok ⟨client, handles, Logger.tagged component loggerName given⟩,
      { s with records := s.records ++ [readyRecord handles given] }) := by
  rw [ofBindings_eq, Action.bind_apply]
  simp only [Action.log, record_tagged, hr, Action.pure_apply]

/-- A reserved field arrives exactly if the innermost adapter has it. -/
theorem mem_arriving_iff {name : String} (hname : name ∈ reservedFields) :
    name ∈ (arriving given).map (·.1) ↔
      name ∈ ((given.elim [] Logger.layers).getLast?.getD []).map (·.1) := by
  have htag : "component" ∉ reservedFields := by decide
  have hne : name ≠ "component" := by
    rintro rfl
    exact htag hname
  unfold arriving
  match given.elim [] Logger.layers with
  | [] =>
    simp only [List.length_nil, Nat.zero_le, if_true, Logger.mem_keys_setField_iff, hne, false_or]
    rfl
  | [only] =>
    simp only [List.length_singleton, Nat.le_refl, if_true, Logger.mem_keys_setField_iff, hne, false_or]
    rfl
  | _ :: second :: rest =>
    have hlong : ¬ (rest.length + 1 + 1 ≤ 1) := by omega
    simp only [List.length_cons, if_neg hlong]

/-- A reader is refused its logger for a reserved field of the innermost adapter, and then nothing has
happened. -/
theorem ofBindings_eq_error {e : Failure} (h : ofBindings client handles given s = (.error e, t)) :
    t = s ∧ ∃ name ∈ ((given.elim [] Logger.layers).getLast?.getD []).map (·.1), name ∈ reservedFields ∧
      e = .reservedField name := by
  cases hr : (readyRecord handles given).reserved? with
  | none =>
    rw [ofBindings_of_not_reserved hr] at h
    cases congrArg Prod.fst h
  | some name =>
    rw [ofBindings_of_reserved hr] at h
    cases h
    have hreserved : name ∈ reservedFields := List.contains_iff_mem.1 (List.find?_some hr)
    have hmem : name ∈ (arriving given).map (·.1) := List.mem_of_find?_eq_some hr
    exact ⟨rfl, name, (mem_arriving_iff hreserved).1 hmem, hreserved, rfl⟩

theorem ofBindings_eq_ok (h : ofBindings client handles given s = (.ok reader, t)) :
    (readyRecord handles given).reserved? = none ∧
      reader = ⟨client, handles, Logger.tagged component loggerName given⟩ ∧
      t = { s with records := s.records ++ [readyRecord handles given] } := by
  cases hr : (readyRecord handles given).reserved? with
  | none =>
    rw [ofBindings_of_not_reserved hr] at h
    cases h
    exact ⟨rfl, rfl, rfl⟩
  | some name =>
    rw [ofBindings_of_reserved hr] at h
    cases congrArg Prod.fst h

theorem exists_ofBindings_eq_ok_iff : (∃ reader t, ofBindings client handles given s = (.ok reader, t)) ↔
    ∀ name ∈ ((given.elim [] Logger.layers).getLast?.getD []).map (·.1), name ∉ reservedFields := by
  constructor
  · rintro ⟨reader, t, h⟩ name hname hreserved
    obtain ⟨hr, -⟩ := ofBindings_eq_ok h
    exact (Logging.reserved?_eq_none_iff _).1 hr name ((mem_arriving_iff hreserved).2 hname) hreserved
  · intro hnone
    rcases h : ofBindings client handles given s with ⟨e | reader, t⟩
    · obtain ⟨-, name, hname, hreserved, -⟩ := ofBindings_eq_error h
      exact absurd hreserved (hnone name hname)
    · exact ⟨reader, t, rfl⟩

/-- The component and the other fields of the outermost adapter arrive where no more than one adapter is, and
otherwise only if the innermost one has them itself. -/
theorem carries_arriving_iff :
    let layers := given.elim [] Logger.layers
    Carries (arriving given) component (layers.headD []) ↔
      layers.length ≤ 1 ∨ Carries (layers.getLast?.getD []) component (layers.headD []) := by
  intro layers
  by_cases hshort : layers.length ≤ 1
  · have harriving : arriving given = Logger.setField "component" (.text component) (layers.headD []) :=
      if_pos hshort
    rw [harriving]
    exact iff_of_true (Logging.carries_setField component _) (.inl hshort)
  · have harriving : arriving given = layers.getLast?.getD [] := if_neg hshort
    rw [harriving, or_iff_right hshort]

/-! ## Every way to make a reader -/

section

variable {node : Node ρ σ} {defaults : Settings} {config : ReaderConfig} {settings : Option Settings}
  {delegationManager avsDirectory : Value} {client : Option Client}

theorem made_of_ofBindings {client : Client} {handles : Bindings} {u : Session ρ σ}
    (h : ofBindings client handles given u = (.ok reader, t)) :
    ∃ u, ofBindings reader.client reader.handles given u = (.ok reader, t) := by
  obtain ⟨-, rfl, -⟩ := ofBindings_eq_ok h
  exact ⟨u, h⟩

theorem made_of_ofConfig (h : ofConfig node defaults config client given s = (.ok reader, t)) :
    ∃ u, ofBindings reader.client reader.handles given u = (.ok reader, t) := by
  obtain ⟨handles, u, -, hmade⟩ := Action.bind_apply_eq_ok h
  exact made_of_ofBindings hmade

theorem made_of_ofSettings (h : ofSettings node defaults settings client given s = (.ok reader, t)) :
    ∃ u, ofBindings reader.client reader.handles given u = (.ok reader, t) := by
  obtain ⟨config, u, -, hmade⟩ := Action.bind_apply_eq_ok h
  exact made_of_ofConfig hmade

theorem made_of_ofTwoAddresses
    (h : ofTwoAddresses node defaults delegationManager avsDirectory client given s = (.ok reader, t)) :
    ∃ u, ofBindings reader.client reader.handles given u = (.ok reader, t) := by
  obtain ⟨_, u, -, hwarned⟩ := Action.bind_apply_eq_ok h
  obtain ⟨handles, w, -, hmade⟩ := Action.bind_apply_eq_ok hwarned
  exact made_of_ofBindings hmade

end

/-- A reader logs one record, when it is made, and its accessors log none. The record has the component and
the other fields of the outermost adapter if there is one adapter or none; under more of them it has what the
innermost one has. A reader is made unless the innermost adapter has a field that records have of their own,
and then nothing is logged. Whichever way readers are made, they log alike. -/
theorem component_survives_one_adapter (given : Option Logger) :
    let layers := given.elim [] Logger.layers
    let outer := layers.headD []
    let inner := layers.getLast?.getD []
    (Carries (arriving given) component outer ↔ layers.length ≤ 1 ∨ Carries inner component outer) ∧
    ∀ {ρ σ : Type} (s : Session ρ σ),
      (∀ client handles,
        (∀ reader t, ofBindings client handles given s = (.ok reader, t) →
          t = { s with records := s.records ++ [readyRecord handles given] } ∧
          ∀ (node : Node ρ σ) steps, (Step.runAll node reader steps t).2.records = t.records) ∧
        ((∃ reader t, ofBindings client handles given s = (.ok reader, t)) ↔
          ∀ name ∈ inner.map (·.1), name ∉ reservedFields) ∧
        ∀ e t, ofBindings client handles given s = (.error e, t) →
          t = s ∧ ∃ name ∈ inner.map (·.1), name ∈ reservedFields ∧ e = .reservedField name) ∧
      ∀ (node : Node ρ σ) defaults client reader t,
        ((∃ config, ofConfig node defaults config client given s = (.ok reader, t)) ∨
          (∃ settings, ofSettings node defaults settings client given s = (.ok reader, t)) ∨
          ∃ delegationManager avsDirectory,
            ofTwoAddresses node defaults delegationManager avsDirectory client given s = (.ok reader, t)) →
        ∃ u, ofBindings reader.client reader.handles given u = (.ok reader, t) := by
  intro layers outer inner
  refine ⟨carries_arriving_iff, fun s => ⟨fun client handles => ⟨fun reader t h => ⟨?_, fun node steps => ?_⟩,
    exists_ofBindings_eq_ok_iff, fun e t h => ofBindings_eq_error h⟩, ?_⟩⟩
  · exact (ofBindings_eq_ok h).2.2
  · exact Step.records_runAll node reader steps t
  · intro node defaults client reader t hmade
    rcases hmade with ⟨config, h⟩ | ⟨settings, h⟩ | ⟨manager, directory, h⟩
    · exact made_of_ofConfig h
    · exact made_of_ofSettings h
    · exact made_of_ofTwoAddresses h

/-- An adapter with a component of its own, whose other field stays; and two adapters, the inner one of which
has all that is to arrive. -/
theorem component_survives_one_adapter_tagged :
    let service : Extra := [("component", .text "host"), ("service", .text "avs")]
    let one : Logger := .adapter (.named "host.app") (some service)
    let two : Logger := .adapter (.adapter (.named "host.app") (some [("component", .text component)])) none
    let s : Session Unit Unit := .start 0.0 ()
    (∃ reader t, ofBindings .given .empty (some one) s = (.ok reader, t) ∧
      t.records = [readyRecord .empty (some one)]) ∧
    Carries (readyRecord .empty (some one)).extra component service ∧
    Carries (readyRecord .empty (some two)).extra component [] := by
  intro service one two s
  obtain ⟨hcarries, hmade⟩ := component_survives_one_adapter (some one)
  obtain ⟨hrecord, hnone, -⟩ := (hmade s).1 .given .empty
  have hinner : ∀ name ∈ service.map (·.1), name ∉ reservedFields := by decide
  refine ⟨?_, hcarries.2 (.inl (Nat.le_refl 1)), (component_survives_one_adapter (some two)).1.2 (.inr ?_)⟩
  · obtain ⟨reader, t, h⟩ := hnone.2 hinner
    obtain ⟨rfl, -⟩ := hrecord reader t h
    exact ⟨reader, _, h, rfl⟩
  · exact ⟨rfl, nofun⟩

/-- Of two adapters the outer one's field and the component are lost, and with a reserved field there is no
record at all. -/
theorem nested_adapter_loses_component :
    let nested : Logger :=
      .adapter (.adapter (.named "host.app") (some [("service", .text "avs")]))
        (some [("request", .text "7")])
    let reserved : Logger := .adapter (.named "host.app") (some [("message", .text "x")])
    let s : Session Unit Unit := .start 0.0 ()
    (∃ reader t record, ofBindings .given .empty (some nested) s = (.ok reader, t) ∧ t.records = [record] ∧
      record.extra.lookup "component" = none ∧ record.extra.lookup "request" = none) ∧
    ofBindings .given .empty (some reserved) s = (.error (.reservedField "message"), s) := by
  intro nested reserved s
  exact ⟨⟨_, _, _, rfl, rfl, rfl, rfl⟩, rfl⟩

end Reader

end Restaking
