import Restaking.Proofs.Except
import Restaking.Node.Direct
import Restaking.Proofs.Reader.Pipeline

/-!
# Answers by position and by name

`Presents` tells which fields an answer gives and leaves open how they are laid out: behind one another in a
list or a tuple, or under their names in a mapping. Roots and operators are shown to depend on the fields
alone, and where some are missing, on how many there are. A root reads and converts its fields one by one. An
operator reads both of its fields before it converts one, so that there a missing window is found before an
approver that is no address.
-/
namespace Restaking

variable {ρ σ : Type}

namespace Value

/-- The answer gives `fields`, which are the first ones of those called `names`, and gives no more of these. A
sequence has them behind `skipped` others, and more may follow only if none is missing. A mapping has them
under their names, in any order and beside any others. -/
inductive Presents (skipped : Nat) (names : List String) (fields : List Value) : Value → Prop where
  | list {xs more : List Value} : xs.drop skipped = fields ++ more →
    (fields.length < names.length → more = []) → Presents skipped names fields (.list xs)
  | tuple {xs more : List Value} : xs.drop skipped = fields ++ more →
    (fields.length < names.length → more = []) → Presents skipped names fields (.tuple xs)
  | mapping {entries : List (String × Value)} :
    (∀ (i : Nat) (name : String), names[i]? = some name → entries.lookup name = fields[i]?) →
    Presents skipped names fields (.mapping entries)

/-- What a field is refused with that the answer does not give. -/
def absent (name : String) : Value → FieldError
  | list _ => .listTooShort
  | tuple _ => .tupleTooShort
  | _ => .missing name

variable {skipped i : Nat} {names : List String} {fields : List Value} {name : String} {answer : Value}

theorem getElem?_of_drop {xs more : List Value} (hxs : xs.drop skipped = fields ++ more)
    (hmore : fields.length < names.length → more = []) (hi : i < names.length) :
    xs[skipped + i]? = fields[i]? := by
  rw [← List.getElem?_drop, hxs]
  by_cases hlt : i < fields.length
  · exact List.getElem?_append_left hlt
  · have hshort : fields.length < names.length := by omega
    rw [hmore hshort, List.append_nil]

theorem field_eq_ok {v : Value} (h : Presents skipped names fields answer) (hname : names[i]? = some name)
    (hv : fields[i]? = some v) : answer.field (skipped + i) name = .ok v := by
  obtain ⟨hi, -⟩ := List.getElem?_eq_some_iff.1 hname
  cases h with
  | list hxs hmore => rw [field, getElem?_of_drop hxs hmore hi, hv]
  | tuple hxs hmore => rw [field, getElem?_of_drop hxs hmore hi, hv]
  | mapping hentries => simp only [field, named, hentries i name hname, hv]

theorem field_eq_error (h : Presents skipped names fields answer) (hname : names[i]? = some name)
    (hv : fields[i]? = none) : answer.field (skipped + i) name = .error (answer.absent name) := by
  obtain ⟨hi, -⟩ := List.getElem?_eq_some_iff.1 hname
  cases h with
  | list hxs hmore =>
    rw [field, getElem?_of_drop hxs hmore hi, hv]
    rfl
  | tuple hxs hmore =>
    rw [field, getElem?_of_drop hxs hmore hi, hv]
    rfl
  | mapping hentries =>
    simp only [field, named, hentries i name hname, hv]
    rfl

end Value

section

variable {α β : Type} {read : Except FieldError Value} {v : Value} {e : FieldError}
  {convert : Value → Except Failure β} {f : β → Except Failure α} {stages : List (Except Failure Unit)}

theorem failsAs_of_field (hread : read = .ok v) (hf : ∀ b, FailsAs (f b) stages) :
    FailsAs (ofField read >>= fun v => convert v >>= f) (stage (convert v) :: stages) := by
  rw [hread]
  exact (failsAs_stage (convert v)).bind fun b _ => hf b

theorem failsAs_of_absent {f : Value → Except Failure α} (hread : read = .error e) :
    FailsAs (ofField read >>= f) [.error (.field e)] := by
  rw [hread]
  rfl

end

/-! ## Roots -/

open Value (Presents)

namespace DistributionRoot

def names : List String := ["root", "rewardsCalculationEndTimestamp", "activatedAt", "disabled"]

/-- What is made of the four fields. -/
def ofFields (root calculationEnd activatedAt disabled : Value) : Except Failure DistributionRoot := do
  let root ← ofConversion root.toBytes
  let calculationEnd ← ofConversion calculationEnd.toInteger
  let activatedAt ← ofConversion activatedAt.toInteger
  return ⟨root, calculationEnd, activatedAt, disabled.truth⟩

/-- The conversions of the fields that there are, in order. A truth value is had from any value. -/
def conversions (fields : List Value) : List (Except Failure Unit) :=
  List.zipWith (fun convert v => convert v)
    [fun v => stage (ofConversion v.toBytes), fun v => stage (ofConversion v.toInteger),
      fun v => stage (ofConversion v.toInteger), fun _ => .ok ()] fields

variable {answer : Value} {fields : List Value} {name : String}

theorem ofAnswer_of_presents {root calculationEnd activatedAt disabled : Value}
    (h : Presents 0 names [root, calculationEnd, activatedAt, disabled] answer) :
    ofAnswer answer = ofFields root calculationEnd activatedAt disabled := by
  have hroot : answer.field 0 "root" = .ok root := Value.field_eq_ok h (i := 0) rfl rfl
  have hend : answer.field 1 "rewardsCalculationEndTimestamp" = .ok calculationEnd :=
    Value.field_eq_ok h (i := 1) rfl rfl
  have hactivated : answer.field 2 "activatedAt" = .ok activatedAt :=
    Value.field_eq_ok h (i := 2) rfl rfl
  have hdisabled : answer.field 3 "disabled" = .ok disabled := Value.field_eq_ok h (i := 3) rfl rfl
  unfold ofAnswer
  rw [hroot, hend, hactivated, hdisabled]
  rfl

theorem failsAs_ofAnswer (h : Presents 0 names fields answer) (hname : names[fields.length]? = some name) :
    FailsAs (ofAnswer answer) (conversions fields ++ [.error (.field (answer.absent name))]) := by
  -- At each field either it is the missing one, or it is converted and the next one is looked at.
  match fields with
  | [] =>
    cases hname
    exact failsAs_of_absent (Value.field_eq_error h (i := 0) rfl rfl)
  | root :: fields =>
    refine failsAs_of_field (Value.field_eq_ok h (i := 0) rfl rfl) fun _ => ?_
    match fields with
    | [] =>
      cases hname
      exact failsAs_of_absent (Value.field_eq_error h (i := 1) rfl rfl)
    | calculationEnd :: fields =>
      refine failsAs_of_field (Value.field_eq_ok h (i := 1) rfl rfl) fun _ => ?_
      match fields with
      | [] =>
        cases hname
        exact failsAs_of_absent (Value.field_eq_error h (i := 2) rfl rfl)
      | activatedAt :: fields =>
        refine failsAs_of_field (Value.field_eq_ok h (i := 2) rfl rfl) fun _ => ?_
        match fields with
        | [] =>
          cases hname
          exact failsAs_of_absent (Value.field_eq_error h (i := 3) rfl rfl)
        | disabled :: rest =>
          cases hname

end DistributionRoot

/-! ## Operators -/

namespace Operator

/-- The fields that count; the first one of an answer has no use. -/
def names : List String := ["delegationApprover", "stakerOptOutWindowBlocks"]

variable {address answer : Value} {fields : List Value} {name : String}

theorem ofAnswer_of_presents {approver window : Value} (h : Presents 1 names [approver, window] answer) :
    ofAnswer address answer =
      (ofConversion (Address.ofAnswer approver)).map fun a => ⟨address, .text a.text, window⟩ := by
  have happrover : answer.field 1 "delegationApprover" = .ok approver :=
    Value.field_eq_ok h (i := 0) rfl rfl
  have hwindow : answer.field 2 "stakerOptOutWindowBlocks" = .ok window :=
    Value.field_eq_ok h (i := 1) rfl rfl
  unfold ofAnswer
  rw [happrover, hwindow]
  show (ofConversion (Address.ofAnswer approver) >>= fun a =>
    pure (⟨address, .text a.text, window⟩ : Operator Value)) = _
  cases Address.ofAnswer approver <;> rfl

theorem ofAnswer_of_missing (h : Presents 1 names fields answer) (hname : names[fields.length]? = some name) :
    ofAnswer address answer = .error (.field (answer.absent name)) := by
  unfold ofAnswer
  match fields with
  | [] =>
    cases hname
    have happrover : answer.field 1 "delegationApprover" = .error (answer.absent "delegationApprover") :=
      Value.field_eq_error h (i := 0) rfl rfl
    rw [happrover]
    rfl
  | [approver] =>
    cases hname
    have happrover : answer.field 1 "delegationApprover" = .ok approver :=
      Value.field_eq_ok h (i := 0) rfl rfl
    -- The window is looked at before the approver is converted.
    have hwindow : answer.field 2 "stakerOptOutWindowBlocks" =
        .error (answer.absent "stakerOptOutWindowBlocks") := Value.field_eq_error h (i := 1) rfl rfl
    rw [happrover, hwindow]
    rfl
  | _ :: _ :: _ => cases hname

end Operator

/-- The accessor came to its call, which gave `v` and ended in `t`, with the context open before and after. -/
def Plan.Answered (p : Plan) (node : Node ρ σ) (reader : Reader) (context : Option String) (s : Session ρ σ)
    (v : Value) (t : Session ρ σ) : Prop :=
  ∃ h arguments, reader.handles.get p.contract = some h ∧ node.offers h p.function s.node = .ok () ∧
    p.arguments = .ok arguments ∧ node.accepts p.function arguments = .ok () ∧
    node.callWithin context h p.function arguments s = (.ok v, t)

theorem Plan.run_of_answered {p : Plan} {node : Node ρ σ} {reader : Reader} {context : Option String}
    {s t : Session ρ σ} {v : Value} (h : p.Answered node reader context s v t) :
    p.run node reader context s = (p.shape v, t) := by
  obtain ⟨handle, arguments, hwired, hoffers, harguments, haccepts, hcall⟩ := h
  rw [run_of_arguments_eq_ok hwired hoffers harguments haccepts, Action.bind_apply, hcall]
  rfl

/-- An accessor that succeeds came to its call, and its result is what it makes of the answer. -/
theorem Plan.answered_of_run {p : Plan} {node : Node ρ σ} {reader : Reader} {context : Option String}
    {s t : Session ρ σ} {a : Answer} (hrun : p.run node reader context s = (.ok a, t)) :
    ∃ v, p.Answered node reader context s v t ∧ p.shape v = .ok a := by
  unfold run at hrun
  cases hwired : reader.handles.get p.contract with
  | none =>
    rw [hwired] at hrun
    cases hrun
  | some h =>
    rw [hwired] at hrun
    obtain ⟨_, _, hrequire, hcollected⟩ := Action.bind_apply_eq_ok hrun
    cases hrequire
    obtain ⟨arguments, _, hcollect, haccepted⟩ := Action.bind_apply_eq_ok hcollected
    obtain ⟨hoffers, harguments, rfl⟩ := collect_eq_ok hcollect
    obtain ⟨_, _, haccepting, hasked⟩ := Action.bind_apply_eq_ok haccepted
    obtain ⟨haccepts, rfl⟩ := Prod.mk.inj haccepting
    obtain ⟨v, _, hcall, hshaped⟩ := Action.bind_apply_eq_ok hasked
    obtain ⟨hshape, rfl⟩ := Prod.mk.inj hshaped
    exact ⟨v, ⟨h, arguments, hwired, hoffers, harguments, haccepts, hcall⟩, hshape⟩

namespace Query

/-- How the details of an operator are read. -/
def detailsPlan (operator : Value) : Plan :=
  ⟨.delegationManager, Contract.operatorDetails,
    [.account "operator address" (Reader.operatorAddress operator)],
    fun v => (Operator.ofAnswer (Reader.operatorAddress operator) v).map .operator, false⟩

theorem run_operatorDetails_of_answered {node : Node ρ σ} {reader : Reader} {context : Option String}
    {operator answer : Value} {s t : Session ρ σ}
    (h : (detailsPlan operator).Answered node reader context s answer t) :
    (operatorDetails operator).run node reader context s =
      ((Operator.ofAnswer (Reader.operatorAddress operator) answer).map .operator, t) := by
  have hp : (operatorDetails operator).plan? = some (detailsPlan operator) := rfl
  rw [run_eq_plan hp, Plan.run_of_answered h]
  rfl

/-- Answers that present the same fields are not told apart, whether they are lists, tuples or mappings and
whatever they have beside them. A root is what its four fields give; with some of them missing it fails for
the first present one that does not convert, and otherwise for the first missing one. The details of an
operator are what their two fields give; with one of them missing they fail for the first missing one. -/
theorem answers_decode_by_fields :
    (∀ {root calculationEnd activatedAt disabled answer : Value},
      Presents 0 DistributionRoot.names [root, calculationEnd, activatedAt, disabled] answer →
      DistributionRoot.ofAnswer answer =
        DistributionRoot.ofFields root calculationEnd activatedAt disabled) ∧
    (∀ {fields : List Value} {answer : Value} {name : String},
      Presents 0 DistributionRoot.names fields answer →
      DistributionRoot.names[fields.length]? = some name →
      (∃ before e after, DistributionRoot.conversions fields = before ++ .error e :: after ∧
        (∀ x ∈ before, x = .ok ()) ∧ DistributionRoot.ofAnswer answer = .error e) ∨
        (∀ x ∈ DistributionRoot.conversions fields, x = .ok ()) ∧
          DistributionRoot.ofAnswer answer = .error (.field (answer.absent name))) ∧
    ∀ {ρ σ : Type} (node : Node ρ σ) (reader : Reader) (operator : Value) (context : Option String)
      (s : Session ρ σ) {answer : Value} {t : Session ρ σ},
      (detailsPlan operator).Answered node reader context s answer t →
      let result := (operatorDetails operator).run node reader context s
      (∀ {approver window : Value}, Presents 1 Operator.names [approver, window] answer →
        result = ((ofConversion (Address.ofAnswer approver)).map fun a =>
          .operator ⟨Reader.operatorAddress operator, .text a.text, window⟩, t)) ∧
      ∀ {fields : List Value} {name : String}, Presents 1 Operator.names fields answer →
        Operator.names[fields.length]? = some name →
        result = (.error (.field (answer.absent name)), t) := by
  refine ⟨fun h => DistributionRoot.ofAnswer_of_presents h, ?_, ?_⟩
  · intro fields answer name h hname
    exact (DistributionRoot.failsAs_ofAnswer h hname).eq_first_error
  · intro ρ σ node reader operator context s answer t hanswered result
    have hrun : result = _ := run_operatorDetails_of_answered hanswered
    constructor
    · intro approver window h
      rw [hrun, Operator.ofAnswer_of_presents h]
      cases Address.ofAnswer approver <;> rfl
    · intro fields name h hname
      rw [hrun, Operator.ofAnswer_of_missing h hname]
      rfl

/-- A session with a node that answers so, whatever operator it is asked about. -/
def detailsSession (answer : Value) : Session Direct.Call Direct.Chain :=
  .start 0.0 ⟨[("0x00000000000000000000000000000000000000D1", [("operatorDetails", .value answer)])], []⟩

def detailsReader : Reader :=
  let manager : Handle := ⟨"0x00000000000000000000000000000000000000D1", .delegationManager⟩
  ⟨.given, { Bindings.empty with delegationManager := some manager }, .named "reads"⟩

def detailsOperator : Address := ⟨List.replicate 20 0x11, rfl⟩

/-- What is then read about an operator. -/
def readDetails (answer : Value) : Except Failure Answer :=
  ((operatorDetails (.bytes detailsOperator.bytes)).run Direct.node detailsReader none
    (detailsSession answer)).1

theorem answered_details (answer : Value) :
    (detailsPlan (.bytes detailsOperator.bytes)).Answered Direct.node detailsReader none
      (detailsSession answer) answer
      { detailsSession answer with
        calls := [⟨"0x00000000000000000000000000000000000000D1", "operatorDetails",
          [.address detailsOperator], some (.text "latest")⟩] } :=
  ⟨_, _, rfl, rfl, rfl, rfl, rfl⟩

/-- The three layouts, with a field of no use and more than is read. Of a root whose second field is refused,
the third one is not missed. -/
theorem answers_decode_by_fields_mixed :
    let root : Value := .list [.int 1, .bool true]
    let approver : Address := ⟨List.replicate 20 7, rfl⟩
    (∀ answer ∈ [.list [root, .text " 7", .bool true, .text "", .null],
        .tuple [root, .text " 7", .bool true, .text ""],
        .mapping [("other", .null), ("disabled", .text ""), ("activatedAt", .bool true), ("root", root),
          ("rewardsCalculationEndTimestamp", .text " 7")]],
      DistributionRoot.ofAnswer answer = .ok ⟨[1, 1], 7, 1, false⟩) ∧
    DistributionRoot.ofAnswer (.tuple [root, .text "x"]) =
      .error (.conversion (.notIntegerText (.text "x"))) ∧
    (∀ answer ∈ [.list [.null, .bytes approver.bytes, .int 5, .null],
        .tuple [.text "unused", .bytes approver.bytes, .int 5],
        .mapping [("stakerOptOutWindowBlocks", .int 5), ("delegationApprover", .bytes approver.bytes)]],
      readDetails answer =
        .ok (.operator ⟨.bytes detailsOperator.bytes, .text approver.text, .int 5⟩)) ∧
    readDetails (.list [.null]) = .error (.field .listTooShort) := by
  intro root approver
  obtain ⟨hroot, hpartly, hdetails⟩ := answers_decode_by_fields
  have hread (answer : Value) := hdetails _ _ _ _ _ (answered_details answer)
  refine ⟨?_, ?_, ?_, ?_⟩
  · have hpresents (answer : Value)
        (h : Presents 0 DistributionRoot.names [root, .text " 7", .bool true, .text ""] answer) :
        DistributionRoot.ofAnswer answer = .ok ⟨[1, 1], 7, 1, false⟩ := (hroot h).trans rfl
    intro answer hanswer
    simp only [List.mem_cons, List.not_mem_nil, or_false] at hanswer
    rcases hanswer with rfl | rfl | rfl <;> apply hpresents
    · exact .list (show _ = [root, .text " 7", .bool true, .text ""] ++ [.null] from rfl) nofun
    · exact .tuple (List.append_nil _).symm nofun
    · refine .mapping fun i name hname => ?_
      match i with
      | 0 | 1 | 2 | 3 =>
        cases hname
        rfl
      | i + 4 => cases hname
  · have hpresents : Presents 0 DistributionRoot.names [root, .text "x"] (.tuple [root, .text "x"]) :=
      .tuple (List.append_nil _).symm fun _ => rfl
    have hconversions : settle (DistributionRoot.conversions [root, .text "x"]) =
        .error (.conversion (.notIntegerText (.text "x"))) := rfl
    rcases hpartly hpresents rfl with
      ⟨before, e, after, hsplit, hbefore, h⟩ | ⟨hall, -⟩
    · rw [hsplit, settle_of_error hbefore] at hconversions
      cases hconversions
      exact h
    · rw [settle_eq_ok_iff.2 hall] at hconversions
      cases hconversions
  · have hpresents (answer : Value)
        (h : Presents 1 Operator.names [.bytes approver.bytes, .int 5] answer) :
        readDetails answer =
          .ok (.operator ⟨.bytes detailsOperator.bytes, .text approver.text, .int 5⟩) :=
      congrArg Prod.fst ((hread answer).1 h)
    intro answer hanswer
    simp only [List.mem_cons, List.not_mem_nil, or_false] at hanswer
    rcases hanswer with rfl | rfl | rfl <;> apply hpresents
    · exact .list (show _ = [Value.bytes approver.bytes, .int 5] ++ [.null] from rfl) nofun
    · exact .tuple (List.append_nil _).symm nofun
    · refine .mapping fun i name hname => ?_
      match i with
      | 0 | 1 =>
        cases hname
        rfl
      | i + 2 => cases hname
  · have hempty : Presents 1 Operator.names [] (.list [.null]) := .list (List.append_nil _).symm fun _ => rfl
    exact congrArg Prod.fst ((hread (.list [.null])).2 hempty rfl)

/-- An approver that is no address is not noticed where the window is missing, unlike the refused field of a
root. -/
theorem short_details_hide_approver :
    Address.ofAnswer (.text "x") = .error .notAddress ∧
      readDetails (.list [.int 1, .text "x"]) = .error (.field .listTooShort) ∧
      readDetails (.tuple [.int 1, .text "x"]) = .error (.field .tupleTooShort) ∧
      readDetails (.mapping [("delegationApprover", .text "x")]) =
        .error (.field (.missing "stakerOptOutWindowBlocks")) ∧
      readDetails (.list [.int 1, .text "x"]) ≠ .error (.conversion .notAddress) := by
  refine ⟨rfl, rfl, rfl, rfl, ?_⟩
  rintro ⟨⟩

end Query

end Restaking
