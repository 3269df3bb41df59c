import Restaking.Proofs.Abi.Argument
import Restaking.Proofs.Abi.Static
import Restaking.Proofs.Reader.Pipeline
import Restaking.Proofs.Word.Grammar

/-!
# Texts that lost a digit

A word may be spelled with sixty-four digits or with sixty-three, so a text that lost one digit is refused if
it had sixty-three, and read as another number if it had sixty-four. It is the same number only where nothing
but zeros stands up to the digit that is gone. What holds of the text holds of the accessors that take a hash.
-/
namespace Restaking

variable {ρ σ : Type}

open Restaking.Text

namespace Text.Hex

/-- Digits go on with a number by their place value. -/
theorem foldl_number (cs : List Char) (n : Nat) :
    cs.foldl (fun n c => 16 * n + (digit? c).getD 0) n = 16 ^ cs.length * n + number cs := by
  induction cs generalizing n with
  | nil =>
    have hempty : number [] = 0 := rfl
    rw [List.foldl_nil, List.length_nil, Nat.pow_zero, hempty]
    omega
  | cons c rest ih =>
    have hcons : number (c :: rest) = 16 ^ rest.length * (16 * 0 + (digit? c).getD 0) + number rest := by
      rw [number, List.foldl_cons, ih]
    have hplace : 16 ^ rest.length * (16 * n) = 16 ^ (rest.length + 1) * n := by
      rw [Nat.pow_succ, Nat.mul_assoc]
    rw [List.foldl_cons, ih, hcons, List.length_cons, Nat.mul_add, Nat.mul_add, hplace]
    omega

theorem number_append (xs ys : List Char) :
    number (xs ++ ys) = 16 ^ ys.length * number xs + number ys := by
  rw [number, List.foldl_append, foldl_number]
  rfl

theorem number_cons (c : Char) (cs : List Char) :
    number (c :: cs) = 16 ^ cs.length * (digit? c).getD 0 + number cs := by
  rw [← List.singleton_append, number_append]
  have hsingle : number [c] = (digit? c).getD 0 := by
    rw [number, List.foldl_cons, List.foldl_nil, Nat.mul_zero, Nat.zero_add]
  rw [hsingle]

theorem number_eq_zero_iff {cs : List Char} (h : ∀ c ∈ cs, (digit? c).isSome) :
    number cs = 0 ↔ ∀ c ∈ cs, c = '0' := by
  induction cs with
  | nil => exact iff_of_true rfl (List.forall_mem_nil _)
  | cons c rest ih =>
    obtain ⟨hc, hrest⟩ := List.forall_mem_cons.1 h
    obtain ⟨d, hd⟩ := Option.isSome_iff_exists.1 hc
    have hpos : 0 < 16 ^ rest.length := Nat.pow_pos (by omega)
    have hdigit : d = 0 ↔ c = '0' := by rw [← digit?_eq_zero_iff, hd, Option.some.injEq]
    rw [List.forall_mem_cons, ← ih hrest, ← hdigit, number_cons, hd, Option.getD_some, Nat.add_eq_zero_iff,
      Nat.mul_eq_zero]
    constructor
    · rintro ⟨hd | hd, hrest⟩
      · omega
      · exact ⟨hd, hrest⟩
    · rintro ⟨hd, hrest⟩
      exact ⟨.inr hd, hrest⟩

/-- Without one of its digits a number is the same only if that digit and all before it are zeros. -/
theorem number_without_iff {first last : List Char} {lost : Char}
    (h : ∀ c ∈ first ++ lost :: last, (digit? c).isSome) :
    number (first ++ last) = number (first ++ lost :: last) ↔ ∀ c ∈ first ++ [lost], c = '0' := by
  have hupto : ∀ c ∈ first ++ [lost], (digit? c).isSome := by
    intro c hc
    refine h c ?_
    rw [List.mem_append, List.mem_cons]
    rw [List.mem_append, List.mem_singleton] at hc
    exact hc.imp_right .inl
  have hpos : 0 < 16 ^ last.length := Nat.pow_pos (by omega)
  have hsplit : first ++ lost :: last = (first ++ [lost]) ++ last := by simp
  have hlost : number (first ++ [lost]) = 16 * number first + (digit? lost).getD 0 := by
    rw [number, List.foldl_append, List.foldl_cons, List.foldl_nil]
    rfl
  -- What stands behind the lost digit counts alike in both numbers, so the heads are compared:
  -- `16 * k + d = k` only for `k = d = 0`.
  rw [← number_eq_zero_iff hupto, hsplit, number_append, number_append, Nat.add_right_cancel_iff]
  constructor
  · intro heq
    have hfirst := Nat.eq_of_mul_eq_mul_left hpos heq
    omega
  · intro hzero
    have hfirst : number first = 0 := by omega
    rw [hzero, hfirst]

/-- The second text is the first one but for a digit, which is missing behind `first` and before `last`. -/
def Loses (cs : List Char) (first : List Char) (lost : Char) (last cs' : List Char) : Prop :=
  ∃ before mark after, cs = before ++ (mark ++ (first ++ lost :: last)) ++ after ∧
    cs' = before ++ (mark ++ (first ++ last)) ++ after ∧ (∀ c ∈ before, isBlank c = true) ∧ IsMark mark ∧
    (∀ c ∈ first ++ lost :: last, (digit? c).isSome) ∧ ∀ c ∈ after, isBlank c = true

variable {cs cs' first last : List Char} {lost : Char}

theorem Loses.spells (h : Loses cs first lost last cs') : Spells cs (first ++ lost :: last) := by
  obtain ⟨before, mark, after, hcs, -, hbefore, hmark, hdigits, hafter⟩ := h
  exact ⟨before, mark, after, hcs, hbefore, hmark, hdigits, hafter⟩

theorem Loses.spells_rest (h : Loses cs first lost last cs') : Spells cs' (first ++ last) := by
  obtain ⟨before, mark, after, -, hcs', hbefore, hmark, hdigits, hafter⟩ := h
  refine ⟨before, mark, after, hcs', hbefore, hmark, fun c hc => hdigits c ?_, hafter⟩
  rw [List.mem_append, List.mem_cons]
  exact (List.mem_append.1 hc).imp_right .inr

end Text.Hex

namespace Word

variable {s : String} {digits : List Char}

/-- A text of digits is taken as the bytes of the number that they spell, half as many of them, rounded up. -/
theorem exists_ofInput_of_spells (hs : Hex.Spells s.toList digits) :
    ∃ bs, bs.length = (digits.length + 1) / 2 ∧ Abi.natOfBytes bs = Hex.number digits ∧
      ∀ label, ofInput label (.text s) = ofBytes label bs := by
  obtain ⟨-, hdigits⟩ := Hex.spells_iff.1 hs
  obtain ⟨bs, hbs, hlength, hnumber⟩ := Hex.exists_decode?_evened hdigits
  exact ⟨bs, hlength, hnumber, fun label => ofInput_of_decode? hs hbs⟩

/-- Words are the numbers that their bytes spell. -/
theorem natOfBytes_inj {v w : Word} : Abi.natOfBytes v.bytes = Abi.natOfBytes w.bytes ↔ v = w := by
  constructor
  · intro h
    refine word_ext ?_
    rw [← Abi.natWord_natOfBytes v.length_eq, ← Abi.natWord_natOfBytes w.length_eq, h]
  · rintro rfl
    rfl

/-- A text that is taken spells sixty-three or sixty-four digits, and the number of the word. -/
theorem spelled_of_ofInput {label : String} {w : Word} (hs : Hex.Spells s.toList digits)
    (hw : ofInput label (.text s) = .ok w) :
    (digits.length = 63 ∨ digits.length = 64) ∧ Abi.natOfBytes w.bytes = Hex.number digits := by
  obtain ⟨bs, hlength, hnumber, hread⟩ := exists_ofInput_of_spells hs
  rw [hread, ofBytes] at hw
  split at hw
  · rename_i h32
    cases hw
    exact ⟨by omega, hnumber⟩
  · cases hw

/-- Digits too few for a word are refused for the length of what they would be read as. -/
theorem refused_of_spells (hs : Hex.Spells s.toList digits) (h62 : digits.length = 62) (label : String) :
    Refused label (.text s) .value (label ++ " must be 32 bytes, got 31") := by
  obtain ⟨bs, hlength, -, hread⟩ := exists_ofInput_of_spells hs
  have h31 : bs.length = 31 := by omega
  have hne : bs.length ≠ 32 := by omega
  refine ⟨.wrongLength label bs.length, (hread label).trans (ofBytes_of_length_ne hne), rfl, ?_⟩
  rw [h31, InputError.message, String.append_assoc]
  rfl

/-- Sixty-three digits are a word. -/
theorem exists_word_of_spells (hs : Hex.Spells s.toList digits) (h63 : digits.length = 63) :
    ∃ w : Word, Abi.natOfBytes w.bytes = Hex.number digits ∧ ∀ label, ofInput label (.text s) = .ok w := by
  obtain ⟨bs, hlength, hnumber, hread⟩ := exists_ofInput_of_spells hs
  have h32 : bs.length = 32 := by omega
  exact ⟨⟨bs, h32⟩, hnumber, fun label => (hread label).trans (ofBytes_of_length h32)⟩

end Word

/-! ## Accessors that take a hash -/

namespace Query

/-- The queries that take a hash, as functions of what is given for it. -/
inductive TakesHash : (Value → Query) → Prop where
  | rootIndex : TakesHash rootIndexFromHash
  | delegationApproval (staker operator approver expiry : Value) :
    TakesHash fun salt => .delegationApprovalDigest staker operator approver salt expiry
  | avsRegistration (operator avs expiry : Value) :
    TakesHash fun salt => .avsRegistrationDigest operator avs salt expiry

variable {ask : Value → Query} {v : Value}

/-- A hash comes behind addresses only. -/
theorem TakesHash.plan (h : TakesHash ask) (v : Value) :
    ∃ p before label after, (ask v).plan? = some p ∧ p.parameters = before ++ .hash label v :: after ∧
      ∀ x ∈ before, ∃ label given, x = Parameter.account label given := by
  cases h with
  | rootIndex => exact ⟨_, [], _, [], rfl, rfl, List.forall_mem_nil _⟩
  | delegationApproval staker operator approver expiry =>
    refine ⟨_, [.account _ staker, .account _ operator, .account _ approver], _, [.amount expiry], rfl, rfl,
      ?_⟩
    simp
  | avsRegistration operator avs expiry =>
    refine ⟨_, [.account _ operator, .account _ avs], _, [.amount expiry], rfl, rfl, ?_⟩
    simp

/-- Arguments in front of a hash that is refused are addresses, so that a refusal of one is of the same
sort. -/
theorem exists_mapM_normalize_eq_error {before after : List Parameter} {label : String}
    (hbefore : ∀ x ∈ before, ∃ label given, x = Parameter.account label given)
    (hv : ∃ e, Word.ofInput label v = .error e ∧ e.kind = .value) :
    ∃ e, (before ++ .hash label v :: after).mapM Parameter.normalize = .error (.input e) ∧
      e.kind = .value := by
  induction before with
  | nil =>
    obtain ⟨e, he, hkind⟩ := hv
    refine ⟨e, ?_, hkind⟩
    rw [List.nil_append, List.mapM_cons, Parameter.normalize, he]
    rfl
  | cons x rest ih =>
    obtain ⟨⟨name, given, rfl⟩, hrest⟩ := List.forall_mem_cons.1 hbefore
    obtain ⟨e, he, hkind⟩ := ih hrest
    rw [List.cons_append, List.mapM_cons, Parameter.normalize, Address.ofInput]
    cases Address.ofValue? given with
    | none => exact ⟨.notAddress name given, rfl, rfl⟩
    | some a =>
      refine ⟨e, ?_, hkind⟩
      rw [he]
      rfl

/-- A hash that is refused is not asked about. -/
theorem TakesHash.run_of_refused (h : TakesHash ask) {message : String → String}
    (hv : ∀ label, Word.Refused label v .value (message label)) {node : Node ρ σ} {reader : Reader}
    {s : Session ρ σ} {p : Plan} {handle : Handle} (hp : (ask v).plan? = some p)
    (hwired : reader.handles.get p.contract = some handle)
    (hoffers : node.offers handle p.function s.node = .ok ()) (context : Option String) :
    ∃ e, (ask v).run node reader context s = (.error (.input e), s) ∧ e.kind = .value := by
  obtain ⟨q, before, label, after, hq, hparameters, hbefore⟩ := h.plan v
  cases hp.symm.trans hq
  obtain ⟨refusal, hrefusal, hkind, -⟩ := hv label
  obtain ⟨e, he, hvalue⟩ := exists_mapM_normalize_eq_error hbefore ⟨refusal, hrefusal, hkind⟩
  rw [← hparameters] at he
  refine ⟨e, ?_, hvalue⟩
  rw [run_eq_plan hp]
  exact Plan.run_of_arguments_eq_error hwired hoffers he context

/-- What is read as the same word is asked about alike. -/
theorem TakesHash.run_congr (h : TakesHash ask) {v w : Value}
    (hword : ∀ label, Word.ofInput label v = Word.ofInput label w) (node : Node ρ σ) (reader : Reader)
    (context : Option String) : (ask v).run node reader context = (ask w).run node reader context := by
  cases h <;> simp only [run, Reader.rootIndexFromHash, Reader.delegationApprovalDigest,
    Reader.avsRegistrationDigest, Reader.word, hword]

end Query

namespace Word

open Query (TakesHash)

/-- A text that is taken as a word and then loses one of its digits had sixty-three of them or sixty-four. Of
sixty-three too few are left: it is refused under any label, and an accessor of a wired contract that takes it
for a hash fails for its arguments without a call. Of sixty-four enough are left: it is taken as the number
that they spell, which is the word of before only if no digit but zeros stood up to the lost one, and the
accessors ask about that number. -/
theorem lost_digit {s s' : String} {first last : List Char} {lost : Char}
    (hlost : Hex.Loses s.toList first lost last s'.toList) {label : String} {w : Word}
    (hw : ofInput label (.text s) = .ok w) :
    (first ++ last).length = 62 ∧
      (∀ label, Refused label (.text s') .value (label ++ " must be 32 bytes, got 31")) ∧
      (∀ {ρ σ : Type} {ask : Value → Query} (node : Node ρ σ) (reader : Reader) (context : Option String)
        (session : Session ρ σ) {p : Plan} {h : Handle}, TakesHash ask → (ask (.text s')).plan? = some p →
        reader.handles.get p.contract = some h → node.offers h p.function session.node = .ok () →
        ∃ e, (ask (.text s')).run node reader context session = (.error (.input e), session) ∧
          e.kind = .value) ∨
    (first ++ last).length = 63 ∧
      ∃ w' : Word, Abi.natOfBytes w'.bytes = Hex.number (first ++ last) ∧
        (∀ label, ofInput label (.text s') = .ok w') ∧
        (w' = w ↔ ∀ c ∈ first ++ [lost], c = '0') ∧
        ∀ {ρ σ : Type} {ask : Value → Query} (node : Node ρ σ) (reader : Reader) (context : Option String),
          TakesHash ask →
          (ask (.text s')).run node reader context = (ask (.bytes w'.bytes)).run node reader context := by
  have hrest := hlost.spells_rest
  obtain ⟨hlength, hnumber⟩ := spelled_of_ofInput hlost.spells hw
  rw [List.length_append, List.length_cons] at hlength
  have hshorter : (first ++ last).length = 62 ∨ (first ++ last).length = 63 := by
    rw [List.length_append]
    omega
  rcases hshorter with h62 | h63
  · have hrefused := refused_of_spells hrest h62
    refine .inl ⟨h62, hrefused, ?_⟩
    intro ρ σ ask node reader context session p h hask hp hwired hoffers
    exact hask.run_of_refused hrefused hp hwired hoffers context
  · obtain ⟨w', hnumber', hread⟩ := exists_word_of_spells hrest h63
    obtain ⟨-, hdigits⟩ := Hex.spells_iff.1 hlost.spells
    refine .inr ⟨h63, w', hnumber', hread, ?_, ?_⟩
    · rw [← natOfBytes_inj, hnumber', hnumber]
      exact Hex.number_without_iff hdigits
    · intro ρ σ ask node reader context hask
      exact hask.run_congr (fun label => (hread label).trans (ofInput_bytes w').symm) node reader context

/-- So many sevens behind a mark. -/
def sevens (count : Nat) : String := String.ofList ('0' :: 'x' :: List.replicate count '7')

theorem loses_sevens (count : Nat) :
    Hex.Loses (sevens (count + 1)).toList (List.replicate count '7') '7' [] (sevens count).toList := by
  refine ⟨[], ['0', 'x'], [], ?_, ?_, List.forall_mem_nil _, .inr (.inl rfl), ?_, List.forall_mem_nil _⟩
  · rw [sevens, String.toList_ofList, List.append_nil, List.replicate_succ']
    rfl
  · rw [sevens, String.toList_ofList, List.append_nil, List.append_nil]
    rfl
  · intro c hc
    rw [← List.replicate_succ'] at hc
    rw [List.eq_of_mem_replicate hc]
    rfl

def rootIndexReader : Reader :=
  let coordinator : Handle := ⟨"0x000000000000000000000000000000000000c0de", .rewardsCoordinator⟩
  ⟨.given, { Bindings.empty with rewardsCoordinator := some coordinator }, .named "reads"⟩

/-- A session with a coordinator that knows one root. -/
def rootIndexSession : Session Direct.Call Direct.Chain :=
  .start 0.0
    ⟨[("0x000000000000000000000000000000000000c0de", [("getRootIndexFromHash", .value (.int 7))])], []⟩

/-- Of sixty-three sevens too few are left, and the coordinator is not asked. Of sixty-four another number is
left. -/
theorem lost_digit_of_sevens :
    (∃ e, (Query.rootIndexFromHash (.text (sevens 62))).run Direct.node rootIndexReader none
        rootIndexSession = (.error (.input e), rootIndexSession) ∧ e.kind = .value) ∧
    ∃ w w' : Word, ofInput "root hash" (.text (sevens 64)) = .ok w ∧
      ofInput "root hash" (.text (sevens 63)) = .ok w' ∧ w' ≠ w := by
  let word (first : UInt8) : Word := ⟨first :: List.replicate 31 0x77, rfl⟩
  have h64 : ofInput "root hash" (.text (sevens 64)) = .ok (word 0x77) := rfl
  have h63 : ofInput "root hash" (.text (sevens 63)) = .ok (word 7) := rfl
  constructor
  · rcases lost_digit (loses_sevens 62) h63 with ⟨-, -, hrun⟩ | ⟨hcount, -⟩
    · exact hrun Direct.node rootIndexReader none rootIndexSession .rootIndex rfl rfl rfl
    · cases hcount
  · rcases lost_digit (loses_sevens 63) h64 with ⟨hcount, -⟩ | ⟨-, w', -, hread, hsame, -⟩
    · cases hcount
    · refine ⟨word 0x77, w', h64, hread _, fun h => ?_⟩
      have hzero : '7' = '0' := hsame.1 h '7' (by simp)
      cases hzero

/-- Sixty-four sevens that lost one are another hash, which the coordinator is asked about and has an index
for. -/
theorem lost_digit_is_asked_about :
    let hash : Word := ⟨List.replicate 32 0x77, rfl⟩
    let other : Word := ⟨7 :: List.replicate 31 0x77, rfl⟩
    let result := (Query.rootIndexFromHash (.text (sevens 63))).run Direct.node rootIndexReader none
      rootIndexSession
    Hex.Loses (sevens 64).toList (List.replicate 63 '7') '7' [] (sevens 63).toList ∧
      ofInput "root hash" (.text (sevens 64)) = .ok hash ∧
      ofInput "root hash" (.text (sevens 63)) = .ok other ∧ other ≠ hash ∧
      result.1 = .ok (.value (.int 7)) ∧
      result.2.calls = [⟨"0x000000000000000000000000000000000000c0de", "getRootIndexFromHash", [.word other],
        some (.text "latest")⟩] := by
  intro hash other result
  exact ⟨loses_sevens 63, rfl, rfl, by decide, rfl, rfl⟩

end Word

end Restaking
