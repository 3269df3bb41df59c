import Restaking.Proofs.Rewards.NormalForm
import Restaking.Proofs.Value.Layouts

/-!
# Hashes handed back

Hashes that a caller gives have thirty-two bytes or are refused. Hashes that a node gives are only converted
to a byte string: one that is answered is handed back at whatever length it has, and one is made up where a
count, a truth value or a sequence of small numbers is answered. `Value.Yields` tells which answers come to
which bytes; the digests and the published root are shown to be exactly that.
-/
namespace Restaking

variable {ρ σ : Type}

namespace Value

/-- The byte string that the value is. -/
def byteString? : Value → Option (List UInt8)
  | bytes bs | buffer bs => some bs
  | _ => none

/-- The value counts as one byte. -/
inductive IsByte : Value → UInt8 → Prop where
  | int (b : UInt8) : IsByte (.int b.toNat) b
  | bool (b : Bool) : IsByte (.bool b) (if b then 1 else 0)

/-- The bytes that are made of a value which is no byte string: as many zeros as are counted, or the elements
of a sequence. -/
inductive MadeInto : Value → List UInt8 → Prop where
  | count {n : Nat} : n ≤ roomLimit → MadeInto (.int n) (List.replicate n 0)
  | truth (b : Bool) : MadeInto (.bool b) (List.replicate b.toNat 0)
  | list {xs : List Value} {bs : List UInt8} : List.Forall₂ IsByte xs bs → MadeInto (.list xs) bs
  | tuple {xs : List Value} {bs : List UInt8} : List.Forall₂ IsByte xs bs → MadeInto (.tuple xs) bs
  | noKeys : MadeInto (.mapping []) []

/-- The bytes that a value comes to: its own if it is a byte string, and otherwise those made of it. -/
def Yields (v : Value) (bs : List UInt8) : Prop :=
  match v.byteString? with
  | some given => bs = given
  | none => v.MadeInto bs

/-- The value is those bytes, and they are a hash. -/
def IsHash (v : Value) (bs : List UInt8) : Prop := v.byteString? = some bs ∧ bs.length = 32

variable {v : Value} {b : UInt8} {bs : List UInt8}

theorem IsHash.yields_iff (h : v.IsHash bs) {given : List UInt8} : v.Yields given ↔ given = bs := by
  unfold Yields
  rw [h.1]

/-- Nothing but the answered hash comes of a value if it is one, or if nothing comes of it. -/
theorem isHash_of_yields_iff :
    (∀ bs, v.Yields bs → v.IsHash bs) ↔ (∃ bs, v.IsHash bs) ∨ ∀ bs, ¬ v.Yields bs := by
  constructor
  · intro h
    by_cases hsome : ∃ bs, v.Yields bs
    · obtain ⟨bs, hbs⟩ := hsome
      exact .inl ⟨bs, h bs hbs⟩
    · exact .inr fun bs hbs => hsome ⟨bs, hbs⟩
  · rintro (⟨bs, hbs⟩ | hnone) given hgiven
    · rwa [hbs.yields_iff.1 hgiven]
    · exact absurd hgiven (hnone given)

theorem toByte_eq_ok_iff : v.toByte = .ok b ↔ v.IsByte b := by
  constructor
  · intro h
    cases v with
    | int n =>
      rw [toByte] at h
      split at h
      · rename_i hrange
        cases h
        obtain ⟨k, rfl⟩ := Int.eq_ofNat_of_zero_le hrange.1
        have hlt : k < UInt8.size := by
          have h256 : UInt8.size = 256 := rfl
          omega
        have hbyte := IsByte.int (UInt8.ofNat k)
        rwa [UInt8.toNat_ofNat_of_lt' hlt] at hbyte
      · cases h
    | bool b =>
      cases h
      exact .bool b
    | _ => cases h
  · intro h
    cases h with
    | int b =>
      have hrange : (0 : Int) ≤ b.toNat ∧ (b.toNat : Int) < 256 := by
        have hb := b.toNat_lt
        omega
      rw [toByte, if_pos hrange, Int.toNat_natCast, UInt8.ofNat_toNat]
    | bool b => rfl

theorem zeroBytes_eq_ok_iff {n : Int} :
    zeroBytes n = .ok bs ↔ ∃ k : Nat, n = k ∧ k ≤ roomLimit ∧ bs = List.replicate k 0 := by
  have hword : (Nat.pow 2 63 : Int) = 9223372036854775808 := rfl
  have hgreatest : greatestLength = 9223372036854775774 := rfl
  have hroom : roomLimit = 4294967296 := rfl
  rw [zeroBytes, hword, hgreatest, hroom]
  constructor
  · intro h
    -- The four refusals go one after the other; what is left is in range.
    split at h
    · cases h
    split at h
    · cases h
    split at h
    · cases h
    split at h
    · cases h
    cases h
    exact ⟨n.toNat, by omega, by omega, rfl⟩
  · rintro ⟨k, rfl, hk, rfl⟩
    rw [if_neg (by omega), if_neg (by omega), if_neg (by omega), if_neg (by omega), Int.toNat_natCast]

theorem mapM_toByte_eq_ok_iff {xs : List Value} : xs.mapM toByte = .ok bs ↔ List.Forall₂ IsByte xs bs := by
  have hbyte : (fun (x : Value) b => x.toByte = .ok b) = IsByte :=
    funext₂ fun x b => propext toByte_eq_ok_iff
  rw [mapM_eq_ok_iff_forall₂, hbyte]

theorem toBytes_eq_ok_iff : v.toBytes = .ok bs ↔ v.Yields bs := by
  cases v with
  | bytes given | buffer given =>
    rw [toBytes, Except.ok.injEq, eq_comm]
    rfl
  | int n =>
    rw [toBytes, zeroBytes_eq_ok_iff]
    constructor
    · rintro ⟨k, rfl, hk, rfl⟩
      exact .count hk
    · intro h
      cases h with
      | count hk => exact ⟨_, rfl, hk, rfl⟩
  | bool b =>
    constructor
    · cases b <;> intro h <;> cases h
      · exact .truth false
      · exact .truth true
    · intro h
      cases h with
      | truth b => cases b <;> rfl
  | list xs =>
    rw [toBytes, mapM_toByte_eq_ok_iff]
    exact ⟨.list, fun h => by cases h with | list h => exact h⟩
  | tuple xs =>
    rw [toBytes, mapM_toByte_eq_ok_iff]
    exact ⟨.tuple, fun h => by cases h with | tuple h => exact h⟩
  | mapping entries =>
    -- Names of entries are texts, and no text is a byte.
    cases entries with
    | nil =>
      constructor
      · intro h
        cases h
        exact .noKeys
      · intro h
        cases h
        rfl
    | cons entry rest => exact ⟨nofun, nofun⟩
  | _ => exact ⟨nofun, nofun⟩

/-- What yields no bytes is refused in its conversion. -/
theorem exists_toBytes_eq_error (h : ∀ bs, ¬ v.Yields bs) : ∃ e, v.toBytes = .error e := by
  cases hbytes : v.toBytes with
  | error e => exact ⟨e, rfl⟩
  | ok bs => exact absurd (toBytes_eq_ok_iff.1 hbytes) (h bs)

end Value

/-! ## Published roots -/

theorem ofField_eq_ok_iff {α : Type} {x : Except FieldError α} {a : α} : ofField x = .ok a ↔ x = .ok a := by
  cases x <;> simp [ofField, Except.mapError]

namespace DistributionRoot

/-- Each part of the root is what a field of the answer comes to. -/
structure ReadFrom (r : DistributionRoot) (answer : Value) : Prop where
  root : ∃ v, answer.field 0 "root" = .ok v ∧ v.Yields r.root
  rewardsCalculationEnd : ∃ v, answer.field 1 "rewardsCalculationEndTimestamp" = .ok v ∧
    v.toInteger = .ok r.rewardsCalculationEnd
  activatedAt : ∃ v, answer.field 2 "activatedAt" = .ok v ∧ v.toInteger = .ok r.activatedAt
  disabled : ∃ v, answer.field 3 "disabled" = .ok v ∧ v.truth = r.disabled

variable {answer v : Value} {r : DistributionRoot}

theorem readFrom_of_ofAnswer (h : ofAnswer answer = .ok r) : r.ReadFrom answer := by
  obtain ⟨root, hroot, h⟩ := bind_eq_ok h
  obtain ⟨bs, hbs, h⟩ := bind_eq_ok h
  obtain ⟨calculationEnd, hend, h⟩ := bind_eq_ok h
  obtain ⟨m, hm, h⟩ := bind_eq_ok h
  obtain ⟨activatedAt, hactivated, h⟩ := bind_eq_ok h
  obtain ⟨n, hn, h⟩ := bind_eq_ok h
  obtain ⟨disabled, hdisabled, h⟩ := bind_eq_ok h
  cases h
  exact {
    root := ⟨root, ofField_eq_ok_iff.1 hroot, Value.toBytes_eq_ok_iff.1 (ofConversion_eq_ok_iff.1 hbs)⟩
    rewardsCalculationEnd := ⟨calculationEnd, ofField_eq_ok_iff.1 hend, ofConversion_eq_ok_iff.1 hm⟩
    activatedAt := ⟨activatedAt, ofField_eq_ok_iff.1 hactivated, ofConversion_eq_ok_iff.1 hn⟩
    disabled := ⟨disabled, ofField_eq_ok_iff.1 hdisabled, rfl⟩ }

theorem ofAnswer_eq_ok_iff : ofAnswer answer = .ok r ↔ r.ReadFrom answer := by
  refine ⟨readFrom_of_ofAnswer, fun h => ?_⟩
  obtain ⟨root, hroot, hbs⟩ := h.root
  obtain ⟨calculationEnd, hend, hm⟩ := h.rewardsCalculationEnd
  obtain ⟨activatedAt, hactivated, hn⟩ := h.activatedAt
  obtain ⟨disabled, hdisabled, htruth⟩ := h.disabled
  have hbs := ofConversion_eq_ok_iff.2 (Value.toBytes_eq_ok_iff.2 hbs)
  have hm := ofConversion_eq_ok_iff.2 hm
  have hn := ofConversion_eq_ok_iff.2 hn
  simp only [ofAnswer, ofField_eq_ok_iff.2 hroot, hbs, ofField_eq_ok_iff.2 hend, hm,
    ofField_eq_ok_iff.2 hactivated, hn, ofField_eq_ok_iff.2 hdisabled, bind, Except.bind, htruth]
  rfl

/-- A published root that yields no bytes is refused in its conversion, whatever comes behind it. -/
theorem ofAnswer_of_no_bytes (hroot : answer.field 0 "root" = .ok v) (hv : ∀ bs, ¬ v.Yields bs) :
    ∃ e, ofAnswer answer = .error (.conversion e) := by
  obtain ⟨e, he⟩ := Value.exists_toBytes_eq_error hv
  have hrefused : ofConversion v.toBytes = .error (.conversion e) := by
    rw [he]
    rfl
  exact ⟨e, by simp only [ofAnswer, ofField_eq_ok_iff.2 hroot, hrefused, bind, Except.bind]⟩

theorem ofAnswer_of_no_field {e : FieldError} (hroot : answer.field 0 "root" = .error e) :
    ofAnswer answer = .error (.field e) := by
  rw [ofAnswer, hroot]
  rfl

/-- A root of an answer has the answered hash if the root's field is one, or if there is no root. -/
theorem isHash_of_readFrom_iff :
    (∀ r : DistributionRoot, r.ReadFrom answer → ∃ v, answer.field 0 "root" = .ok v ∧ v.IsHash r.root) ↔
      (∃ v bs, answer.field 0 "root" = .ok v ∧ v.IsHash bs) ∨
        ∀ r : DistributionRoot, ¬ r.ReadFrom answer := by
  constructor
  · intro h
    by_cases hsome : ∃ r : DistributionRoot, r.ReadFrom answer
    · obtain ⟨r, hread⟩ := hsome
      obtain ⟨v, hroot, hhash⟩ := h r hread
      exact .inl ⟨v, r.root, hroot, hhash⟩
    · exact .inr fun r hread => hsome ⟨r, hread⟩
  · rintro (⟨v, bs, hroot, hhash⟩ | hnone) r hread
    · obtain ⟨w, hfield, hyields⟩ := hread.root
      cases hroot.symm.trans hfield
      rw [hhash.yields_iff.1 hyields]
      exact ⟨v, hroot, hhash⟩
    · exact absurd hread (hnone r)

end DistributionRoot

/-! ## Digests and the claimable root -/

namespace Query

/-- The query is for a digest. -/
inductive AsksDigest : Query → Prop where
  | delegationApproval (staker operator approver salt expiry : Value) :
    AsksDigest (.delegationApprovalDigest staker operator approver salt expiry)
  | avsRegistration (operator avs salt expiry : Value) :
    AsksDigest (.avsRegistrationDigest operator avs salt expiry)

theorem AsksDigest.shape_eq {q : Query} {p : Plan} (hq : q.AsksDigest) (hp : q.plan? = some p) :
    p.shape = Plan.asDigest := by
  cases hq <;> cases hp <;> rfl

theorem asDigest_eq_ok_iff {v : Value} {a : Answer} :
    Plan.asDigest v = .ok a ↔ ∃ bs, v.Yields bs ∧ a = .digest bs := by
  constructor
  · intro h
    obtain ⟨bs, hbs, rfl⟩ := map_eq_ok h
    exact ⟨bs, Value.toBytes_eq_ok_iff.1 (ofConversion_eq_ok_iff.1 hbs), rfl⟩
  · rintro ⟨bs, hyields, rfl⟩
    have hbs := ofConversion_eq_ok_iff.2 (Value.toBytes_eq_ok_iff.2 hyields)
    rw [Plan.asDigest, hbs]
    rfl

/-- The root of an answer is what its four fields come to; its hash is what the first field yields, and if
that yields nothing or is missing, there is no root. A digest is what the answer to the accessor's call
yields, and the claimable root is the root of that answer. So what is handed back is always an answered hash
of thirty-two bytes exactly if the answer is one, or comes to nothing: an answered byte string keeps whatever
length it has, and bytes are made of counts, truth values and sequences. -/
theorem hash_is_what_answer_yields (node : Node ρ σ) (reader : Reader) (context : Option String)
    (s : Session ρ σ) (v : Value) :
    (∀ r, DistributionRoot.ofAnswer v = .ok r ↔ r.ReadFrom v) ∧
    (∀ root, v.field 0 "root" = .ok root → (∀ bs, ¬ root.Yields bs) →
      ∃ e, DistributionRoot.ofAnswer v = .error (.conversion e)) ∧
    (∀ e, v.field 0 "root" = .error e → DistributionRoot.ofAnswer v = .error (.field e)) ∧
    ((∀ r, DistributionRoot.ofAnswer v = .ok r →
        ∃ root, v.field 0 "root" = .ok root ∧ root.IsHash r.root) ↔
      (∃ root bs, v.field 0 "root" = .ok root ∧ root.IsHash bs) ∨
        ∀ r : DistributionRoot, ¬ r.ReadFrom v) ∧
    ∀ {q : Query} {p : Plan}, q.plan? = some p →
      (∀ a t, q.run node reader context s = (.ok a, t) → ∃ w, p.Answered node reader context s w t) ∧
      ∀ t, p.Answered node reader context s v t →
        (q.AsksDigest →
          (∀ a, q.run node reader context s = (.ok a, t) ↔ ∃ bs, v.Yields bs ∧ a = .digest bs) ∧
          ((∀ bs, ¬ v.Yields bs) → ∃ e, q.run node reader context s = (.error (.conversion e), t)) ∧
          ((∀ bs, q.run node reader context s = (.ok (.digest bs), t) → v.IsHash bs) ↔
            (∃ bs, v.IsHash bs) ∨ ∀ bs, ¬ v.Yields bs)) ∧
        (q = .currentClaimableRoot →
          q.run node reader context s = ((DistributionRoot.ofAnswer v).map .root, t)) := by
  refine ⟨fun r => DistributionRoot.ofAnswer_eq_ok_iff, fun root => DistributionRoot.ofAnswer_of_no_bytes,
    fun e => DistributionRoot.ofAnswer_of_no_field, ?_, ?_⟩
  · simp only [DistributionRoot.ofAnswer_eq_ok_iff]
    exact DistributionRoot.isHash_of_readFrom_iff
  · intro q p hp
    rw [run_eq_plan hp]
    refine ⟨fun a t hrun => ?_, fun t hanswered => ⟨fun hq => ?_, ?_⟩⟩
    · obtain ⟨w, hanswered, -⟩ := Plan.answered_of_run hrun
      exact ⟨w, hanswered⟩
    · have hrun (a : Answer) :
          p.run node reader context s = (.ok a, t) ↔ ∃ bs, v.Yields bs ∧ a = .digest bs := by
        rw [Plan.run_of_answered hanswered, hq.shape_eq hp, ← asDigest_eq_ok_iff, Prod.mk.injEq]
        exact and_iff_left rfl
      refine ⟨hrun, fun hnone => ?_, ?_⟩
      · obtain ⟨e, he⟩ := Value.exists_toBytes_eq_error hnone
        refine ⟨e, ?_⟩
        rw [Plan.run_of_answered hanswered, hq.shape_eq hp, Plan.asDigest, he]
        rfl
      · rw [← Value.isHash_of_yields_iff]
        simp only [hrun, Answer.digest.injEq, exists_eq_right']
    · rintro rfl
      cases hp
      exact Plan.run_of_answered hanswered

/-- A session with a directory that answers so, whatever digest it is asked for. -/
def digestSession (answer : Value) : Session Direct.Call Direct.Chain :=
  .start 0.0 ⟨[("0x00000000000000000000000000000000000000A1",
    [("calculateOperatorAVSRegistrationDigestHash", .value answer)])], []⟩

def digestReader : Reader :=
  let directory : Handle := ⟨"0x00000000000000000000000000000000000000A1", .avsDirectory⟩
  ⟨.given, { Bindings.empty with avsDirectory := some directory }, .named "reads"⟩

def digestQuery : Query :=
  .avsRegistrationDigest (.bytes (List.replicate 20 0x11)) (.bytes (List.replicate 20 0x22))
    (.bytes (List.replicate 32 1)) (.int 0)

/-- The digest that is then read. -/
def readDigest (answer : Value) : Except Failure Answer :=
  (digestQuery.run Direct.node digestReader none (digestSession answer)).1

theorem answered_digest (answer : Value) :
    ∃ p t, digestQuery.plan? = some p ∧
      p.Answered Direct.node digestReader none (digestSession answer) answer t :=
  ⟨_, _, rfl, _, _, rfl, rfl, rfl, rfl, rfl⟩

/-- A digest of thirty-two bytes in a buffer, one of two bytes, a text, and roots by name and by position. -/
theorem hash_is_what_answer_yields_mixed :
    let hash := List.replicate 32 (7 : UInt8)
    readDigest (.buffer hash) = .ok (.digest hash) ∧
    readDigest (.bytes [1, 2]) = .ok (.digest [1, 2]) ∧
    (∃ e, readDigest (.text "0x0707") = .error (.conversion e)) ∧
    DistributionRoot.ofAnswer (.mapping [("disabled", .null), ("activatedAt", .bool true),
      ("root", .bytes hash), ("rewardsCalculationEndTimestamp", .int 9)]) = .ok ⟨hash, 9, 1, false⟩ ∧
    ∃ e, DistributionRoot.ofAnswer (.tuple [.null, .int 9, .int 1, .bool false]) =
      .error (.conversion e) := by
  intro hash
  have hread (answer : Value) :=
    hash_is_what_answer_yields Direct.node digestReader none (digestSession answer)
    answer
  -- The general statement at the one query that the session answers.
  have hdigest (answer : Value) (bs : List UInt8) (hyields : answer.Yields bs) :
      readDigest answer = .ok (.digest bs) := by
    obtain ⟨p, t, hp, hanswered⟩ := answered_digest answer
    obtain ⟨-, -, -, -, hplan⟩ := hread answer
    obtain ⟨hrun, -⟩ := ((hplan hp).2 t hanswered).1 (.avsRegistration _ _ _ _)
    exact congrArg Prod.fst ((hrun _).2 ⟨bs, hyields, rfl⟩)
  refine ⟨hdigest _ _ rfl, hdigest _ _ rfl, ?_, ?_, ?_⟩
  · obtain ⟨p, t, hp, hanswered⟩ := answered_digest (.text "0x0707")
    obtain ⟨-, -, -, -, hplan⟩ := hread (.text "0x0707")
    obtain ⟨-, hrefused, -⟩ := ((hplan hp).2 t hanswered).1 (.avsRegistration _ _ _ _)
    obtain ⟨e, he⟩ := hrefused fun bs hyields => nomatch hyields
    exact ⟨e, congrArg Prod.fst he⟩
  · refine ((hread _).1 _).2 ?_
    exact ⟨⟨_, rfl, rfl⟩, ⟨_, rfl, rfl⟩, ⟨_, rfl, rfl⟩, ⟨_, rfl, rfl⟩⟩
  · exact (hread _).2.1 .null rfl fun bs hyields => nomatch hyields

/-- Hashes that no contract gave: thirty-two zero bytes for the number thirty-two, and no bytes at all for
false. A root of five zero bytes for the number five, and one that lacks a byte, are handed back as well. -/
theorem hash_made_up_of_count :
    let short := List.replicate 31 (7 : UInt8)
    (Value.int 32).byteString? = none ∧
    readDigest (.int 32) = .ok (.digest (List.replicate 32 0)) ∧
    readDigest (.bool false) = .ok (.digest []) ∧
    DistributionRoot.ofAnswer (.list [.int 5, .int 1, .int 2, .bool false]) =
      .ok ⟨List.replicate 5 0, 1, 2, false⟩ ∧
    DistributionRoot.ofAnswer (.list [.bytes short, .int 1, .int 2, .bool false]) =
      .ok ⟨short, 1, 2, false⟩ := by
  intro short
  exact ⟨rfl, rfl, rfl, rfl, rfl⟩

end Query

end Restaking
