import Restaking.Settings

/-!
# The canonical text of an address

Its digits are no blank characters and it reads back, so every reader of addresses takes it as it is: as an
argument, as a deployment address, and as one of the addresses in settings.
-/
namespace Restaking

open Restaking.Text

namespace Text

/-- Nothing is removed where nothing is to be removed. -/
theorem trimWhere_eq_self {p : Char → Bool} {cs : List Char} (h : ∀ c ∈ cs, p c = false) :
    trimWhere p cs = cs := by
  have hdrop {ds : List Char} (hds : ∀ c ∈ ds, p c = false) : ds.dropWhile p = ds := by
    cases ds with
    | nil => rfl
    | cons c rest => rw [List.dropWhile_cons_of_neg (by simp [hds c (by simp)])]
  rw [trimWhere, hdrop h, hdrop fun c hc => h c (List.mem_reverse.1 hc), List.reverse_reverse]

theorem isBlank_of_digit?_isSome {c : Char} (h : (Hex.digit? c).isSome) : isBlank c = false := by
  have hrange : 48 ≤ c.toNat ∧ c.toNat ≤ 102 := by
    unfold Hex.digit? at h
    simp only [Char.le_def, UInt32.le_iff_toNat_le] at h
    change (if 48 ≤ c.toNat ∧ c.toNat ≤ 57 then some (c.toNat - 48)
      else if 97 ≤ c.toNat ∧ c.toNat ≤ 102 then some (c.toNat - 87)
      else if 65 ≤ c.toNat ∧ c.toNat ≤ 70 then some (c.toNat - 55) else none).isSome at h
    split at h
    · omega
    · split at h
      · omega
      · split at h
        · omega
        · cases h
  rw [Bool.eq_false_iff]
  intro hb
  simp only [isBlank, isSpace, Bool.or_eq_true, Bool.and_eq_true, decide_eq_true_eq, beq_iff_eq] at hb
  omega

end Text

namespace Address

theorem digit?_isSome_of_mem_checksummed {a : Address} {c : Char} (h : c ∈ checksummed a.digits) :
    (Hex.digit? c).isSome := by
  have hc : Hex.digit? c ∈ a.digits.map Hex.digit? := a.map_digit?_checksummed ▸ List.mem_map_of_mem h
  obtain ⟨d, hd, hdc⟩ := List.mem_map.1 hc
  obtain ⟨n, hn, rfl⟩ := Hex.exists_digitChar hd
  rw [← hdc, Hex.digit?_digitChar hn]
  rfl

theorem trim_text (a : Address) : trim a.text.toList = a.text.toList := by
  refine trimWhere_eq_self fun c hc => ?_
  rw [text, String.toList_ofList] at hc
  rcases List.mem_cons.1 hc with rfl | hc
  · decide
  · rcases List.mem_cons.1 hc with rfl | hc
    · decide
    · exact isBlank_of_digit?_isSome (digit?_isSome_of_mem_checksummed hc)

theorem text_injective {a b : Address} (h : a.text = b.text) : a = b := by
  have ha := ofText?_text a
  rw [h, ofText?_text] at ha
  exact (Option.some.inj ha).symm

/-- The canonical text of an address is accepted as input. -/
theorem ofInput_text (label : String) (a : Address) : Address.ofInput label (.text a.text) = .ok a := by
  simp [Address.ofInput, Address.ofValue?, Address.ofText?_text]

/-- A label shows in refusals alone. -/
theorem ofInput_eq_ok_iff {label : String} {v : Value} {a : Address} :
    Address.ofInput label v = .ok a ↔ Address.ofValue? v = some a := by
  unfold Address.ofInput
  cases Address.ofValue? v <;> simp

theorem ofAnswer_text (a : Address) : Address.ofAnswer (.text a.text) = .ok a := by
  rw [Address.ofAnswer, ofText?_text]
  rfl

end Address

/-- The canonical text of an address is a deployment address. -/
theorem deployment_text (a : Address) : deployment (.text a.text) = .ok a := by
  have hne : a.text.toList.isEmpty = false := by rw [Address.text, String.toList_ofList]; rfl
  simp only [deployment, a.trim_text, hne, Address.ofText?_text]
  rfl

/-- Settings always give the configuration of their own addresses. -/
theorem Settings.readerConfig_eq (s : Settings) : s.readerConfig = .ok s.contracts := by
  simp only [readerConfig, ReaderConfig.ofValues, deployment_text]

end Restaking
