import Restaking.Proofs.Abi.Word
import Restaking.Proofs.Address.Spelling

/-!
# Spellings of a word

A text for a word holds the digits of one number, of either case: blanks may stand around them and one mark in
front. The number of digits decides whether the text is taken, and the number they spell decides the bytes.
-/
namespace Restaking

open Restaking.Text

namespace Text.Hex

/-- The number that digits spell, the highest digit first. -/
def number (digits : List Char) : Nat := digits.foldl (fun n c => 16 * n + (digit? c).getD 0) 0

/-- Blanks, a mark or none, the digits, and blanks again. -/
def Spells (cs digits : List Char) : Prop :=
  ∃ before mark after, cs = before ++ (mark ++ digits) ++ after ∧ (∀ c ∈ before, isBlank c = true) ∧
    IsMark mark ∧ (∀ c ∈ digits, (digit? c).isSome) ∧ ∀ c ∈ after, isBlank c = true

theorem spells_iff {cs digits : List Char} :
    Spells cs digits ↔ dropMark (trim cs) = digits ∧ ∀ c ∈ digits, (digit? c).isSome := by
  constructor
  · rintro ⟨before, mark, after, rfl, hbefore, hmark, hdigits, hafter⟩
    have htrim : trim (before ++ (mark ++ digits) ++ after) = mark ++ digits :=
      trimWhere_append hbefore (isBlank_of_mem_spelling hmark hdigits) hafter
    exact ⟨by rw [htrim, dropMark_append hmark hdigits], hdigits⟩
  · rintro ⟨rfl, hdigits⟩
    obtain ⟨before, after, hcs, hbefore, hafter⟩ := exists_trimWhere isBlank cs
    obtain ⟨mark, hmark, htrim⟩ := exists_dropMark (trim cs)
    refine ⟨before, mark, after, ?_, hbefore, hmark, hdigits, hafter⟩
    rw [← htrim]
    exact hcs

/-- A byte goes on with a number as its two halves do. -/
theorem foldl_nibbles (bs : List UInt8) (n : Nat) :
    (Address.nibbles bs).foldl (fun n d => 16 * n + d) n = bs.foldl (fun n b => 256 * n + b.toNat) n := by
  induction bs generalizing n with
  | nil => rfl
  | cons b rest ih =>
    have hnibbles : Address.nibbles (b :: rest) = b.toNat / 16 :: b.toNat % 16 :: Address.nibbles rest := rfl
    have hjoin : 16 * (16 * n + b.toNat / 16) + b.toNat % 16 = 256 * n + b.toNat := by omega
    rw [hnibbles, List.foldl_cons, List.foldl_cons, List.foldl_cons, hjoin, ih]

/-- Digits and the bytes that they are read as spell one number. -/
theorem natOfBytes_of_decode? {cs : List Char} {bs : List UInt8} (h : decode? cs = some bs) :
    Abi.natOfBytes bs = number cs := by
  have hdigits := decode?_eq_some_iff.1 h
  have hnumber : number cs = (cs.map digit?).foldl (fun n d => 16 * n + d.getD 0) 0 := by
    rw [number, List.foldl_map]
  rw [Abi.natOfBytes, ← foldl_nibbles, hnumber, hdigits, List.foldl_map]
  rfl

theorem length_evened (cs : List Char) : (evened cs).length = 2 * ((cs.length + 1) / 2) := by
  unfold evened
  split
  · rw [List.length_cons]
    omega
  · omega

theorem number_evened (cs : List Char) : number (evened cs) = number cs := by
  unfold evened
  split
  · have hzero : 16 * 0 + (digit? '0').getD 0 = 0 := rfl
    rw [number, number, List.foldl_cons, hzero]
  · rfl

/-- The zero in front is a digit like the others. -/
theorem digit?_evened_iff {cs : List Char} :
    (∀ c ∈ evened cs, (digit? c).isSome) ↔ ∀ c ∈ cs, (digit? c).isSome := by
  unfold evened
  split
  · rw [List.forall_mem_cons]
    exact and_iff_right rfl
  · exact Iff.rfl

/-- Any digits are read once their number is even; the bytes are half as many, rounded up. -/
theorem exists_decode?_evened {digits : List Char} (h : ∀ c ∈ digits, (digit? c).isSome) :
    ∃ bs, decode? (evened digits) = some bs ∧ bs.length = (digits.length + 1) / 2 ∧
      Abi.natOfBytes bs = number digits := by
  have hlength := length_evened digits
  obtain ⟨bs, hbs⟩ := exists_decode? (digit?_evened_iff.2 h) (by rw [hlength]; omega)
  refine ⟨bs, hbs, ?_, ?_⟩
  · have hmap := congrArg List.length (decode?_eq_some_iff.1 hbs)
    rw [List.length_map, List.length_map, Address.length_nibbles, hlength] at hmap
    omega
  · rw [natOfBytes_of_decode? hbs, number_evened]

end Text.Hex

namespace Word

variable {label s : String} {digits : List Char}

/-- The reader refuses the value with a fault of that sort, in those words. -/
def Refused (label : String) (v : Value) (kind : FaultKind) (message : String) : Prop :=
  ∃ e, ofInput label v = .error e ∧ e.kind = kind ∧ e.message = message

theorem ofBytes_of_length {bs : List UInt8} (h : bs.length = 32) : ofBytes label bs = .ok ⟨bs, h⟩ := by
  rw [ofBytes, dif_pos h]

theorem ofBytes_of_length_ne {bs : List UInt8} (h : bs.length ≠ 32) :
    ofBytes label bs = .error (.wrongLength label bs.length) := by
  rw [ofBytes, dif_neg h]

theorem ofInput_bytes (w : Word) : ofInput label (.bytes w.bytes) = .ok w := ofBytes_of_length w.length_eq

theorem ofInput_of_decode? {bs : List UInt8} (hs : Hex.Spells s.toList digits)
    (h : Hex.decode? (Hex.evened digits) = some bs) : ofInput label (.text s) = ofBytes label bs := by
  obtain ⟨hdrop, -⟩ := Hex.spells_iff.1 hs
  simp only [ofInput, hdrop, h]

theorem ofInput_of_not_spells (hs : ∀ digits, ¬ Hex.Spells s.toList digits) :
    ofInput label (.text s) = .error (.notHex label s) := by
  have hnone : Hex.decode? (Hex.evened (Hex.dropMark (trim s.toList))) = none := by
    cases hbs : Hex.decode? (Hex.evened (Hex.dropMark (trim s.toList))) with
    | none => rfl
    | some bs =>
      have hmap := Hex.decode?_eq_some_iff.1 hbs
      have hdigits : ∀ c ∈ Hex.dropMark (trim s.toList), (Hex.digit? c).isSome :=
        Hex.digit?_evened_iff.1 fun c hc => Address.digit?_isSome_of_map hmap hc
      exact absurd (Hex.spells_iff.2 ⟨rfl, hdigits⟩) (hs _)
  simp only [ofInput, hnone]

/-- Bytes are a word as they are, of the right length. A text is a word exactly when it spells 63 or 64
digits, and the word is the number that they spell. Whatever else is given is refused: other digits for the
length of what they would be read as, other texts and other types in their own words. Every word is read back
from its digits, in whatever case, with or without a mark, with blanks around. -/
theorem ofInput_grammar (label : String) :
    (∀ bs v, v = .bytes bs ∨ v = .buffer bs →
      (∀ h : bs.length = 32, ofInput label v = .ok ⟨bs, h⟩) ∧
      (bs.length ≠ 32 → Refused label v .value (label ++ " must be 32 bytes, got " ++ toString bs.length))) ∧
    (∀ s digits, Hex.Spells s.toList digits →
      (digits.length = 63 ∨ digits.length = 64 →
        ∃ w, ofInput label (.text s) = .ok w ∧ Abi.natOfBytes w.bytes = Hex.number digits) ∧
      (¬ (digits.length = 63 ∨ digits.length = 64) → Refused label (.text s) .value
        (label ++ " must be 32 bytes, got " ++ toString ((digits.length + 1) / 2)))) ∧
    (∀ s, (∀ digits, ¬ Hex.Spells s.toList digits) →
      Refused label (.text s) .value ("Invalid " ++ label ++ ": " ++ (Value.text s).quoted)) ∧
    (∀ v, (∀ s, v ≠ .text s) → (∀ bs, v ≠ .bytes bs ∧ v ≠ .buffer bs) →
      Refused label v .type (label ++ " must be bytes or a hex string, got " ++ v.typeName)) ∧
    ∀ (w : Word) s digits, Hex.Spells s.toList digits →
      digits.map Hex.digit? = (Address.nibbles w.bytes).map some → ofInput label (.text s) = .ok w := by
  refine ⟨?_, ?_, ?_, ?_, ?_⟩
  · intro bs v hv
    have hread : ofInput label v = ofBytes label bs := by rcases hv with rfl | rfl <;> rfl
    rw [Refused, hread]
    exact ⟨ofBytes_of_length, fun h => ⟨_, ofBytes_of_length_ne h, rfl, rfl⟩⟩
  · intro s digits hs
    obtain ⟨-, hdigits⟩ := Hex.spells_iff.1 hs
    obtain ⟨bs, hbs, hlength, hnumber⟩ := Hex.exists_decode?_evened hdigits
    rw [Refused, ofInput_of_decode? hs hbs, ← hlength]
    refine ⟨fun h => ?_, fun h => ?_⟩
    · have h32 : bs.length = 32 := by omega
      exact ⟨⟨bs, h32⟩, ofBytes_of_length h32, hnumber⟩
    · have h32 : bs.length ≠ 32 := by omega
      exact ⟨_, ofBytes_of_length_ne h32, rfl, rfl⟩
  · exact fun s hs => ⟨_, ofInput_of_not_spells hs, rfl, rfl⟩
  · intro v htext hbytes
    refine ⟨.wrongType label v.typeName, ?_, rfl, rfl⟩
    cases v with
    | text s => exact absurd rfl (htext s)
    | bytes bs => exact absurd rfl (hbytes bs).1
    | buffer bs => exact absurd rfl (hbytes bs).2
    | _ => rfl
  · intro w s digits hs hw
    have hlength := congrArg List.length hw
    rw [List.length_map, List.length_map, Address.length_nibbles, w.length_eq] at hlength
    have heven : Hex.evened digits = digits := by rw [Hex.evened, if_neg (by omega)]
    rw [ofInput_of_decode? hs (by rw [heven, Hex.decode?_eq_some_iff, hw])]
    exact ofBytes_of_length w.length_eq

/-- Sixty-three digits behind a tabulator and a mark are the number below 16^63. -/
theorem ofInput_grammar_odd :
    let digits := List.replicate 63 'F'
    let s := String.ofList ('\t' :: '0' :: 'X' :: digits)
    Hex.Spells s.toList digits ∧ digits.length = 63 ∧
      ∃ w, ofInput "root" (.text s) = .ok w ∧ Abi.natOfBytes w.bytes = 16 ^ 63 - 1 := by
  intro digits s
  have hs : Hex.Spells s.toList digits := by
    refine ⟨['\t'], ['0', 'X'], [], ?_, ?_, .inr (.inr rfl), ?_, List.forall_mem_nil _⟩
    · rw [String.toList_ofList, List.append_nil]
      rfl
    · intro c hc
      rw [List.mem_singleton.1 hc]
      rfl
    · intro c hc
      rw [List.eq_of_mem_replicate hc]
      rfl
  obtain ⟨w, hw, hnumber⟩ := ((ofInput_grammar "root").2.1 s digits hs).1 (.inl rfl)
  exact ⟨hs, rfl, w, hw, hnumber.trans (by decide +kernel)⟩

end Word

end Restaking
