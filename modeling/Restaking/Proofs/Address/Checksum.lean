import Restaking.Proofs.Address.Spelling
import Restaking.Proofs.Except

/-!
# The canonical text as a normal form

Whatever spells an address comes to one text, and that text comes to itself. The hash decides the letter case
alone; nothing is taken of it but the length of its output.
-/
namespace Restaking

open Restaking.Text

namespace Text.Hex

theorem toLower_digitChar {n : Nat} (h : n < 16) : (digitChar n).toLower = digitChar n := by
  have all : ∀ m : Fin 16, (digitChar m).toLower = digitChar m := by decide
  exact all ⟨n, h⟩

theorem toLower_toUpper_digitChar {n : Nat} (h : n < 16) : (digitChar n).toUpper.toLower = digitChar n := by
  have all : ∀ m : Fin 16, (digitChar m).toUpper.toLower = digitChar m := by decide
  exact all ⟨n, h⟩

theorem isUpper_digitChar {n : Nat} (h : n < 16) : (digitChar n).isUpper = false := by
  have all : ∀ m : Fin 16, (digitChar m).isUpper = false := by decide
  exact all ⟨n, h⟩

theorem isUpper_toUpper_digitChar {n : Nat} (h : n < 16) (ha : (digitChar n).toUpper.isAlpha = true) :
    (digitChar n).toUpper.isUpper = true := by
  have all : ∀ m : Fin 16, (digitChar m).toUpper.isAlpha = true → (digitChar m).toUpper.isUpper = true := by
    decide
  exact all ⟨n, h⟩ ha

end Text.Hex

namespace Address

/-! ## The letter case -/

theorem length_checksummed (a : Address) : (checksummed a.digits).length = 40 := by
  rw [checksummed, List.length_zipWith, Nat.min_eq_left a.length_digits_le, a.length_digits]

/-- The digits of the canonical text spell the bytes. -/
theorem map_digit?_checksummed_eq_nibbles (a : Address) :
    (checksummed a.digits).map Hex.digit? = (nibbles a.bytes).map some := by
  have hdigits : a.digits.map Hex.digit? = (nibbles a.bytes).map some :=
    Hex.decode?_eq_some_iff.1 (Hex.decode?_encode a.bytes)
  rw [a.map_digit?_checksummed, hdigits]

/-- The checksum is undone by writing all letters in lower case. -/
theorem map_toLower_zipWith {ds : List Char} {ns : List Nat} (hl : ds.length ≤ ns.length)
    (hd : ∀ c ∈ ds, ∃ n, n < 16 ∧ c = Hex.digitChar n) :
    (List.zipWith (fun c n => if 8 ≤ n then c.toUpper else c) ds ns).map Char.toLower = ds := by
  induction ds generalizing ns with
  | nil => rfl
  | cons c rest ih =>
    cases ns with
    | nil => cases hl
    | cons n more =>
      obtain ⟨v, hv, rfl⟩ := hd c List.mem_cons_self
      have head : (if 8 ≤ n then (Hex.digitChar v).toUpper else Hex.digitChar v).toLower =
          Hex.digitChar v := by
        split
        · exact Hex.toLower_toUpper_digitChar hv
        · exact Hex.toLower_digitChar hv
      have tail := ih (Nat.le_of_succ_le_succ hl) fun x hx => hd x (List.mem_cons_of_mem _ hx)
      rw [List.zipWith_cons_cons, List.map_cons, head, tail]

theorem map_toLower_checksummed (a : Address) : (checksummed a.digits).map Char.toLower = a.digits :=
  map_toLower_zipWith a.length_digits_le fun _ hc => Hex.exists_digitChar hc

/-- A letter is upper case exactly where the hash of the lower-case digits has a large nibble. -/
def CaseChecks (digits : List Char) : Prop :=
  ∀ (i : Nat) (c : Char), digits[i]? = some c →
    ∃ n, (nibbles (Keccak.hashText (digits.map Char.toLower)))[i]? = some n ∧
      (c.isAlpha = true → (c.isUpper = true ↔ 8 ≤ n))

theorem caseChecks_checksummed (a : Address) : CaseChecks (checksummed a.digits) := by
  intro i c hc
  rw [a.map_toLower_checksummed]
  rw [checksummed, List.getElem?_zipWith_eq_some] at hc
  obtain ⟨d, n, hd, hn, rfl⟩ := hc
  refine ⟨n, hn, fun halpha => ?_⟩
  obtain ⟨v, hv, rfl⟩ := Hex.exists_digitChar (List.mem_of_getElem? hd)
  by_cases hlarge : 8 ≤ n
  · rw [if_pos hlarge] at halpha ⊢
    exact iff_of_true (Hex.isUpper_toUpper_digitChar hv halpha) hlarge
  · rw [if_neg hlarge, Hex.isUpper_digitChar hv]
    exact iff_of_false Bool.false_ne_true hlarge

/-! ## What stands for an address -/

/-- Forty digits behind a mark or none, or twenty bytes. -/
def Form : Value → Prop
  | .text s => ∃ mark digits, s.toList = mark ++ digits ∧ Hex.IsMark mark ∧ digits.length = 40 ∧
      ∀ c ∈ digits, (Hex.digit? c).isSome
  | .bytes bs | .buffer bs => bs.length = 20
  | _ => False

/-- The bytes that a value stands for: those that its digits spell, two for each byte, or its own. -/
inductive HasBytes : Value → List UInt8 → Prop where
  | text {s : String} {mark digits : List Char} {bs : List UInt8} : s.toList = mark ++ digits →
    Hex.IsMark mark → digits.map Hex.digit? = (nibbles bs).map some → HasBytes (.text s) bs
  | bytes (bs : List UInt8) : HasBytes (.bytes bs) bs
  | buffer (bs : List UInt8) : HasBytes (.buffer bs) bs

theorem hasBytes_iff {v : Value} {a : Address} : ofValue? v = some a ↔ HasBytes v a.bytes := by
  constructor
  · intro h
    cases v with
    | text s =>
      obtain ⟨mark, digits, hs, hmark, hdigits⟩ := ofText?_eq_some_iff.1 h
      exact .text hs hmark hdigits
    | bytes bs =>
      rw [ofBytes?_eq_some_iff.1 h]
      exact .bytes a.bytes
    | buffer bs =>
      rw [ofBytes?_eq_some_iff.1 h]
      exact .buffer a.bytes
    | _ => cases h
  · intro h
    cases h with
    | text hs hmark hdigits => exact ofText?_eq_some_iff.2 ⟨_, _, hs, hmark, hdigits⟩
    | bytes | buffer => exact ofBytes?_eq_some_iff.2 rfl

theorem exists_hasBytes_of_form {v : Value} (h : Form v) : ∃ a : Address, HasBytes v a.bytes := by
  cases v with
  | text s =>
    obtain ⟨mark, digits, hs, hmark, hlength, hdigits⟩ := h
    obtain ⟨bs, hbs⟩ := Hex.exists_decode? hdigits (by rw [hlength])
    have hmap := Hex.decode?_eq_some_iff.1 hbs
    have htwenty : bs.length = 20 := by
      have hlengths := congrArg List.length hmap
      rw [List.length_map, List.length_map, length_nibbles, hlength] at hlengths
      omega
    exact ⟨⟨bs, htwenty⟩, .text hs hmark hmap⟩
  | bytes bs => exact ⟨⟨bs, h⟩, .bytes bs⟩
  | buffer bs => exact ⟨⟨bs, h⟩, .buffer bs⟩
  | _ => exact h.elim

theorem form_of_hasBytes {v : Value} {a : Address} (h : HasBytes v a.bytes) : Form v := by
  cases h with
  | text hs hmark hdigits =>
    refine ⟨_, _, hs, hmark, ?_, fun c hc => digit?_isSome_of_map hdigits hc⟩
    have hlengths := congrArg List.length hdigits
    rwa [List.length_map, List.length_map, length_nibbles, a.length_eq] at hlengths
  | bytes | buffer => exact a.length_eq

theorem bytes_injective {a b : Address} (h : a.bytes = b.bytes) : a = b := by
  cases a
  cases b
  cases h
  rfl

theorem HasBytes.unique {v : Value} {bs bs' : List UInt8} (h : HasBytes v bs) (h' : HasBytes v bs') :
    bs = bs' := by
  cases h with
  | text hs hmark hdigits =>
    cases h' with
    | text hs' hmark' hdigits' =>
      have hdrop := Hex.dropMark_append hmark fun c => digit?_isSome_of_map hdigits
      have hdrop' := Hex.dropMark_append hmark' fun c => digit?_isSome_of_map hdigits'
      rw [← hs] at hdrop
      rw [← hs', hdrop] at hdrop'
      have hbs := Hex.decode?_eq_some_iff.2 hdigits
      rw [hdrop', Hex.decode?_eq_some_iff.2 hdigits'] at hbs
      exact (Option.some.inj hbs).symm
  | bytes | buffer =>
    cases h'
    rfl

/-! ## The canonical text of a value -/

/-- The canonical text of the address that a caller gave. -/
def canonicalText (label : String) (v : Value) : Except InputError String := (ofInput label v).map text

variable {label : String} {v : Value}

theorem canonicalText_of_hasBytes {a : Address} (h : HasBytes v a.bytes) :
    canonicalText label v = .ok a.text := by
  rw [canonicalText, ofInput, hasBytes_iff.2 h]
  rfl

theorem hasBytes_of_canonicalText {r : String} (h : canonicalText label v = .ok r) :
    ∃ a : Address, HasBytes v a.bytes ∧ a.text = r := by
  obtain ⟨a, ha, rfl⟩ := map_eq_ok h
  unfold ofInput at ha
  split at ha
  · rename_i b hb
    cases ha
    exact ⟨a, hasBytes_iff.1 hb, rfl⟩
  · cases ha

theorem canonicalText_of_not_form (h : ¬ Form v) : canonicalText label v = .error (.notAddress label v) := by
  have hnone : ofValue? v = none := by
    cases hv : ofValue? v with
    | none => rfl
    | some a => exact absurd (form_of_hasBytes (hasBytes_iff.1 hv)) h
  rw [canonicalText, ofInput, hnone]
  rfl

/-- A value of the form of an address has a canonical text, and every other one is refused by showing it. The
text is a mark and forty digits that spell the value's bytes, in the letter case that the hash gives them. Two
values have one text exactly when they have the same bytes, and the text is its own canonical text. -/
theorem canonicalText_normal_form (label : String) :
    (∀ v, (∃ r, canonicalText label v = .ok r) ↔ Form v) ∧
    (∀ v, ¬ Form v → ∃ e, canonicalText label v = .error e ∧ e.kind = .value ∧
      e.message = "Invalid " ++ label ++ ": " ++ v.plain) ∧
    (∀ v r, canonicalText label v = .ok r → ∃ bs digits, bs.length = 20 ∧ HasBytes v bs ∧
      r.toList = '0' :: 'x' :: digits ∧ digits.length = 40 ∧
      digits.map Hex.digit? = (nibbles bs).map some ∧ CaseChecks digits) ∧
    (∀ v w r q, canonicalText label v = .ok r → canonicalText label w = .ok q →
      (r = q ↔ ∃ bs, HasBytes v bs ∧ HasBytes w bs)) ∧
    ∀ v r, canonicalText label v = .ok r → canonicalText label (.text r) = .ok r := by
  refine ⟨fun v => ⟨?_, ?_⟩, ?_, ?_, ?_, ?_⟩
  · rintro ⟨r, hr⟩
    obtain ⟨a, ha, -⟩ := hasBytes_of_canonicalText hr
    exact form_of_hasBytes ha
  · intro hform
    obtain ⟨a, ha⟩ := exists_hasBytes_of_form hform
    exact ⟨a.text, canonicalText_of_hasBytes ha⟩
  · exact fun v hform => ⟨_, canonicalText_of_not_form hform, rfl, rfl⟩
  · intro v r hr
    obtain ⟨a, ha, rfl⟩ := hasBytes_of_canonicalText hr
    exact ⟨a.bytes, checksummed a.digits, a.length_eq, ha, String.toList_ofList, a.length_checksummed,
      a.map_digit?_checksummed_eq_nibbles, a.caseChecks_checksummed⟩
  · intro v w r q hr hq
    obtain ⟨a, ha, rfl⟩ := hasBytes_of_canonicalText hr
    obtain ⟨b, hb, rfl⟩ := hasBytes_of_canonicalText hq
    constructor
    · intro h
      obtain rfl := text_injective h
      exact ⟨a.bytes, ha, hb⟩
    · rintro ⟨bs, hv, hw⟩
      have hbytes : a.bytes = b.bytes := (ha.unique hv).trans (hw.unique hb)
      rw [bytes_injective hbytes]
  · intro v r hr
    obtain ⟨a, -, rfl⟩ := hasBytes_of_canonicalText hr
    rw [canonicalText, ofInput_text]
    rfl

/-- Letters in any case and a buffer of the same bytes have one text, whose letters are in the case that the
hash of the digits gives them. -/
theorem canonicalText_normal_form_mixed :
    let bytes := List.replicate 20 (0xAB : UInt8)
    let digits := (List.replicate 20 ['a', 'B']).flatten
    let s := String.ofList ('0' :: 'X' :: digits)
    let r := "0xABaBaBaBABabABabAbAbABAbABabababaBaBABaB"
    Form (.buffer bytes) ∧ Form (.text s) ∧ canonicalText "operator" (.buffer bytes) = .ok r ∧
      canonicalText "operator" (.text s) = .ok r ∧ canonicalText "operator" (.text r) = .ok r := by
  intro bytes digits s r
  have hmap : digits.map Hex.digit? = (nibbles bytes).map some := by decide
  have hs : s.toList = ['0', 'X'] ++ digits := String.toList_ofList
  have htext : HasBytes (.text s) bytes := .text hs (.inr (.inr rfl)) hmap
  have hbuffer : Form (.buffer bytes) := by rw [Form]; decide
  have hform : Form (.text s) :=
    ⟨_, digits, hs, .inr (.inr rfl), rfl, fun c hc => digit?_isSome_of_map hmap hc⟩
  obtain ⟨hread, -, -, hsame, hagain⟩ := canonicalText_normal_form "operator"
  have hr : canonicalText "operator" (.buffer bytes) = .ok r := by
    have hcase : (⟨bytes, rfl⟩ : Address).text = r := by decide +kernel
    rw [← hcase]
    exact canonicalText_of_hasBytes (.buffer bytes)
  obtain ⟨q, hq⟩ := (hread (.text s)).2 hform
  obtain rfl := (hsame _ _ r q hr hq).2 ⟨bytes, .buffer bytes, htext⟩
  exact ⟨hbuffer, hform, hr, hq, hagain _ r hr⟩

end Address

end Restaking
