import Mathlib.Data.List.TakeWhile
import Restaking.Proofs.Address.Text

/-!
# Spellings of an address

What a text for an address may look like: forty digits of either case after one mark or none. Blanks around it
are the business of readers that trim; what trimming leaves and removes is stated for any set of characters.
-/
namespace Restaking

namespace Text

variable {p : Char → Bool} {before cs after : List Char}

theorem trimWhere_append (hbefore : ∀ c ∈ before, p c = true) (hcs : ∀ c ∈ cs, p c = false)
    (hafter : ∀ c ∈ after, p c = true) : trimWhere p (before ++ cs ++ after) = cs := by
  have hend : ∀ c ∈ after.reverse, p c = true := fun c hc => hafter c (List.mem_reverse.1 hc)
  -- With nothing in the middle the first pass takes all; otherwise each pass stops at the middle.
  cases cs with
  | nil =>
    have hall : (before ++ [] ++ after).dropWhile p = [] := by
      rw [List.append_nil, List.dropWhile_append_of_pos hbefore, List.dropWhile_eq_nil_iff]
      exact hafter
    rw [trimWhere, hall]
    rfl
  | cons c rest =>
    have hstart : (before ++ (c :: rest) ++ after).dropWhile p = (c :: rest) ++ after := by
      rw [List.append_assoc, List.dropWhile_append_of_pos hbefore, List.cons_append,
        List.dropWhile_cons_of_neg (by rw [hcs c List.mem_cons_self]; decide)]
    have hcore : ((c :: rest).reverse).dropWhile p = (c :: rest).reverse := by
      cases hreverse : (c :: rest).reverse with
      | nil => rfl
      | cons d more =>
        have hd : d ∈ c :: rest := List.mem_reverse.1 (hreverse ▸ List.mem_cons_self)
        rw [List.dropWhile_cons_of_neg (by rw [hcs d hd]; decide)]
    rw [trimWhere, hstart, List.reverse_append, List.dropWhile_append_of_pos hend, hcore,
      List.reverse_reverse]

/-- What trimming removes stands at the ends. -/
theorem exists_trimWhere (p : Char → Bool) (cs : List Char) :
    ∃ before after, cs = before ++ trimWhere p cs ++ after ∧ (∀ c ∈ before, p c = true) ∧
      ∀ c ∈ after, p c = true := by
  refine ⟨cs.takeWhile p, (((cs.dropWhile p).reverse).takeWhile p).reverse, ?_, ?_, ?_⟩
  · rw [List.append_assoc, trimWhere, ← List.reverse_append, List.takeWhile_append_dropWhile,
      List.reverse_reverse, List.takeWhile_append_dropWhile]
  · exact fun c hc => List.mem_takeWhile_imp hc
  · exact fun c hc => List.mem_takeWhile_imp (List.mem_reverse.1 hc)

theorem trimWhere_eq_nil_iff : trimWhere p cs = [] ↔ ∀ c ∈ cs, p c = true := by
  constructor
  · intro h c hc
    obtain ⟨before, after, hcs, hbefore, hafter⟩ := exists_trimWhere p cs
    rw [hcs, h, List.append_nil, List.mem_append] at hc
    exact hc.elim (hbefore c) (hafter c)
  · intro h
    rw [trimWhere, List.dropWhile_eq_nil_iff.2 h]
    rfl

namespace Hex

theorem digit?_lt {c : Char} {n : Nat} (h : digit? c = some n) : n < 16 := by
  unfold digit? at h
  simp only [Char.le_def, UInt32.le_iff_toNat_le] at h
  change (if 48 ≤ c.toNat ∧ c.toNat ≤ 57 then some (c.toNat - 48)
    else if 97 ≤ c.toNat ∧ c.toNat ≤ 102 then some (c.toNat - 87)
    else if 65 ≤ c.toNat ∧ c.toNat ≤ 70 then some (c.toNat - 55) else none) = some n at h
  split at h
  · cases h
    omega
  · split at h
    · cases h
      omega
    · split at h
      · cases h
        omega
      · cases h

/-- Zero has no digit but one. -/
theorem digit?_eq_zero_iff {c : Char} : digit? c = some 0 ↔ c = '0' := by
  constructor
  · intro h
    unfold digit? at h
    split at h
    · rename_i hrange
      have hle : c.toNat - 48 = 0 := Option.some.inj h
      have hge : 48 ≤ c.toNat := hrange.1
      have hzero : '0'.toNat = 48 := rfl
      exact Char.toNat_inj.1 (by omega)
    · split at h
      · rename_i hrange
        have hle : c.toNat - 87 = 0 := Option.some.inj h
        have hge : 97 ≤ c.toNat := hrange.1
        omega
      · split at h
        · rename_i hrange
          have hle : c.toNat - 55 = 0 := Option.some.inj h
          have hge : 65 ≤ c.toNat := hrange.1
          omega
        · cases h
  · rintro rfl
    rfl

/-- Digits are read by their values alone, two for each byte. -/
theorem decode?_eq_some_iff : ∀ {cs : List Char} {bs : List UInt8},
    decode? cs = some bs ↔ cs.map digit? = (Address.nibbles bs).map some
  | [], [] => by simp [decode?, Address.nibbles]
  | [], b :: bs => by simp [decode?, Address.nibbles]
  | [_], [] => by simp [decode?, Address.nibbles]
  | [_], b :: bs => by simp [decode?, Address.nibbles]
  | _ :: _ :: _, [] => by
    constructor
    · intro h
      rw [decode?] at h
      obtain ⟨high, -, h⟩ := Option.bind_eq_some_iff.1 h
      obtain ⟨low, -, h⟩ := Option.bind_eq_some_iff.1 h
      obtain ⟨bytes, -, h⟩ := Option.bind_eq_some_iff.1 h
      cases h
    · intro h
      cases h
  | c :: d :: rest, b :: bs => by
    have hb := b.toNat_lt
    have hnibbles : Address.nibbles (b :: bs) = b.toNat / 16 :: b.toNat % 16 :: Address.nibbles bs := rfl
    rw [decode?, hnibbles, List.map_cons, List.map_cons, List.map_cons, List.map_cons, List.cons.injEq,
      List.cons.injEq, ← decode?_eq_some_iff]
    constructor
    · intro h
      obtain ⟨high, hhigh, h⟩ := Option.bind_eq_some_iff.1 h
      obtain ⟨low, hlow, h⟩ := Option.bind_eq_some_iff.1 h
      obtain ⟨bytes, hbytes, h⟩ := Option.bind_eq_some_iff.1 h
      cases h
      have hhigh16 := digit?_lt hhigh
      have hlow16 := digit?_lt hlow
      have hvalue : (UInt8.ofNat (16 * high + low)).toNat = 16 * high + low := by
        rw [UInt8.toNat_ofNat']
        omega
      rw [hhigh, hlow, hbytes, hvalue]
      refine ⟨congrArg some ?_, congrArg some ?_, rfl⟩ <;> omega
    · rintro ⟨hhigh, hlow, hbytes⟩
      have hjoin : 16 * (b.toNat / 16) + b.toNat % 16 = b.toNat := by omega
      rw [hhigh, hlow, hbytes]
      change some (UInt8.ofNat (16 * (b.toNat / 16) + b.toNat % 16) :: bs) = _
      rw [hjoin, UInt8.ofNat_toNat]

/-- Digits are read whenever their number is even. -/
theorem exists_decode? : ∀ {cs : List Char}, (∀ c ∈ cs, (digit? c).isSome) → cs.length % 2 = 0 →
    ∃ bs, decode? cs = some bs
  | [], _, _ => ⟨[], rfl⟩
  | [_], _, heven => by cases heven
  | c :: d :: rest, hcs, heven => by
    obtain ⟨high, hhigh⟩ := Option.isSome_iff_exists.1 (hcs c (by simp))
    obtain ⟨low, hlow⟩ := Option.isSome_iff_exists.1 (hcs d (by simp))
    have hrest : rest.length % 2 = 0 := by
      rw [List.length_cons, List.length_cons] at heven
      omega
    obtain ⟨bs, hbs⟩ := exists_decode? (fun x hx => hcs x (by simp [hx])) hrest
    exact ⟨UInt8.ofNat (16 * high + low) :: bs, by rw [decode?, hhigh, hlow, hbs]; rfl⟩

/-- What may stand before the digits. -/
def IsMark (cs : List Char) : Prop := cs = [] ∨ cs = ['0', 'x'] ∨ cs = ['0', 'X']

theorem exists_dropMark (cs : List Char) : ∃ mark, IsMark mark ∧ cs = mark ++ dropMark cs := by
  unfold dropMark
  split
  · exact ⟨['0', 'x'], .inr (.inl rfl), rfl⟩
  · exact ⟨['0', 'X'], .inr (.inr rfl), rfl⟩
  · exact ⟨[], .inl rfl, rfl⟩

theorem dropMark_append {mark digits : List Char} (hmark : IsMark mark)
    (hdigits : ∀ c ∈ digits, (digit? c).isSome) : dropMark (mark ++ digits) = digits := by
  rcases hmark with rfl | rfl | rfl
  · rw [List.nil_append]
    unfold dropMark
    split
    · cases hdigits 'x' (by simp)
    · cases hdigits 'X' (by simp)
    · rfl
  · rfl
  · rfl

theorem isBlank_of_mem_mark {mark : List Char} (hmark : IsMark mark) {c : Char} (hc : c ∈ mark) :
    isBlank c = false := by
  rcases hmark with rfl | rfl | rfl
  · cases hc
  · rcases List.mem_cons.1 hc with rfl | hc
    · rfl
    · rw [List.mem_singleton.1 hc]
      rfl
  · rcases List.mem_cons.1 hc with rfl | hc
    · rfl
    · rw [List.mem_singleton.1 hc]
      rfl

theorem isBlank_of_mem_spelling {mark digits : List Char} (hmark : IsMark mark)
    (hdigits : ∀ c ∈ digits, (digit? c).isSome) : ∀ c ∈ mark ++ digits, isBlank c = false := by
  intro c hc
  rcases List.mem_append.1 hc with hc | hc
  · exact isBlank_of_mem_mark hmark hc
  · exact isBlank_of_digit?_isSome (hdigits c hc)

end Hex

end Text

open Text

namespace Address

theorem ofBytes?_eq_some_iff {bs : List UInt8} {a : Address} : ofBytes? bs = some a ↔ bs = a.bytes := by
  unfold ofBytes?
  constructor
  · intro h
    split at h
    · cases h
      rfl
    · cases h
  · rintro rfl
    rw [dif_pos a.length_eq]

theorem digit?_isSome_of_map {digits : List Char} {ns : List Nat}
    (h : digits.map Hex.digit? = ns.map some) {c : Char} (hc : c ∈ digits) : (Hex.digit? c).isSome := by
  have hmem : Hex.digit? c ∈ ns.map some := h ▸ List.mem_map_of_mem hc
  obtain ⟨n, -, hn⟩ := List.mem_map.1 hmem
  rw [← hn]
  rfl

/-- A text spells an address by a mark and the digits of its bytes, in any case. -/
theorem ofText?_eq_some_iff {cs : List Char} {a : Address} :
    ofText? cs = some a ↔ ∃ mark digits, cs = mark ++ digits ∧ Hex.IsMark mark ∧
      digits.map Hex.digit? = (nibbles a.bytes).map some := by
  constructor
  · intro h
    obtain ⟨bs, hbs, ha⟩ := Option.bind_eq_some_iff.1 h
    obtain rfl := ofBytes?_eq_some_iff.1 ha
    obtain ⟨mark, hmark, hcs⟩ := Hex.exists_dropMark cs
    exact ⟨mark, Hex.dropMark cs, hcs, hmark, Hex.decode?_eq_some_iff.1 hbs⟩
  · rintro ⟨mark, digits, rfl, hmark, hdigits⟩
    rw [ofText?, Hex.dropMark_append hmark fun c => digit?_isSome_of_map hdigits,
      Hex.decode?_eq_some_iff.2 hdigits]
    exact ofBytes?_eq_some_iff.2 rfl

end Address

end Restaking
