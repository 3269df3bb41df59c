import Restaking.Decimal.Reader
import Restaking.Proofs.Address.Spelling

/-!
# How doubles are spelled

A grammar of the texts that are read as doubles: a sign or none before a word, or before digits with a point
among them or none and an exponent or none. Blanks may stand around the number; a text without any may have
single underscores inside. The reader takes exactly these texts and for these numbers. Which double is nearest
to a decimal is not looked into.
-/
namespace Restaking.Decimal

open Restaking.Text

/-! ## The grammar -/

/-- Digits alone, or nothing. -/
def Digits (cs : List Char) : Prop := ∀ c ∈ cs, isDigit c = true

/-- An exponent and its number. -/
inductive Exponent : List Char → Int → Prop where
  | none : Exponent [] 0
  | plain {mark : Char} {digits : List Char} : mark = 'e' ∨ mark = 'E' → digits ≠ [] → Digits digits →
    Exponent (mark :: digits) (digitsOf digits)
  | plus {mark : Char} {digits : List Char} : mark = 'e' ∨ mark = 'E' → digits ≠ [] → Digits digits →
    Exponent (mark :: '+' :: digits) (digitsOf digits)
  | minus {mark : Char} {digits : List Char} : mark = 'e' ∨ mark = 'E' → digits ≠ [] → Digits digits →
    Exponent (mark :: '-' :: digits) (-digitsOf digits)

/-- Digits with an exponent, and the double nearest to them. Digits behind a point lower the exponent. -/
inductive Unsigned : List Char → Float → Prop where
  | whole {digits exponent : List Char} {e : Int} : digits ≠ [] → Digits digits → Exponent exponent e →
    Unsigned (digits ++ exponent) (nearest (digitsOf digits) e)
  | point {whole fraction exponent : List Char} {e : Int} : whole ++ fraction ≠ [] → Digits whole →
    Digits fraction → Exponent exponent e →
    Unsigned (whole ++ '.' :: (fraction ++ exponent))
      (nearest (digitsOf (whole ++ fraction)) (e - fraction.length))

/-- The word in any letter case. -/
def IsWord (word : String) (cs : List Char) : Prop := cs.map Char.toLower = word.toList

/-- A word or a decimal. -/
inductive Magnitude : List Char → Float → Prop where
  | infinity {cs : List Char} : IsWord "inf" cs ∨ IsWord "infinity" cs → Magnitude cs (1.0 / 0.0)
  | nan {cs : List Char} : IsWord "nan" cs → Magnitude cs (0.0 / 0.0)
  | decimal {cs : List Char} {x : Float} : Unsigned cs x → Magnitude cs x

/-- A magnitude behind a sign or none. -/
inductive Signed : List Char → Float → Prop where
  | bare {cs : List Char} {x : Float} : Magnitude cs x → Signed cs x
  | plus {cs : List Char} {x : Float} : Magnitude cs x → Signed ('+' :: cs) x
  | minus {cs : List Char} {x : Float} : Magnitude cs x → Signed ('-' :: cs) x.neg

/-- No underscore stands at an end or beside another one. -/
def Separated (cs : List Char) : Prop :=
  cs.head? ≠ some '_' ∧ cs.getLast? ≠ some '_' ∧ ¬ ['_', '_'] <:+: cs

/-- A text of a number: blanks around it, or underscores in it. -/
inductive Spells : List Char → Float → Prop where
  | padded {before cs after : List Char} {x : Float} : (∀ c ∈ before, isSpace c = true) → Signed cs x →
    (∀ c ∈ after, isSpace c = true) → Spells (before ++ cs ++ after) x
  | separated {cs : List Char} {x : Float} : Separated cs → Signed (cs.filter (· != '_')) x → Spells cs x

/-! ## Exponents -/

theorem isDigit_iff {c : Char} : isDigit c = true ↔ 48 ≤ c.toNat ∧ c.toNat ≤ 57 := by
  simp only [isDigit, asciiDigit?, Char.le_def, UInt32.le_iff_toNat_le]
  change (if 48 ≤ c.toNat ∧ c.toNat ≤ 57 then some (c.toNat - 48) else none).isSome = true ↔ _
  split <;> simp_all

theorem all_isDigit_iff {cs : List Char} : cs.all isDigit = true ↔ Digits cs := List.all_eq_true

/-- The test of an exponent's digits. -/
theorem isEmpty_or_not_all_iff {cs : List Char} :
    ¬ (cs.isEmpty || !cs.all isDigit) = true ↔ cs ≠ [] ∧ Digits cs := by
  rw [← all_isDigit_iff, Bool.or_eq_true, not_or, List.isEmpty_iff, Bool.not_eq_true', Bool.not_eq_false]

theorem isMark_iff {mark : Char} : (mark == 'e' || mark == 'E') = true ↔ mark = 'e' ∨ mark = 'E' := by
  rw [Bool.or_eq_true, beq_iff_eq, beq_iff_eq]

theorem exponent_of_readExponent? {cs : List Char} {e : Int} (h : readExponent? cs = some e) :
    Exponent cs e := by
  revert h
  fun_cases readExponent? cs with
  | case1 =>
    rintro ⟨⟩
    exact .none
  | case2 | case4 => exact nofun
  | case3 mark rest hmark negative digits hsigned hread =>
    rintro ⟨⟩
    obtain ⟨hne, hdigits⟩ := isEmpty_or_not_all_iff.1 hread
    have hmark := isMark_iff.1 hmark
    split at hsigned <;> cases hsigned
    · exact .minus hmark hne hdigits
    · exact .plus hmark hne hdigits
    · exact .plain hmark hne hdigits

theorem readExponent?_eq_some_iff {cs : List Char} {e : Int} : readExponent? cs = some e ↔ Exponent cs e := by
  refine ⟨exponent_of_readExponent?, fun h => ?_⟩
  cases h with
  | none => rfl
  | plus hmark hne hdigits | minus hmark hne hdigits =>
    rw [readExponent?, if_pos (isMark_iff.2 hmark), if_neg (isEmpty_or_not_all_iff.2 ⟨hne, hdigits⟩)]
    rfl
  | @plain mark digits hmark hne hdigits =>
    -- The first digit is no sign.
    have hnot {sign : Char} (hsign : isDigit sign = false) (r : List Char) (hr : digits = sign :: r) :
        False := by
      subst hr
      exact absurd (hdigits sign List.mem_cons_self) (by simp [hsign])
    rw [readExponent?, if_pos (isMark_iff.2 hmark), if_neg (isEmpty_or_not_all_iff.2 ⟨hne, hdigits⟩)]
    · rfl
    · exact hnot rfl
    · exact hnot rfl

/-! ## Decimals -/

/-- Nothing that an exponent begins with is a digit or a point. -/
theorem Exponent.head {cs : List Char} {e : Int} (h : Exponent cs e) {c : Char} {rest : List Char}
    (hcs : cs = c :: rest) : isDigit c = false ∧ c ≠ '.' := by
  cases h with
  | none => cases hcs
  | plain hmark | plus hmark | minus hmark =>
    cases hcs
    rcases hmark with rfl | rfl <;> decide

theorem span_digits {digits : List Char} (hdigits : Digits digits) {rest : List Char}
    (hrest : ∀ c more, rest = c :: more → isDigit c = false) :
    (digits ++ rest).takeWhile isDigit = digits ∧ (digits ++ rest).dropWhile isDigit = rest := by
  rw [List.takeWhile_append_of_pos hdigits, List.dropWhile_append_of_pos hdigits]
  cases rest with
  | nil => exact ⟨List.append_nil _, rfl⟩
  | cons c more =>
    have hc := hrest c more rfl
    rw [List.takeWhile_cons_of_neg (by simp [hc]), List.dropWhile_cons_of_neg (by simp [hc])]
    exact ⟨List.append_nil _, rfl⟩

theorem unsigned_of_readUnsigned? {cs : List Char} {x : Float} (h : readUnsigned? cs = some x) :
    Unsigned cs x := by
  revert h
  fun_cases readUnsigned? cs with
  | case1 => exact nofun
  | case2 whole fraction rest hpoint hsome =>
    intro h
    obtain ⟨e, he, rfl⟩ := Option.map_eq_some_iff.1 h
    have hexponent := exponent_of_readExponent? he
    have hcs : whole ++ cs.dropWhile isDigit = cs := List.takeWhile_append_dropWhile
    have hwhole : Digits whole := fun c hc => List.mem_takeWhile_imp hc
    rw [Bool.and_eq_true, List.isEmpty_iff, List.isEmpty_iff, ← List.append_eq_nil_iff] at hsome
    split at hpoint
    · rename_i r hr
      cases hpoint
      rw [hr, ← List.takeWhile_append_dropWhile (p := isDigit) (l := r)] at hcs
      rw [← hcs]
      exact .point hsome hwhole (fun c hc => List.mem_takeWhile_imp hc) hexponent
    · cases hpoint
      rw [List.append_nil] at hsome ⊢
      rw [← hcs]
      have hunsigned := Unsigned.whole hsome hwhole hexponent
      rwa [List.length_nil, Int.natCast_zero, Int.sub_zero]

theorem readUnsigned?_eq_some_iff {cs : List Char} {x : Float} :
    readUnsigned? cs = some x ↔ Unsigned cs x := by
  refine ⟨unsigned_of_readUnsigned?, fun h => ?_⟩
  unfold readUnsigned?
  cases h with
  | @whole digits exponent e hne hdigits hexponent =>
    obtain ⟨htake, hdrop⟩ := span_digits hdigits fun c more hcs => (hexponent.head hcs).1
    -- No point follows the digits, so the reader goes on to the exponent.
    have hpoint (r : List Char) (hr : exponent = '.' :: r) : False := (hexponent.head hr).2 rfl
    have hempty : digits.isEmpty = false := List.isEmpty_eq_false_iff.2 hne
    simp only [htake, hdrop, hempty, Bool.false_and, Bool.false_eq_true, if_false, List.append_nil,
      readExponent?_eq_some_iff.2 hexponent, Option.map_some, List.length_nil, Int.natCast_zero, Int.sub_zero]
  | @point whole fraction exponent e hne hwhole hfraction hexponent =>
    have hpoint (c : Char) (more : List Char) (hcs : '.' :: (fraction ++ exponent) = c :: more) :
        isDigit c = false := by
      cases hcs
      rfl
    obtain ⟨htake, hdrop⟩ := span_digits hwhole hpoint
    obtain ⟨htake', hdrop'⟩ := span_digits hfraction fun c more hcs => (hexponent.head hcs).1
    have hempty : ¬ (whole.isEmpty && fraction.isEmpty) = true := by
      rwa [Bool.and_eq_true, List.isEmpty_iff, List.isEmpty_iff, ← List.append_eq_nil_iff]
    simp only [htake, hdrop, htake', hdrop', if_neg hempty, readExponent?_eq_some_iff.2 hexponent,
      Option.map_some]

/-- A decimal begins with a digit or its point. -/
theorem Unsigned.head {cs : List Char} {x : Float} (h : Unsigned cs x) :
    ∃ c rest, cs = c :: rest ∧ (isDigit c = true ∨ c = '.') := by
  cases h with
  | @whole digits exponent e hne hdigits =>
    obtain ⟨c, rest, rfl⟩ := List.exists_cons_of_ne_nil hne
    exact ⟨c, rest ++ exponent, rfl, .inl (hdigits c List.mem_cons_self)⟩
  | @point whole fraction exponent e hne hwhole =>
    cases whole with
    | nil => exact ⟨'.', fraction ++ exponent, rfl, .inr rfl⟩
    | cons c rest => exact ⟨c, rest ++ '.' :: (fraction ++ exponent), rfl, .inl (hwhole c List.mem_cons_self)⟩

/-! ## Words and signs -/

/-- A letter of either case. -/
def IsLetter (c : Char) : Prop := (65 ≤ c.toNat ∧ c.toNat ≤ 90) ∨ (97 ≤ c.toNat ∧ c.toNat ≤ 122)

instance (c : Char) : Decidable (IsLetter c) := inferInstanceAs (Decidable (_ ∨ _))

theorem IsLetter.not_unsigned {c : Char} (h : IsLetter c) : ¬ (isDigit c = true ∨ c = '.') := by
  rintro (hdigit | rfl)
  · have hrange := isDigit_iff.1 hdigit
    unfold IsLetter at h
    omega
  · exact absurd h (by decide)

theorem isWord_iff {word : String} {cs : List Char} :
    (String.ofList (cs.map Char.toLower) == word) = true ↔ IsWord word cs := by
  rw [beq_iff_eq, IsWord, ← String.toList_inj, String.toList_ofList]

theorem isInfinity_iff {cs : List Char} :
    (String.ofList (cs.map Char.toLower) == "inf" ||
      String.ofList (cs.map Char.toLower) == "infinity") = true ↔
      IsWord "inf" cs ∨ IsWord "infinity" cs := by
  rw [Bool.or_eq_true, isWord_iff, isWord_iff]

theorem IsWord.isLetter {word : String} {cs : List Char} (h : IsWord word cs)
    (hword : word.toList.all Char.isLower = true) : ∀ c ∈ cs, IsLetter c := by
  intro c hc
  by_cases hupper : 65 ≤ c.toNat ∧ c.toNat ≤ 90
  · exact .inl hupper
  · have hself : c.toLower = c := dif_neg hupper
    have hmem : c ∈ word.toList := h ▸ hself ▸ List.mem_map_of_mem hc
    have hlower : (decide (97 ≤ c.toNat) && decide (c.toNat ≤ 122)) = true := List.all_eq_true.1 hword c hmem
    rw [Bool.and_eq_true, decide_eq_true_eq, decide_eq_true_eq] at hlower
    exact .inr hlower

/-- The words of numbers are letters. -/
theorem isLetter_of_isWord {cs : List Char} (h : (IsWord "inf" cs ∨ IsWord "infinity" cs) ∨ IsWord "nan" cs) :
    ∀ c ∈ cs, IsLetter c := by
  rcases h with (h | h) | h <;> exact h.isLetter (by decide)

theorem readMagnitude?_eq_some_iff {cs : List Char} {x : Float} :
    readMagnitude? cs = some x ↔ Magnitude cs x := by
  constructor
  · fun_cases readMagnitude? cs with
    | case1 word hword =>
      rintro ⟨⟩
      exact .infinity (isInfinity_iff.1 hword)
    | case2 word hother hword =>
      rintro ⟨⟩
      exact .nan (isWord_iff.1 hword)
    | case3 => exact fun h => .decimal (readUnsigned?_eq_some_iff.1 h)
  · intro h
    unfold readMagnitude?
    cases h with
    | infinity hword => exact if_pos (isInfinity_iff.2 hword)
    | nan hword =>
      have hinfinity : ¬ (IsWord "inf" cs ∨ IsWord "infinity" cs) := by
        rintro (hother | hother) <;> exact absurd (hword.symm.trans hother) (by decide)
      rw [if_neg (mt isInfinity_iff.1 hinfinity), if_pos (isWord_iff.2 hword)]
    | decimal hunsigned =>
      -- A decimal's first character is no letter, so it is none of the words.
      obtain ⟨c, rest, rfl, hc⟩ := hunsigned.head
      have hword :
          ¬ ((IsWord "inf" (c :: rest) ∨ IsWord "infinity" (c :: rest)) ∨ IsWord "nan" (c :: rest)) :=
        fun hword => (isLetter_of_isWord hword c List.mem_cons_self).not_unsigned hc
      obtain ⟨hinfinity, hnan⟩ := not_or.1 hword
      rw [if_neg (mt isInfinity_iff.1 hinfinity), if_neg (mt isWord_iff.1 hnan),
        readUnsigned?_eq_some_iff.2 hunsigned]

/-- A magnitude begins with no sign. -/
theorem Magnitude.head {c : Char} {rest : List Char} {x : Float} (h : Magnitude (c :: rest) x) :
    c ≠ '-' ∧ c ≠ '+' := by
  have hletter (hc : IsLetter c) : c ≠ '-' ∧ c ≠ '+' := by
    constructor <;> rintro rfl <;> exact absurd hc (by decide)
  cases h with
  | infinity hword => exact hletter (isLetter_of_isWord (.inl hword) c List.mem_cons_self)
  | nan hword => exact hletter (isLetter_of_isWord (.inr hword) c List.mem_cons_self)
  | decimal hunsigned =>
    obtain ⟨_, _, hcons, hc⟩ := hunsigned.head
    cases hcons
    rcases hc with hdigit | rfl
    · constructor <;> rintro rfl <;> cases hdigit
    · decide

theorem readSigned?_eq_some_iff {cs : List Char} {x : Float} : readSigned? cs = some x ↔ Signed cs x := by
  constructor
  · fun_cases readSigned? cs with
    | case1 rest =>
      intro h
      obtain ⟨y, hy, rfl⟩ := Option.map_eq_some_iff.1 h
      exact .minus (readMagnitude?_eq_some_iff.1 hy)
    | case2 rest => exact fun h => .plus (readMagnitude?_eq_some_iff.1 h)
    | case3 rest => exact fun h => .bare (readMagnitude?_eq_some_iff.1 h)
  · intro h
    cases h with
    | plus hmagnitude => exact readMagnitude?_eq_some_iff.2 hmagnitude
    | minus hmagnitude => exact congrArg (Option.map Float.neg) (readMagnitude?_eq_some_iff.2 hmagnitude)
    | bare hmagnitude =>
      rw [readSigned?, readMagnitude?_eq_some_iff.2 hmagnitude]
      · rintro rest rfl
        exact hmagnitude.head.1 rfl
      · rintro rest rfl
        exact hmagnitude.head.2 rfl

/-! ## Blanks and separators -/

/-- A character that is no blank and no underscore. -/
def Plain (c : Char) : Prop := isSpace c = false ∧ c ≠ '_'

theorem plain_of_range {c : Char} (h : 0x20 < c.toNat ∧ c.toNat < 0x7F ∧ c.toNat ≠ 0x5F) : Plain c := by
  constructor
  · simp only [isSpace, Bool.or_eq_false_iff, Bool.and_eq_false_iff, decide_eq_false_iff_not,
      beq_eq_false_iff_ne]
    omega
  · rintro rfl
    exact h.2.2 rfl

theorem IsLetter.plain {c : Char} (h : IsLetter c) : Plain c := by
  unfold IsLetter at h
  exact plain_of_range (by omega)

theorem Digits.plain {cs : List Char} (h : Digits cs) : ∀ c ∈ cs, Plain c := by
  intro c hc
  have hrange := isDigit_iff.1 (h c hc)
  exact plain_of_range (by omega)

theorem Exponent.plain_of_mem {cs : List Char} {e : Int} (h : Exponent cs e) : ∀ c ∈ cs, Plain c := by
  have hplain {mark : Char} (hmark : mark = 'e' ∨ mark = 'E') : Plain mark :=
    IsLetter.plain (by rcases hmark with rfl | rfl <;> decide)
  cases h with
  | none => exact nofun
  | plain hmark _ hdigits => exact List.forall_mem_cons.2 ⟨hplain hmark, hdigits.plain⟩
  | plus hmark _ hdigits | minus hmark _ hdigits =>
    refine List.forall_mem_cons.2 ⟨hplain hmark, List.forall_mem_cons.2 ⟨plain_of_range ?_, hdigits.plain⟩⟩
    decide

theorem Magnitude.plain {cs : List Char} {x : Float} (h : Magnitude cs x) : ∀ c ∈ cs, Plain c := by
  cases h with
  | infinity hword => exact fun c hc => (isLetter_of_isWord (.inl hword) c hc).plain
  | nan hword => exact fun c hc => (isLetter_of_isWord (.inr hword) c hc).plain
  | decimal hunsigned =>
    cases hunsigned with
    | whole _ hdigits hexponent => exact List.forall_mem_append.2 ⟨hdigits.plain, hexponent.plain_of_mem⟩
    | point _ hwhole hfraction hexponent =>
      refine List.forall_mem_append.2 ⟨hwhole.plain, List.forall_mem_cons.2 ⟨plain_of_range (by decide), ?_⟩⟩
      exact List.forall_mem_append.2 ⟨hfraction.plain, hexponent.plain_of_mem⟩

theorem Signed.plain {cs : List Char} {x : Float} (h : Signed cs x) : ∀ c ∈ cs, Plain c := by
  cases h with
  | bare hmagnitude => exact hmagnitude.plain
  | plus hmagnitude | minus hmagnitude =>
    exact List.forall_mem_cons.2 ⟨plain_of_range (by decide), hmagnitude.plain⟩

theorem hasDoubleSeparator_eq_true_iff : ∀ {cs : List Char},
    hasDoubleSeparator cs = true ↔ ['_', '_'] <:+: cs
  | [] => by simp [hasDoubleSeparator]
  | [a] => by simp [hasDoubleSeparator, List.infix_cons_iff]
  | a :: b :: rest => by
    have hstart : ['_', '_'] <+: a :: b :: rest ↔ a = '_' ∧ b = '_' := by
      rw [List.cons_prefix_cons, List.cons_prefix_cons, eq_comm, @eq_comm _ '_' b]
      simp only [List.nil_prefix, and_true]
    rw [hasDoubleSeparator, List.infix_cons_iff, hstart, ← hasDoubleSeparator_eq_true_iff, Bool.or_eq_true,
      Bool.and_eq_true, beq_iff_eq, beq_iff_eq]

theorem withoutSeparators?_eq_some_iff {cs ds : List Char} :
    withoutSeparators? cs = some ds ↔ Separated cs ∧ cs.filter (· != '_') = ds := by
  have htest : ¬ (cs.head? == some '_' || cs.getLast? == some '_' || hasDoubleSeparator cs) = true ↔
      Separated cs := by
    simp only [Separated, ← hasDoubleSeparator_eq_true_iff, Bool.or_eq_true, beq_iff_eq, not_or, and_assoc]
  unfold withoutSeparators?
  by_cases h : Separated cs
  · rw [if_neg (htest.2 h), Option.some.injEq, and_iff_right h]
  · rw [if_pos (not_not.1 (mt htest.1 h))]
    exact iff_of_false nofun fun hs => h hs.1

/-! ## Whole texts -/

/-- A text that is a number without its blanks and also without its underscores has neither. -/
theorem eq_self_of_signed {cs : List Char} {x y : Float} (htrimmed : Signed (trimWhere isSpace cs) y)
    (hsigned : Signed (cs.filter (· != '_')) x) :
    trimWhere isSpace cs = cs ∧ cs.filter (· != '_') = cs := by
  obtain ⟨before, after, hcs, hbefore, hafter⟩ := exists_trimWhere isSpace cs
  have hspace {c : Char} (hc : isSpace c = true) : c ≠ '_' := by
    rintro rfl
    cases hc
  -- What trimming takes off is no underscore, and neither is what it leaves.
  have hnone : ∀ c ∈ cs, c ≠ '_' := by
    rw [hcs, List.append_assoc]
    refine List.forall_mem_append.2 ⟨fun c hc => hspace (hbefore c hc), ?_⟩
    exact List.forall_mem_append.2 ⟨fun c hc => (htrimmed.plain c hc).2, fun c hc => hspace (hafter c hc)⟩
  have hfilter : cs.filter (· != '_') = cs := List.filter_eq_self.2 fun c hc => bne_iff_ne.2 (hnone c hc)
  rw [hfilter] at hsigned
  exact ⟨trimWhere_eq_self fun c hc => (hsigned.plain c hc).1, hfilter⟩

/-- A text is read where the grammar spells a number by it, and as that number. -/
theorem read?_eq_some_iff {cs : List Char} {x : Float} : read? cs = some x ↔ Spells cs x := by
  unfold read?
  constructor
  · intro h
    split at h
    · rename_i y hread
      cases h
      obtain ⟨before, after, hcs, hbefore, hafter⟩ := exists_trimWhere isSpace cs
      rw [hcs]
      exact .padded hbefore (readSigned?_eq_some_iff.1 hread) hafter
    · obtain ⟨ds, hds, hread⟩ := Option.bind_eq_some_iff.1 h
      obtain ⟨hseparated, rfl⟩ := withoutSeparators?_eq_some_iff.1 hds
      exact .separated hseparated (readSigned?_eq_some_iff.1 hread)
  · intro h
    cases h with
    | padded hbefore hsigned hafter =>
      rw [trimWhere_append hbefore (fun c hc => (hsigned.plain c hc).1) hafter,
        readSigned?_eq_some_iff.2 hsigned]
    | separated hseparated hsigned =>
      rw [withoutSeparators?_eq_some_iff.2 ⟨hseparated, rfl⟩]
      split
      · rename_i y hread
        obtain ⟨htrim, hfilter⟩ := eq_self_of_signed (readSigned?_eq_some_iff.1 hread) hsigned
        rw [hfilter] at hsigned
        rw [← hread, htrim, readSigned?_eq_some_iff.2 hsigned]
      · exact readSigned?_eq_some_iff.2 hsigned

end Restaking.Decimal
