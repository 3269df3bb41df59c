import Restaking.Proofs.Address.Spelling
import Restaking.Text.Upper

/-!
# Laws of upper case

What the upper case of a character is made of is its own upper case, so that a second mapping changes nothing.
Blanks are their own upper case too and nothing else becomes one, so that trimming may come first or last. The
tables enter through their code points alone: those that are mapped and those that come out have none in
common.
-/
namespace Restaking.Text

/-- The number whose binary digits are ones at these places. -/
def places (ns : List Nat) : Nat := ns.foldr (fun n m => Nat.lor (Nat.pow 2 n) m) 0

theorem testBit_places {ns : List Nat} {n : Nat} : (places ns).testBit n = true ↔ n ∈ ns := by
  induction ns with
  | nil => simp [places]
  | cons m rest ih =>
    have hor : (places (m :: rest)).testBit n = ((Nat.pow 2 m).testBit n || (places rest).testBit n) :=
      Nat.testBit_or _ _ _
    have hpow : (Nat.pow 2 m).testBit n = decide (m = n) := Nat.testBit_two_pow
    rw [hor, hpow, Bool.or_eq_true, decide_eq_true_eq, ih, List.mem_cons, eq_comm]

theorem not_mem_of_land_places {ns ms : List Nat} (h : Nat.land (places ns) (places ms) = 0) {n : Nat}
    (hn : n ∈ ms) : n ∉ ns := by
  intro hmem
  have hand : (Nat.land (places ns) (places ms)).testBit n =
      ((places ns).testBit n && (places ms).testBit n) := Nat.testBit_and _ _ _
  rw [h, testBit_places.2 hmem, testBit_places.2 hn, Nat.zero_testBit] at hand
  cases hand

/-- The code points of a run. -/
def runPoints (r : Nat × Nat × Nat × Int) : List Nat :=
  (List.range ((r.2.1 - r.1) / r.2.2.1 + 1)).map fun k => r.1 + k * r.2.2.1

/-- The code points beyond the first 128 that are mapped to others. -/
def mappedPoints : List Nat := upperExpansions.map (·.1) ++ upperRuns.flatMap runPoints

/-- The code points that these are mapped to. -/
def imagePoints : List Nat :=
  upperExpansions.flatMap (·.2) ++
    upperRuns.flatMap fun r => (runPoints r).map fun (n : Nat) => (n + r.2.2.2).toNat

/-- Binary digits decide this at once, where a comparison of each pair takes the kernel a minute. -/
theorem land_places_mappedPoints : Nat.land (places mappedPoints) (places imagePoints) = 0 := by
  decide +kernel

theorem image_valid : ∀ n ∈ imagePoints,
    (Char.ofNat n).toNat = n ∧ (n < 0x80 → (Char.ofNat n).toUpper = Char.ofNat n) := by
  decide +kernel

theorem expansion_ne_nil : ∀ e ∈ upperExpansions, e.2 ≠ [] := by decide

theorem toUpper_toUpper_ascii :
    ∀ n ∈ List.range 0x80, (Char.ofNat n).toUpper.toNat < 0x80 ∧
      (Char.ofNat n).toUpper.toUpper = (Char.ofNat n).toUpper := by
  decide +kernel

variable {c d : Char} {cs : List Char}

theorem mem_runPoints {r : Nat × Nat × Nat × Int} {n : Nat} (hfirst : r.1 ≤ n) (hlast : n ≤ r.2.1)
    (hstep : (n - r.1) % r.2.2.1 = 0) : n ∈ runPoints r := by
  refine List.mem_map.2 ⟨(n - r.1) / r.2.2.1, List.mem_range.2 ?_, ?_⟩
  · exact Nat.lt_succ_of_le (Nat.div_le_div_right (Nat.sub_le_sub_right hlast r.1))
  · rw [Nat.div_mul_cancel (Nat.dvd_of_mod_eq_zero hstep), Nat.add_sub_cancel' hfirst]

/-- Beyond the first 128 a character is its own upper case unless it is mapped, and then to images. -/
theorem upperChar_cases (h : ¬ c.toNat < 0x80) :
    upperChar c = [c] ∨
      c.toNat ∈ mappedPoints ∧
        ∃ ns, ns ≠ [] ∧ (∀ n ∈ ns, n ∈ imagePoints) ∧ upperChar c = ns.map Char.ofNat := by
  unfold upperChar
  rw [if_neg h]
  split
  · rename_i ns hlookup
    obtain ⟨before, after, htable, -⟩ := List.lookup_eq_some_iff.1 hlookup
    have hmem : (c.toNat, ns) ∈ upperExpansions := by
      rw [htable]
      exact List.mem_append_right _ List.mem_cons_self
    refine .inr ⟨List.mem_append_left _ (List.mem_map.2 ⟨_, hmem, rfl⟩), ns, expansion_ne_nil _ hmem, ?_, rfl⟩
    exact fun n hn => List.mem_append_left _ (List.mem_flatMap.2 ⟨_, hmem, hn⟩)
  · split
    · rename_i r hfind
      have hmem : r ∈ upperRuns := List.mem_of_find?_eq_some hfind
      have hrun := List.find?_some hfind
      simp only [Bool.and_eq_true, decide_eq_true_eq, beq_iff_eq] at hrun
      have hpoint : c.toNat ∈ runPoints r := mem_runPoints hrun.1.1 hrun.1.2 hrun.2
      have himage : ((c.toNat : Int) + r.2.2.2).toNat ∈ imagePoints :=
        List.mem_append_right _ (List.mem_flatMap.2 ⟨r, hmem, List.mem_map.2 ⟨_, hpoint, rfl⟩⟩)
      exact .inr ⟨List.mem_append_right _ (List.mem_flatMap.2 ⟨r, hmem, hpoint⟩), [_], by simp,
        List.forall_mem_singleton.2 himage, rfl⟩
    · exact .inl rfl

theorem upperChar_of_lt (h : c.toNat < 0x80) : upperChar c = [c.toUpper] := if_pos h

theorem upperChar_ne_nil (c : Char) : upperChar c ≠ [] := by
  by_cases h : c.toNat < 0x80
  · rw [upperChar_of_lt h]
    exact List.cons_ne_nil _ _
  · rcases upperChar_cases h with hc | ⟨-, ns, hns, -, hc⟩
    · rw [hc]
      exact List.cons_ne_nil _ _
    · rw [hc]
      exact fun hnil => hns (List.map_eq_nil_iff.1 hnil)

theorem toUpper_of_lt (h : c.toNat < 0x80) : c.toUpper.toNat < 0x80 ∧ c.toUpper.toUpper = c.toUpper := by
  have hascii := toUpper_toUpper_ascii c.toNat (List.mem_range.2 h)
  rwa [Char.ofNat_toNat] at hascii

theorem upperChar_image {n : Nat} (h : n ∈ imagePoints) : upperChar (Char.ofNat n) = [Char.ofNat n] := by
  obtain ⟨hpoint, hupper⟩ := image_valid n h
  by_cases hn : n < 0x80
  · rw [upperChar_of_lt (by rwa [hpoint]), hupper hn]
  · rcases upperChar_cases (c := Char.ofNat n) (by rwa [hpoint]) with hc | ⟨hmapped, -⟩
    · exact hc
    · rw [hpoint] at hmapped
      exact absurd hmapped (not_mem_of_land_places land_places_mappedPoints h)

/-- What comes out is its own upper case. -/
theorem upperChar_of_mem (h : d ∈ upperChar c) : upperChar d = [d] := by
  by_cases hc : c.toNat < 0x80
  · obtain ⟨hlt, htwice⟩ := toUpper_of_lt hc
    rw [upperChar_of_lt hc, List.mem_singleton] at h
    rw [h, upperChar_of_lt hlt, htwice]
  · rcases upperChar_cases hc with hself | ⟨-, ns, -, himages, hmapped⟩
    · rw [hself, List.mem_singleton] at h
      rw [h, hself]
    · rw [hmapped] at h
      obtain ⟨n, hn, rfl⟩ := List.mem_map.1 h
      exact upperChar_image (himages n hn)

theorem upper_eq_self (h : ∀ c ∈ cs, upperChar c = [c]) : upper cs = cs := by
  induction cs with
  | nil => rfl
  | cons c rest ih =>
    rw [upper, List.flatMap_cons, h c List.mem_cons_self]
    exact congrArg (c :: ·) (ih fun d hd => h d (List.mem_cons_of_mem _ hd))

/-- A second mapping changes nothing. -/
theorem upper_upper (cs : List Char) : upper (upper cs) = upper cs := by
  refine upper_eq_self fun d hd => ?_
  obtain ⟨c, -, hc⟩ := List.mem_flatMap.1 hd
  exact upperChar_of_mem hc

theorem upper_eq_nil_iff : upper cs = [] ↔ cs = [] := by
  rw [upper, List.flatMap_eq_nil_iff]
  constructor
  · intro h
    cases cs with
    | nil => rfl
    | cons c rest => exact absurd (h c List.mem_cons_self) (upperChar_ne_nil c)
  · rintro rfl
    exact nofun

/-! ## Blanks -/

/-- The code points of blank characters. -/
def blankPoints : List Nat :=
  List.range' 0x09 5 ++ List.range' 0x1C 5 ++ [0x85, 0xA0, 0x1680] ++ List.range' 0x2000 11 ++
    [0x2028, 0x2029, 0x202F, 0x205F, 0x3000]

theorem upperChar_blankPoints : ∀ n ∈ blankPoints, upperChar (Char.ofNat n) = [Char.ofNat n] := by
  decide +kernel

theorem upperChar_of_isBlank (h : isBlank c = true) : upperChar c = [c] := by
  have hpoint : c.toNat ∈ blankPoints := by
    simp only [isBlank, isSpace, Bool.or_eq_true, Bool.and_eq_true, decide_eq_true_eq, beq_iff_eq] at h
    simp only [blankPoints, List.mem_append, List.mem_range'_1, List.mem_cons, List.not_mem_nil, or_false]
    omega
  have hupper := upperChar_blankPoints _ hpoint
  rwa [Char.ofNat_toNat] at hupper

/-- Blanks stay where they are. -/
theorem mem_upper_of_isBlank (hc : c ∈ cs) (h : isBlank c = true) : c ∈ upper cs :=
  List.mem_flatMap.2 ⟨c, hc, by rw [upperChar_of_isBlank h]; exact List.mem_singleton_self c⟩

theorem isBlank_toUpper_ascii :
    ∀ n ∈ List.range 0x80, isBlank (Char.ofNat n).toUpper = isBlank (Char.ofNat n) := by
  decide +kernel

theorem isBlank_image : ∀ n ∈ imagePoints, isBlank (Char.ofNat n) = false := by
  decide +kernel

/-- Nothing but a blank becomes one. -/
theorem isBlank_of_mem_upperChar (hc : isBlank c = false) (hd : d ∈ upperChar c) : isBlank d = false := by
  by_cases h : c.toNat < 0x80
  · rw [upperChar_of_lt h, List.mem_singleton] at hd
    have hascii := isBlank_toUpper_ascii c.toNat (List.mem_range.2 h)
    rwa [Char.ofNat_toNat, ← hd, hc] at hascii
  · rcases upperChar_cases h with hself | ⟨-, ns, -, himages, hmapped⟩
    · rw [hself, List.mem_singleton] at hd
      rwa [hd]
    · rw [hmapped] at hd
      obtain ⟨n, hn, rfl⟩ := List.mem_map.1 hd
      exact isBlank_image n (himages n hn)

/-- Where `f` keeps what satisfies `p` and makes no more of it, it may be applied before or after `p` is
dropped. -/
theorem dropWhile_flatMap {p : Char → Bool} {f : Char → List Char} (hkeeps : ∀ c, p c = true → f c = [c])
    (hmakes : ∀ c, p c = false → f c ≠ [] ∧ ∀ d ∈ f c, p d = false) (cs : List Char) :
    (cs.flatMap f).dropWhile p = (cs.dropWhile p).flatMap f := by
  induction cs with
  | nil => rfl
  | cons c rest ih =>
    cases hc : p c with
    | true =>
      rw [List.flatMap_cons, hkeeps c hc, List.singleton_append, List.dropWhile_cons_of_pos hc,
        List.dropWhile_cons_of_pos hc, ih]
    | false =>
      obtain ⟨hne, hall⟩ := hmakes c hc
      obtain ⟨d, ds, hd⟩ := List.exists_cons_of_ne_nil hne
      have hd' : ¬ p d = true := by
        rw [hall d (hd ▸ List.mem_cons_self)]
        exact Bool.false_ne_true
      have hc' : ¬ p c = true := by
        rw [hc]
        exact Bool.false_ne_true
      rw [List.dropWhile_cons_of_neg hc', List.flatMap_cons, hd, List.cons_append,
        List.dropWhile_cons_of_neg hd']

/-- Trimming and upper case do not get in each other's way. -/
theorem upper_trim (cs : List Char) : upper (trim cs) = trim (upper cs) := by
  have hkeeps : ∀ c, isBlank c = true → upperChar c = [c] := fun c => upperChar_of_isBlank
  have hmakes : ∀ c, isBlank c = false → upperChar c ≠ [] ∧ ∀ d ∈ upperChar c, isBlank d = false :=
    fun c hc => ⟨upperChar_ne_nil c, fun d hd => isBlank_of_mem_upperChar hc hd⟩
  -- From the end the images of characters are read backwards.
  have hkeeps' : ∀ c, isBlank c = true → (List.reverse ∘ upperChar) c = [c] := by
    intro c hc
    rw [Function.comp_apply, hkeeps c hc]
    rfl
  have hmakes' : ∀ c, isBlank c = false →
      (List.reverse ∘ upperChar) c ≠ [] ∧ ∀ d ∈ (List.reverse ∘ upperChar) c, isBlank d = false := by
    intro c hc
    obtain ⟨hne, hall⟩ := hmakes c hc
    exact ⟨fun hnil => hne (List.reverse_eq_nil_iff.1 hnil), fun d hd => hall d (List.mem_reverse.1 hd)⟩
  unfold trim trimWhere upper
  rw [dropWhile_flatMap hkeeps hmakes, List.reverse_flatMap, dropWhile_flatMap hkeeps' hmakes',
    ← List.flatMap_reverse]

end Restaking.Text
