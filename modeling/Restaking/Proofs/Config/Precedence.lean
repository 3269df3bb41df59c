import Mathlib.Data.List.Pairwise
import Mathlib.Data.List.TakeWhile
import Restaking.Settings

/-!
# Which source gives a field its value

Sources are taken as assignments of values to names: what an environment file says is its entries as they are
written, so its values are without references here, and within one source no two names differ in letter case
only. The value of a field is then that of the first source with an entry for it. How a file is taken apart
into entries is left open.
-/
namespace Restaking

namespace EnvFile

/-- The entries of a text as they are written. -/
def written (text : String) : List Entry := readEntries (unifyLines (dropOrderMark text.toList))

/-- Nowhere does a brace after a dollar sign close. -/
def ReferenceFree (cs : List Char) : Prop :=
  ∀ before inside after, cs ≠ before ++ ('$' :: '\x7b' :: (inside ++ '\x7d' :: after))

theorem referenceFree_of_not_mem {cs : List Char} (h : '$' ∉ cs) : ReferenceFree cs := by
  rintro before inside after rfl
  exact h (List.mem_append_right _ List.mem_cons_self)

variable {cs : List Char} {known es : List Entry} {name : String} {v : Option String}

theorem mem_of_length_takeWhile_lt {c : Char} (h : (cs.takeWhile (· != c)).length < cs.length) : c ∈ cs := by
  by_contra hc
  have hall : ∀ d ∈ cs, (d != c) = true := by
    intro d hd
    rw [bne_iff_ne]
    rintro rfl
    exact hc hd
  rw [List.takeWhile_eq_self_iff.2 hall] at h
  exact lt_irrefl _ h

theorem exists_of_reference?_isSome (h : (reference? cs).isSome) :
    ∃ inside after, cs = '$' :: '\x7b' :: (inside ++ '\x7d' :: after) := by
  unfold reference? at h
  split at h
  · rename_i rest
    simp only at h
    generalize (rest.takeWhile fun c => c != '\x7d' && c != ':').length = n at h
    have hrest : rest = rest.take n ++ rest.drop n := (List.take_append_drop n rest).symm
    split at h
    · rename_i after hdrop
      exact ⟨rest.take n, after, by rw [← hdrop, ← hrest]⟩
    · rename_i more hdrop
      split at h
      · rename_i hclosed
        obtain ⟨fallback, after, hmore⟩ := List.append_of_mem (mem_of_length_takeWhile_lt hclosed)
        refine ⟨rest.take n ++ ':' :: '-' :: fallback, after, ?_⟩
        rw [hdrop, hmore] at hrest
        rw [List.append_assoc, List.cons_append, List.cons_append, ← hrest]
      · cases h
    · cases h
  · cases h

theorem expand_of_referenceFree (value : String → String → String) (h : ReferenceFree cs) :
    expand value 0 cs = cs := by
  induction cs with
  | nil => rfl
  | cons c rest ih =>
    have hnone : reference? (c :: rest) = none := by
      cases hr : reference? (c :: rest) with
      | none => rfl
      | some r =>
        obtain ⟨inside, after, hcs⟩ := exists_of_reference?_isSome (by rw [hr]; rfl)
        exact absurd hcs (h [] inside after)
    have hrest : ReferenceFree rest := by
      rintro before inside after rfl
      exact h (c :: before) inside after rfl
    rw [expand, hnone, ih hrest]

theorem put_of_ne (h : ∀ e ∈ known, e.1 ≠ name) : put name v known = known ++ [(name, v)] := by
  induction known with
  | nil => rfl
  | cons e rest ih =>
    have hne : (e.1 == name) = false := beq_eq_false_iff_ne.2 (h e List.mem_cons_self)
    rw [put, hne, if_neg Bool.false_ne_true, ih fun e' he' => h e' (List.mem_cons_of_mem _ he'),
      List.cons_append]

/-- The invariant of the fold: what is known already has no name that is still to come. -/
theorem foldl_put (environment : List (String × String)) (hnames : es.Pairwise fun e e' => e.1 ≠ e'.1)
    (hfree : ∀ e ∈ es, ∀ t ∈ e.2, ReferenceFree t.toList) (hknown : ∀ e ∈ known, ∀ e' ∈ es, e.1 ≠ e'.1) :
    es.foldl (fun known e => put e.1
      (e.2.map fun t => String.ofList (expand (referenced environment known) 0 t.toList)) known) known =
      known ++ es := by
  induction es generalizing known with
  | nil => rw [List.foldl_nil, List.append_nil]
  | cons e rest ih =>
    obtain ⟨hfirst, hrest⟩ := List.pairwise_cons.1 hnames
    have hvalue : (e.2.map fun t => String.ofList (expand (referenced environment known) 0 t.toList)) =
        e.2 := by
      cases he : e.2 with
      | none => rfl
      | some t =>
        have ht : ReferenceFree t.toList := hfree e List.mem_cons_self t he
        rw [Option.map_some, expand_of_referenceFree _ ht, String.ofList_toList]
    rw [List.foldl_cons, hvalue, put_of_ne fun e' he' => hknown e' he' e List.mem_cons_self,
      ih hrest (fun e' he' => hfree e' (List.mem_cons_of_mem _ he'))]
    · rw [List.append_assoc, List.singleton_append]
    · intro e' he' e'' he''
      rcases List.mem_append.1 he' with he' | he'
      · exact hknown e' he' e'' (List.mem_cons_of_mem _ he'')
      · rw [List.mem_singleton.1 he']
        exact hfirst e'' he''

/-- With every name once and without references, the entries are those that are written. -/
theorem entries_eq_written (environment : List (String × String)) {text : String}
    (hnames : (written text).Pairwise fun e e' => e.1 ≠ e'.1)
    (hfree : ∀ e ∈ written text, ∀ t ∈ e.2, ReferenceFree t.toList) :
    entries environment text = written text :=
  foldl_put environment hnames hfree nofun

end EnvFile

namespace Settings.Sources

variable {α : Type} {entries : List (String × α)} {field : String}

/-- No two names differ in letter case only. -/
def Distinct (entries : List (String × α)) : Prop :=
  entries.Pairwise fun e e' => foldName false e.1 ≠ foldName false e'.1

/-- An entry has this value and the name of the field in some letter case. -/
def Assigns (entries : List (String × α)) (field : String) (v : α) : Prop :=
  ∃ name, (name, v) ∈ entries ∧ foldName false name = foldName false field

theorem not_assigns (h : ∀ e ∈ entries, foldName false e.1 ≠ foldName false field) (v : α) :
    ¬ Assigns entries field v := by
  rintro ⟨name, hname, hfield⟩
  exact h _ hname hfield

theorem Distinct.unique (h : Distinct entries) {v w : α} (hv : Assigns entries field v)
    (hw : Assigns entries field w) : v = w := by
  obtain ⟨name, hname, hfield⟩ := hv
  obtain ⟨name', hname', hfield'⟩ := hw
  by_contra hne
  have hentries : (name, v) ≠ (name', w) := fun he => hne (congrArg Prod.snd he)
  have hsymm : Std.Symm fun e e' : String × α => foldName false e.1 ≠ foldName false e'.1 :=
    ⟨fun _ _ => Ne.symm⟩
  exact h.forall hname hname' hentries (hfield.trans hfield'.symm)

theorem Distinct.reverse (h : Distinct entries) : Distinct entries.reverse :=
  List.pairwise_reverse.2 (h.imp fun hne => hne.symm)

theorem lookupFirst_eq_some_iff (h : Distinct entries) {v : α} :
    lookupFirst false field entries = some v ↔ Assigns entries field v := by
  have hassigns {w : α} (hw : lookupFirst false field entries = some w) : Assigns entries field w := by
    obtain ⟨e, he, rfl⟩ := Option.map_eq_some_iff.1 hw
    exact ⟨e.1, List.mem_of_find?_eq_some he, beq_iff_eq.1 (List.find?_some he :)⟩
  refine ⟨hassigns, fun hv => ?_⟩
  cases hw : lookupFirst false field entries with
  | some w => rw [h.unique hv (hassigns hw)]
  | none =>
    obtain ⟨name, hname, hfield⟩ := hv
    have hmiss := List.find?_eq_none.1 (Option.map_eq_none_iff.1 hw) _ hname
    exact absurd (beq_iff_eq.2 hfield) hmiss

theorem lookupLast_eq_some_iff (h : Distinct entries) {v : α} :
    lookupLast false field entries = some v ↔ Assigns entries field v := by
  rw [lookupLast, lookupFirst_eq_some_iff h.reverse]
  simp only [Assigns, List.mem_reverse]

/-- A variable with a text gives it; a name that is unset gives nothing. -/
theorem named?_standard_eq_some_iff {entries : List EnvFile.Entry} (h : Distinct entries) {v : Value} :
    named? .standard field entries = some v ↔ ∃ t, v = .text t ∧ Assigns entries field (some t) := by
  have hnamed : named? .standard field entries =
      (lookupLast false field entries).join.map .text := by
    simp only [named?, Conventions.standard, counted, String.empty_append, Bool.false_eq_true, if_false]
    cases (lookupLast false field entries).join <;> rfl
  rw [hnamed, Option.map_eq_some_iff]
  constructor
  · rintro ⟨t, ht, rfl⟩
    exact ⟨t, rfl, (lookupLast_eq_some_iff h).1 (Option.join_eq_some_iff.1 ht)⟩
  · rintro ⟨t, rfl, ht⟩
    exact ⟨t, Option.join_eq_some_iff.2 ((lookupLast_eq_some_iff h).2 ht), rfl⟩

/-! ## A single source -/

theorem value?_argument (name field : String) (v : Value) :
    value? { empty with arguments := [(name, v)] } field =
      if foldName false name = foldName false field then some v else none := by
  by_cases h : foldName false name = foldName false field
  · simp [value?, lookupFirst, empty, Conventions.standard, h]
  · simp [value?, lookupFirst, empty, Conventions.standard, named?, counted, lookupLast, h]

theorem value?_variable (name field text : String) :
    value? { empty with environment := [(name, text)] } field =
      if foldName false name = foldName false field then some (.text text) else none := by
  by_cases h : foldName false name = foldName false field
  · simp [value?, lookupFirst, empty, Conventions.standard, named?, counted, lookupLast, h]
  · simp [value?, lookupFirst, empty, Conventions.standard, named?, counted, lookupLast, h]

/-! ## Which source counts -/

variable {s : Sources}

/-- What the environment file has written. -/
def fileEntries (s : Sources) : List EnvFile.Entry := s.file.elim [] EnvFile.written

/-- Sources that assign each name at most one value. -/
structure Orderly (s : Sources) : Prop where
  conventions : s.conventions = .standard
  arguments : Distinct s.arguments
  environment : Distinct s.environment
  file : Distinct s.fileEntries
  referenceFree : ∀ e ∈ s.fileEntries, ∀ t ∈ e.2, EnvFile.ReferenceFree t.toList

/-- The value of a field is that of the first source that assigns it one. -/
inductive Gives (s : Sources) (field : String) : Option Value → Prop where
  | argument {v : Value} : Assigns s.arguments field v → Gives s field (some v)
  | environment {t : String} : (∀ v, ¬ Assigns s.arguments field v) → Assigns s.environment field t →
    Gives s field (some (.text t))
  | file {t : String} : (∀ v, ¬ Assigns s.arguments field v) → (∀ u, ¬ Assigns s.environment field u) →
    Assigns s.fileEntries field (some t) → Gives s field (some (.text t))
  | nothing : (∀ v, ¬ Assigns s.arguments field v) → (∀ u, ¬ Assigns s.environment field u) →
    (∀ t, ¬ Assigns s.fileEntries field (some t)) → Gives s field none

theorem Orderly.entries_eq (h : s.Orderly) {text : String} (hfile : s.file = some text) :
    EnvFile.entries s.environment text = s.fileEntries := by
  have hwritten : s.fileEntries = EnvFile.written text := by rw [fileEntries, hfile]; rfl
  have hnames : (EnvFile.written text).Pairwise fun e e' => e.1 ≠ e'.1 :=
    (show Distinct (EnvFile.written text) from hwritten ▸ h.file).imp fun hne he => hne (congrArg _ he)
  rw [hwritten, EnvFile.entries_eq_written s.environment hnames (hwritten ▸ h.referenceFree)]

/-- The variables of the environment as the entries of a file. -/
def variableEntries (s : Sources) : List EnvFile.Entry := s.environment.map fun e => (e.1, some e.2)

theorem Orderly.distinct_variableEntries (h : s.Orderly) : Distinct s.variableEntries :=
  List.pairwise_map.2 h.environment

theorem assigns_variableEntries_iff {t : String} :
    Assigns s.variableEntries field (some t) ↔ Assigns s.environment field t := by
  simp only [Assigns, variableEntries, List.mem_map, Prod.mk.injEq, Option.some.injEq, Prod.exists]
  constructor
  · rintro ⟨name, ⟨_, _, hmem, rfl, rfl⟩, hname⟩
    exact ⟨_, hmem, hname⟩
  · rintro ⟨name, hmem, hname⟩
    exact ⟨name, ⟨_, _, hmem, rfl, rfl⟩, hname⟩

theorem value?_standard (h : s.conventions = .standard) (field : String) :
    s.value? field = (lookupFirst false field s.arguments).or ((named? .standard field s.variableEntries).or
      (s.file.bind fun t => named? .standard field (EnvFile.entries s.environment t))) := by
  have hfold : s.conventions.caseSensitive = false := by rw [h]; rfl
  rw [value?, hfold, h]
  unfold variableEntries
  cases lookupFirst false field s.arguments with
  | some v => rfl
  | none => cases named? .standard field (s.environment.map fun e => (e.1, some e.2)) <;> rfl

theorem Orderly.gives_value? (h : s.Orderly) (field : String) : s.Gives field (s.value? field) := by
  rw [value?_standard h.conventions]
  cases hargument : lookupFirst false field s.arguments with
  | some v => exact .argument ((lookupFirst_eq_some_iff h.arguments).1 hargument)
  | none =>
    have hno : ∀ v, ¬ Assigns s.arguments field v := by
      intro v hv
      cases hargument.symm.trans ((lookupFirst_eq_some_iff h.arguments).2 hv)
    cases hvariable : named? .standard field s.variableEntries with
    | some v =>
      obtain ⟨t, rfl, ht⟩ := (named?_standard_eq_some_iff h.distinct_variableEntries).1 hvariable
      exact .environment hno (assigns_variableEntries_iff.1 ht)
    | none =>
      have hunset : ∀ t, ¬ Assigns s.environment field t := by
        intro t ht
        have hnamed := (named?_standard_eq_some_iff h.distinct_variableEntries).2
          ⟨t, rfl, assigns_variableEntries_iff.2 ht⟩
        cases hvariable.symm.trans hnamed
      have hfile : (s.file.bind fun t => named? .standard field (EnvFile.entries s.environment t)) =
          named? .standard field s.fileEntries := by
        cases hs : s.file with
        | none => rw [fileEntries, hs]; rfl
        | some text => rw [Option.bind_some, h.entries_eq hs]
      show s.Gives field (s.file.bind _)
      rw [hfile]
      cases hwritten : named? .standard field s.fileEntries with
      | some v =>
        obtain ⟨t, rfl, ht⟩ := (named?_standard_eq_some_iff h.file).1 hwritten
        exact .file hno hunset ht
      | none =>
        refine .nothing hno hunset fun t ht => ?_
        cases hwritten.symm.trans ((named?_standard_eq_some_iff h.file).2 ⟨t, rfl, ht⟩)

theorem Orderly.gives_unique (h : s.Orderly) {v w : Option Value} (hv : s.Gives field v)
    (hw : s.Gives field w) : v = w := by
  cases hv with
  | argument ha =>
    cases hw with
    | argument hb => rw [h.arguments.unique ha hb]
    | environment hno _ | file hno _ _ | nothing hno _ _ => exact absurd ha (hno _)
  | environment hno ha =>
    cases hw with
    | argument hb => exact absurd hb (hno _)
    | environment _ hb => rw [h.environment.unique ha hb]
    | file _ hunset _ | nothing _ hunset _ => exact absurd ha (hunset _)
  | file hno hunset ha =>
    cases hw with
    | argument hb => exact absurd hb (hno _)
    | environment _ hb => exact absurd hb (hunset _)
    | file _ _ hb => rw [Option.some.inj (h.file.unique ha hb)]
    | nothing _ _ hmissing => exact absurd ha (hmissing _)
  | nothing hno hunset hmissing =>
    cases hw with
    | argument hb => exact absurd hb (hno _)
    | environment _ hb => exact absurd hb (hunset _)
    | file _ _ hb => exact absurd hb (hmissing _)
    | nothing _ _ _ => rfl

theorem Orderly.gives_iff (h : s.Orderly) {v : Option Value} : s.Gives field v ↔ s.value? field = v :=
  ⟨fun hv => h.gives_unique (h.gives_value? field) hv, fun hv => hv ▸ h.gives_value? field⟩

/-- The same about one field, whatever either has under other names. -/
structure Agrees (field : String) (s t : Sources) : Prop where
  arguments : ∀ v, Assigns s.arguments field v ↔ Assigns t.arguments field v
  environment : ∀ v, Assigns s.environment field v ↔ Assigns t.environment field v
  file : ∀ v, Assigns s.fileEntries field v ↔ Assigns t.fileEntries field v

theorem Agrees.gives {t : Sources} (h : Agrees field s t) {v : Option Value} (hv : s.Gives field v) :
    t.Gives field v := by
  cases hv with
  | argument ha => exact .argument ((h.arguments _).1 ha)
  | environment hno ha =>
    exact .environment (fun v hv => hno v ((h.arguments v).2 hv)) ((h.environment _).1 ha)
  | file hno hunset ha =>
    exact .file (fun v hv => hno v ((h.arguments v).2 hv)) (fun u hu => hunset u ((h.environment u).2 hu))
      ((h.file _).1 ha)
  | nothing hno hunset hmissing =>
    exact .nothing (fun v hv => hno v ((h.arguments v).2 hv))
      (fun u hu => hunset u ((h.environment u).2 hu)) fun t ht => hmissing t ((h.file _).2 ht)

end Settings.Sources

end Restaking
