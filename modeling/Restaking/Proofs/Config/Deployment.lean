import Restaking.Proofs.Address.Spelling

/-!
# Deployment addresses by what they denote

The relation between a configured value and the address that it denotes says nothing of readers; a reader is
shown to accept exactly the related values. Whatever takes configured values, a configuration or settings, is
then judged by what it does with values that denote and with values that do not. Which of its sources a value
of settings comes from is left open.
-/
namespace Restaking

open Text

/-- A configured value stands for an address. Nothing at all and blank text stand for the zero address, any
other text spells its address between blanks. -/
inductive Denotes : Value → Address → Prop where
  | null : Denotes .null .zero
  | blank {s : String} : (∀ c ∈ s.toList, isBlank c = true) → Denotes (.text s) .zero
  | text {s : String} {before mark digits after : List Char} {a : Address} :
    s.toList = before ++ (mark ++ digits) ++ after → (∀ c ∈ before, isBlank c = true) →
    Hex.IsMark mark → digits.map Hex.digit? = (Address.nibbles a.bytes).map some →
    (∀ c ∈ after, isBlank c = true) → Denotes (.text s) a
  | bytes (a : Address) : Denotes (.bytes a.bytes) a
  | buffer (a : Address) : Denotes (.buffer a.bytes) a

/-- What is neither nothing nor text is read as an address anywhere else is. -/
theorem deployment_eq_ofValue? {v : Value} (hnull : v ≠ .null) (htext : ∀ s, v ≠ .text s) :
    deployment v = (Address.ofValue? v).elim (.error (.notAddress v)) .ok := by
  cases v with
  | null => exact absurd rfl hnull
  | text s => exact absurd rfl (htext s)
  | _ =>
    simp only [deployment]
    split
    · rename_i a hread
      rw [hread]
      rfl
    · rename_i hread
      rw [hread]
      rfl

theorem deployment_eq_ok_iff_ofValue? {v : Value} {a : Address} (hnull : v ≠ .null)
    (htext : ∀ s, v ≠ .text s) : deployment v = .ok a ↔ Address.ofValue? v = some a := by
  rw [deployment_eq_ofValue? hnull htext]
  cases Address.ofValue? v <;> simp

theorem denotes_of_deployment {v : Value} {a : Address} (h : deployment v = .ok a) : Denotes v a := by
  cases v with
  | null =>
    cases h
    exact .null
  | text s =>
    -- What was trimmed goes back around what was read.
    obtain ⟨before, after, hs, hbefore, hafter⟩ := exists_trimWhere isBlank s.toList
    have hs : s.toList = before ++ trim s.toList ++ after := hs
    simp only [deployment] at h
    split at h
    · rename_i hempty
      cases h
      exact .blank (trimWhere_eq_nil_iff.1 (List.isEmpty_iff.1 hempty))
    · split at h
      · rename_i b hb
        cases h
        obtain ⟨mark, digits, htrim, hmark, hdigits⟩ := Address.ofText?_eq_some_iff.1 hb
        rw [htrim] at hs
        exact .text hs hbefore hmark hdigits hafter
      · cases h
  | bytes bs =>
    have hread := (deployment_eq_ok_iff_ofValue? (by rintro ⟨⟩) (by rintro s ⟨⟩)).1 h
    obtain rfl := Address.ofBytes?_eq_some_iff.1 hread
    exact .bytes a
  | buffer bs =>
    have hread := (deployment_eq_ok_iff_ofValue? (by rintro ⟨⟩) (by rintro s ⟨⟩)).1 h
    obtain rfl := Address.ofBytes?_eq_some_iff.1 hread
    exact .buffer a
  | _ => cases h

/-- A deployment address is read from exactly the values that denote it. -/
theorem deployment_eq_ok_iff {v : Value} {a : Address} : deployment v = .ok a ↔ Denotes v a := by
  refine ⟨denotes_of_deployment, fun h => ?_⟩
  cases h with
  | null => rfl
  | blank hblank =>
    rename_i s
    have hempty : (trim s.toList).isEmpty = true := List.isEmpty_iff.2 (trimWhere_eq_nil_iff.2 hblank)
    simp only [deployment, hempty, if_true]
  | text hs hbefore hmark hdigits hafter =>
    rename_i s before mark digits after
    have hblank : ∀ c ∈ mark ++ digits, isBlank c = false :=
      Hex.isBlank_of_mem_spelling hmark fun c hc => Address.digit?_isSome_of_map hdigits hc
    have htrim : trim s.toList = mark ++ digits := by
      rw [hs]
      exact trimWhere_append hbefore hblank hafter
    have hread : Address.ofText? (mark ++ digits) = some a :=
      Address.ofText?_eq_some_iff.2 ⟨mark, digits, rfl, hmark, hdigits⟩
    have hne : (mark ++ digits).isEmpty = false := by
      cases hcs : mark ++ digits with
      | nil =>
        rw [hcs] at hread
        cases hread
      | cons c rest => rfl
    simp only [deployment, htrim, hne, hread]
    rfl
  | bytes =>
    exact (deployment_eq_ok_iff_ofValue? (by rintro ⟨⟩) (by rintro s ⟨⟩)).2
      (Address.ofBytes?_eq_some_iff.2 rfl)
  | buffer =>
    exact (deployment_eq_ok_iff_ofValue? (by rintro ⟨⟩) (by rintro s ⟨⟩)).2
      (Address.ofBytes?_eq_some_iff.2 rfl)

/-- What is accepted as an address anywhere is accepted as a deployment address, and as the same one. -/
theorem denotes_of_ofInput {label : String} {v : Value} {a : Address}
    (h : Address.ofInput label v = .ok a) : Denotes v a := by
  have hvalue : Address.ofValue? v = some a := Address.ofInput_eq_ok_iff.1 h
  cases v with
  | text s =>
    obtain ⟨mark, digits, hs, hmark, hdigits⟩ := Address.ofText?_eq_some_iff.1 hvalue
    have hblank : ∀ c ∈ ([] : List Char), Text.isBlank c = true := by simp
    have hspelled : s.toList = [] ++ (mark ++ digits) ++ [] := by rw [hs, List.nil_append, List.append_nil]
    exact .text hspelled hblank hmark hdigits hblank
  | bytes bs =>
    obtain rfl := Address.ofBytes?_eq_some_iff.1 hvalue
    exact .bytes a
  | buffer bs =>
    obtain rfl := Address.ofBytes?_eq_some_iff.1 hvalue
    exact .buffer a
  | _ => cases hvalue

theorem deployment_eq_error {v : Value} {f : FieldFault} (h : deployment v = .error f) :
    ∃ given, f = .notAddress given := by
  cases v with
  | null => cases h
  | text s =>
    simp only [deployment] at h
    split at h
    · cases h
    · split at h
      · cases h
      · cases h
        exact ⟨_, rfl⟩
  | _ =>
    rw [deployment_eq_ofValue? (by rintro ⟨⟩) (by rintro s ⟨⟩)] at h
    cases hread : Address.ofValue? _ with
    | some a =>
      rw [hread] at h
      cases h
    | none =>
      rw [hread] at h
      cases h
      exact ⟨_, rfl⟩

theorem Address.eq_zero_iff (a : Address) : a = .zero ↔ ∀ b ∈ a.bytes, b = 0 := by
  constructor
  · rintro rfl b hb
    exact List.eq_of_mem_replicate hb
  · intro h
    have hbytes : a.bytes = List.replicate 20 0 := List.eq_replicate_iff.2 ⟨a.length_eq, h⟩
    obtain ⟨bs, hlength⟩ := a
    cases hbytes
    rfl

/-! ## The three configured contracts -/

inductive Configured where
  | delegationManager
  | avsDirectory
  | rewardsCoordinator

namespace Configured

def field : Configured → String
  | delegationManager => ReaderConfig.delegationManagerField
  | avsDirectory => ReaderConfig.avsDirectoryField
  | rewardsCoordinator => ReaderConfig.rewardsCoordinatorField

def address (c : ReaderConfig) : Configured → Address
  | delegationManager => c.delegationManager
  | avsDirectory => c.avsDirectory
  | rewardsCoordinator => c.rewardsCoordinator

theorem field_injective {j k : Configured} (h : j.field = k.field) : j = k := by
  cases j <;> cases k <;> first | rfl | exact absurd h (by decide)

/-- What a field is read as, where values are given by name. -/
def reading (given : String → Option Value) (k : Configured) : Except FieldFault Address :=
  deployment ((given k.field).getD .null)

theorem reading_eq {given : String → Option Value} {k : Configured} {x : Value}
    (hx : given k.field = some x) : reading given k = deployment x := by
  rw [reading, hx, Option.getD_some]

/-- Two ways to give values to fields by name that differ in this field alone. Other names are not compared,
since in another letter case a name may find the value of a field. -/
structure Respelled (k : Configured) (fields : List String) (x y : Value)
    (given given' : String → Option Value) : Prop where
  first : given k.field = some x
  second : given' k.field = some y
  others : ∀ name ∈ fields, name ≠ k.field → given name = given' name

theorem Respelled.reading_eq {k : Configured} {fields : List String} {x y : Value}
    {given given' : String → Option Value} (h : k.Respelled fields x y given given')
    (hfields : ∀ j : Configured, j.field ∈ fields) (hxy : deployment x = deployment y) :
    reading given = reading given' := by
  funext j
  by_cases hj : j.field = k.field
  · obtain rfl := field_injective hj
    rw [Configured.reading_eq h.first, Configured.reading_eq h.second, hxy]
  · rw [reading, reading, h.others _ (hfields j) hj]

section

variable {κ γ : Type} (k : Configured) (fields : List String) (given : κ → String → Option Value)
  (contracts : γ → ReaderConfig) (construct : κ → Except Faults γ)

/-- What a configured field is read as decides its address and its faults, and of the other fields what is
given decides. -/
structure ByReading : Prop where
  configured : ∀ j : Configured, j.field ∈ fields
  ok : ∀ {s c}, construct s = .ok c → reading (given s) k = .ok (k.address (contracts c))
  error : ∀ {s faults f}, construct s = .error faults →
    ((k.field, f) ∈ faults ↔ reading (given s) k = .error f)
  blamed : ∀ {s faults}, construct s = .error faults → faults ≠ []
  congr : ∀ {s s'}, reading (given s) = reading (given s') →
    (∀ name ∈ fields, (∀ j : Configured, name ≠ j.field) → given s name = given s' name) →
    construct s = construct s'

/-- Only the address that the field's value denotes counts. -/
structure ByDenotation : Prop where
  /-- Values that denote one address cannot be told apart. -/
  respelled : ∀ {x y a}, Denotes x a → Denotes y a →
    ∀ {s s'}, k.Respelled fields x y (given s) (given s') → construct s = construct s'
  /-- The address is taken over, or else another field is blamed. -/
  accepted : ∀ {x a}, Denotes x a → ∀ {s}, given s k.field = some x →
    (∃ c, construct s = .ok c ∧ k.address (contracts c) = a) ∨
      ∃ faults, construct s = .error faults ∧ faults ≠ [] ∧ ∀ f, (k.field, f) ∉ faults
  /-- A value without an address is refused in the name of the field. -/
  rejected : ∀ {x}, (∀ a, ¬ Denotes x a) → ∀ {s}, given s k.field = some x →
    ∃ faults v, construct s = .error faults ∧ (k.field, .notAddress v) ∈ faults

variable {k fields given contracts construct}

theorem ByReading.byDenotation (h : k.ByReading fields given contracts construct) :
    k.ByDenotation fields given contracts construct where
  respelled := by
    intro x y a hx hy s s' hs
    have hxy : deployment x = deployment y :=
      (deployment_eq_ok_iff.2 hx).trans (deployment_eq_ok_iff.2 hy).symm
    exact h.congr (hs.reading_eq h.configured hxy) fun name hname hother => hs.others name hname (hother k)
  accepted := by
    intro x a hx s hs
    have hread : reading (given s) k = .ok a := (reading_eq hs).trans (deployment_eq_ok_iff.2 hx)
    cases hc : construct s with
    | ok c => exact .inl ⟨c, rfl, Except.ok.inj ((h.ok hc).symm.trans hread)⟩
    | error faults =>
      refine .inr ⟨faults, rfl, h.blamed hc, fun f hf => ?_⟩
      cases hread.symm.trans ((h.error hc).1 hf)
  rejected := by
    intro x hx s hs
    cases hread : deployment x with
    | ok a => exact absurd (deployment_eq_ok_iff.1 hread) (hx a)
    | error f =>
      obtain ⟨v, rfl⟩ := deployment_eq_error hread
      have hfield : reading (given s) k = .error (.notAddress v) := (reading_eq hs).trans hread
      cases hc : construct s with
      | ok c => cases hfield.symm.trans (h.ok hc)
      | error faults => exact ⟨faults, v, rfl, (h.error hc).2 hfield⟩

end

end Configured

theorem mem_faultOf_iff {α : Type} {name field : String} {f : FieldFault} {r : Except FieldFault α} :
    (field, f) ∈ faultOf name r ↔ field = name ∧ r = .error f := by
  cases r with
  | ok a => simp [faultOf]
  | error e => simp [faultOf, eq_comm]

theorem faultOf_eq_nil_iff {α : Type} {name : String} {r : Except FieldFault α} :
    faultOf name r = [] ↔ ∃ a, r = .ok a := by
  cases r with
  | ok a => simp [faultOf]
  | error e => simp [faultOf]

namespace ReaderConfig

def fields : List String := [delegationManagerField, avsDirectoryField, rewardsCoordinatorField]

variable {entries : List (String × Value)} {config : ReaderConfig} {faults : Faults}

theorem ofEntries_eq (entries : List (String × Value)) :
    ofEntries entries =
      match Configured.reading (entries.lookup ·) .delegationManager,
        Configured.reading (entries.lookup ·) .avsDirectory,
        Configured.reading (entries.lookup ·) .rewardsCoordinator with
      | .ok d, .ok a, .ok r => .ok ⟨d, a, r⟩
      | d, a, r =>
        .error (faultOf delegationManagerField d ++ faultOf avsDirectoryField a ++
          faultOf rewardsCoordinatorField r) := rfl

theorem reading_of_ofEntries (h : ofEntries entries = .ok config) (k : Configured) :
    Configured.reading (entries.lookup ·) k = .ok (k.address config) := by
  rw [ofEntries_eq] at h
  split at h
  · rename_i d a r hd ha hr
    cases h
    cases k
    · exact hd
    · exact ha
    · exact hr
  · cases h

/-- The faults of a configuration are those of its fields. -/
theorem mem_faults_iff (h : ofEntries entries = .error faults) (k : Configured) (f : FieldFault) :
    (k.field, f) ∈ faults ↔ Configured.reading (entries.lookup ·) k = .error f := by
  rw [ofEntries_eq] at h
  split at h
  · cases h
  · cases h
    rw [List.mem_append, List.mem_append, mem_faultOf_iff, mem_faultOf_iff, mem_faultOf_iff]
    cases k <;> simp [Configured.field, delegationManagerField, avsDirectoryField, rewardsCoordinatorField]

theorem exists_ofEntries (h : ∀ k, ∃ a, Configured.reading (entries.lookup ·) k = .ok a) :
    ∃ config, ofEntries entries = .ok config := by
  obtain ⟨d, hd⟩ := h .delegationManager
  obtain ⟨a, ha⟩ := h .avsDirectory
  obtain ⟨r, hr⟩ := h .rewardsCoordinator
  exact ⟨⟨d, a, r⟩, by rw [ofEntries_eq, hd, ha, hr]⟩

theorem faults_ne_nil (h : ofEntries entries = .error faults) : faults ≠ [] := by
  rintro rfl
  obtain ⟨config, hok⟩ : ∃ config, ofEntries entries = .ok config := by
    refine exists_ofEntries fun k => ?_
    cases hk : Configured.reading (entries.lookup ·) k with
    | ok a => exact ⟨a, rfl⟩
    | error f => cases (mem_faults_iff h k f).2 hk
  cases h.symm.trans hok

theorem byDenotation_ofEntries (k : Configured) :
    k.ByDenotation fields (fun entries name => entries.lookup name) id ofEntries := by
  refine Configured.ByReading.byDenotation
    ⟨fun j => ?_, fun hc => ?_, fun hc => ?_, faults_ne_nil, fun hreading _ => ?_⟩
  · cases j <;> simp [Configured.field, fields]
  · exact reading_of_ofEntries hc k
  · exact mem_faults_iff hc k _
  · rw [ofEntries_eq, ofEntries_eq, hreading]

end ReaderConfig

namespace Settings

def fields : List String := [rpcUrlField, rpcTimeoutField] ++ ReaderConfig.fields ++ [logLevelField]

/-- What a field of settings is read as. -/
def Sources.read {α : Type} (s : Sources) (field : String) (read : Value → Except FieldFault α)
    (fallback : α) : Except FieldFault α :=
  match s.value? field with
  | some v => read v
  | none => .ok fallback

/-- A deployment address that no source names reads as nothing at all does. -/
theorem Sources.read_eq_reading (s : Sources) (k : Configured) :
    s.read k.field deployment .zero = Configured.reading s.value? k := by
  unfold read Configured.reading
  cases s.value? k.field <;> rfl

/-- The faults of all six fields. -/
def Sources.faults (s : Sources) : Faults :=
  faultOf rpcUrlField (s.read rpcUrlField textField defaults.rpcUrl) ++
    faultOf rpcTimeoutField (s.read rpcTimeoutField timeoutField defaults.rpcTimeout) ++
    faultOf ReaderConfig.delegationManagerField (Configured.reading s.value? .delegationManager) ++
    faultOf ReaderConfig.avsDirectoryField (Configured.reading s.value? .avsDirectory) ++
    faultOf ReaderConfig.rewardsCoordinatorField (Configured.reading s.value? .rewardsCoordinator) ++
    faultOf logLevelField (s.read logLevelField levelField defaults.logLevel)

theorem ofSources_eq (s : Sources) :
    ofSources s =
      match s.read rpcUrlField textField defaults.rpcUrl,
        s.read rpcTimeoutField timeoutField defaults.rpcTimeout,
        Configured.reading s.value? .delegationManager, Configured.reading s.value? .avsDirectory,
        Configured.reading s.value? .rewardsCoordinator,
        s.read logLevelField levelField defaults.logLevel with
      | .ok url, .ok timeout, .ok manager, .ok directory, .ok coordinator, .ok level =>
        .ok ⟨url, timeout, ⟨manager, directory, coordinator⟩, level⟩
      | _, _, _, _, _, _ => .error s.faults := by
  unfold Sources.faults
  rw [← s.read_eq_reading, ← s.read_eq_reading, ← s.read_eq_reading]
  rfl

variable {s : Sources} {settings : Settings} {faults : Faults}

theorem reading_of_ofSources (h : ofSources s = .ok settings) (k : Configured) :
    Configured.reading s.value? k = .ok (k.address settings.contracts) := by
  rw [ofSources_eq] at h
  split at h
  · rename_i url timeout d a r level hurl htimeout hd ha hr hlevel
    cases h
    cases k
    · exact hd
    · exact ha
    · exact hr
  · cases h

/-- Whatever is reported is the faults of all six fields. -/
theorem eq_faults_of_ofSources (h : ofSources s = .error faults) : faults = s.faults := by
  rw [ofSources_eq] at h
  split at h
  · cases h
  · exact (Except.error.inj h).symm

/-- The faults of settings in a configured field are those of its reading. -/
theorem mem_faults_iff (h : ofSources s = .error faults) (k : Configured) (f : FieldFault) :
    (k.field, f) ∈ faults ↔ Configured.reading s.value? k = .error f := by
  rw [eq_faults_of_ofSources h]
  unfold Sources.faults
  simp only [List.mem_append, mem_faultOf_iff]
  cases k <;> simp [Configured.field, ReaderConfig.delegationManagerField, ReaderConfig.avsDirectoryField,
    ReaderConfig.rewardsCoordinatorField, rpcUrlField, rpcTimeoutField, logLevelField]

theorem faults_ne_nil (h : ofSources s = .error faults) : faults ≠ [] := by
  rintro rfl
  rw [ofSources_eq] at h
  split at h
  · cases h
  · rename_i hfault
    have hnil : s.faults = [] := Except.error.inj h
    unfold Sources.faults at hnil
    simp only [List.append_eq_nil_iff, faultOf_eq_nil_iff] at hnil
    obtain ⟨⟨⟨⟨⟨⟨url, hurl⟩, timeout, htimeout⟩, d, hd⟩, a, ha⟩, r, hr⟩, level, hlevel⟩ := hnil
    exact hfault url timeout d a r level hurl htimeout hd ha hr hlevel

theorem byDenotation_ofSources (k : Configured) :
    k.ByDenotation fields Sources.value? contracts ofSources := by
  refine Configured.ByReading.byDenotation
    ⟨fun j => ?_, fun hc => ?_, fun hc => ?_, faults_ne_nil, fun hreading hothers => ?_⟩
  · cases j <;> simp [Configured.field, fields, ReaderConfig.fields]
  · exact reading_of_ofSources hc k
  · exact mem_faults_iff hc k _
  · rename_i s s'
    have hread {α : Type} {field : String} (hfield : field ∈ fields)
        (hother : ∀ j : Configured, field ≠ j.field) (f : Value → Except FieldFault α) (fallback : α) :
        s.read field f fallback = s'.read field f fallback := by
      rw [Sources.read, Sources.read, hothers _ hfield hother]
    have hurl : ∀ j : Configured, rpcUrlField ≠ j.field := by rintro (_ | _ | _) <;> decide
    have htimeout : ∀ j : Configured, rpcTimeoutField ≠ j.field := by rintro (_ | _ | _) <;> decide
    have hlevel : ∀ j : Configured, logLevelField ≠ j.field := by rintro (_ | _ | _) <;> decide
    rw [ofSources_eq, ofSources_eq, Sources.faults, Sources.faults]
    simp only [hreading, hread (by simp [fields]) hurl, hread (by simp [fields]) htimeout,
      hread (by simp [fields]) hlevel]

end Settings

end Restaking
