import Mathlib.Data.List.Nodup
import Restaking.Proofs.Config.Deployment
import Restaking.Proofs.Config.Precedence
import Restaking.Proofs.Decimal.Grammar
import Restaking.Proofs.Text.Upper

/-!
# The fields of settings, each on its own

A field has a name, values that it accepts with what they become, and a value for when no source names it.
Settings are shown to be these fields side by side: what is made of one depends on what the sources say about
its name alone, and construction fails for the fields that are refused, in the order of their declaration. The
number in a text or in a byte string is the one that the grammar of doubles gives.
-/
namespace Restaking

open Text

/-- Nothing but blanks. -/
def Blank (s : String) : Prop := ∀ c ∈ s.toList, isBlank c = true

theorem trim_isEmpty_iff {s : String} : (trim s.toList).isEmpty = true ↔ Blank s :=
  List.isEmpty_iff.trans trimWhere_eq_nil_iff

namespace Settings

/-- A text, given as such or by its bytes. -/
inductive Spells : Value → String → Prop where
  | text (s : String) : Spells (.text s) s
  | bytes {bs : List UInt8} {s : String} : String.fromUTF8? ⟨bs.toArray⟩ = some s → Spells (.bytes bs) s
  | buffer {bs : List UInt8} {s : String} : String.fromUTF8? ⟨bs.toArray⟩ = some s → Spells (.buffer bs) s

/-- A number of seconds. -/
inductive Counts : Value → Float → Prop where
  | float (x : Float) : Counts (.float x) x
  | int {n : Int} {x : Float} : Decimal.ofInt? n = some x → Counts (.int n) x
  | bool (b : Bool) : Counts (.bool b) (if b then 1.0 else 0.0)
  | blank {s : String} : Blank s → Counts (.text s) 10.0
  | text {s : String} {x : Float} : ¬ Blank s → Decimal.Spells s.toList x → Counts (.text s) x
  | bytes {bs : List UInt8} {s : String} {x : Float} : String.fromUTF8? ⟨bs.toArray⟩ = some s →
    Decimal.Spells s.toList x → Counts (.bytes bs) x

/-- The name of a level: a text in upper case and without the blanks around it; bytes as they are. -/
inductive NamesLevel : Value → String → Prop where
  | blank {s : String} : Blank s → NamesLevel (.text s) "INFO"
  | text {s : String} : ¬ Blank s → NamesLevel (.text s) (String.ofList (upper (trim s.toList)))
  | bytes {bs : List UInt8} {s : String} : Spells (.bytes bs) s → NamesLevel (.bytes bs) s
  | buffer {bs : List UInt8} {s : String} : Spells (.buffer bs) s → NamesLevel (.buffer bs) s

theorem textField_eq_ok_iff {v : Value} {s : String} : textField v = .ok s ↔ Spells v s := by
  constructor
  · intro h
    cases v with
    | text t =>
      cases h
      exact .text _
    | bytes bs =>
      simp only [textField] at h
      split at h
      · cases h
        exact .bytes (by assumption)
      · cases h
    | buffer bs =>
      simp only [textField] at h
      split at h
      · cases h
        exact .buffer (by assumption)
      · cases h
    | _ => cases h
  · intro h
    cases h with
    | text => rfl
    | bytes hread | buffer hread => simp only [textField, hread]

theorem timeoutField_eq_ok_iff {v : Value} {x : Float} : timeoutField v = .ok x ↔ Counts v x := by
  constructor
  · intro h
    cases v with
    | float y =>
      cases h
      exact .float _
    | int n =>
      simp only [timeoutField] at h
      split at h
      · cases h
        exact .int (by assumption)
      · cases h
    | bool b =>
      cases h
      exact .bool b
    | text s =>
      simp only [timeoutField] at h
      split at h
      · rename_i hblank
        cases h
        exact .blank (trim_isEmpty_iff.1 hblank)
      · rename_i hblank
        split at h
        · rename_i hread
          cases h
          exact .text (fun hs => hblank (trim_isEmpty_iff.2 hs)) (Decimal.read?_eq_some_iff.1 hread)
        · cases h
    | bytes bs =>
      simp only [timeoutField] at h
      split at h
      · rename_i hread
        cases h
        obtain ⟨s, hs, hx⟩ := Option.bind_eq_some_iff.1 hread
        exact .bytes hs (Decimal.read?_eq_some_iff.1 hx)
      · cases h
    | _ => cases h
  · intro h
    cases h with
    | float | bool => rfl
    | int hread => simp only [timeoutField, hread]
    | blank hblank =>
      simp only [timeoutField, trim_isEmpty_iff.2 hblank, if_true]
      rfl
    | text hblank hspells =>
      have hne : ¬ (trim _).isEmpty = true := fun hs => hblank (trim_isEmpty_iff.1 hs)
      simp only [timeoutField, if_neg hne, Decimal.read?_eq_some_iff.2 hspells]
    | bytes hs hspells =>
      simp only [timeoutField, hs, Option.bind_some, Decimal.read?_eq_some_iff.2 hspells]

theorem levelText_of_blank {s : String} (h : Blank s) : levelText s = "INFO" := by
  have hempty : (upper (trim s.toList)).isEmpty = true :=
    List.isEmpty_iff.2 (upper_eq_nil_iff.2 (trimWhere_eq_nil_iff.2 h))
  exact if_pos hempty

theorem levelText_of_not_blank {s : String} (h : ¬ Blank s) :
    levelText s = String.ofList (upper (trim s.toList)) := by
  have hne : ¬ (upper (trim s.toList)).isEmpty = true := fun hempty =>
    h (trimWhere_eq_nil_iff.1 (upper_eq_nil_iff.1 (List.isEmpty_iff.1 hempty)))
  exact if_neg hne

theorem levelField_eq_ok_iff {v : Value} {l : String} : levelField v = .ok l ↔ NamesLevel v l := by
  constructor
  · intro h
    cases v with
    | text s =>
      cases h
      by_cases hs : Blank s
      · rw [levelText_of_blank hs]
        exact .blank hs
      · rw [levelText_of_not_blank hs]
        exact .text hs
    | bytes bs => exact .bytes (textField_eq_ok_iff.1 h)
    | buffer bs => exact .buffer (textField_eq_ok_iff.1 h)
    | _ => cases h
  · intro h
    cases h with
    | blank hs => exact congrArg _ (levelText_of_blank hs)
    | text hs => exact congrArg _ (levelText_of_not_blank hs)
    | bytes hs | buffer hs => exact textField_eq_ok_iff.2 hs

inductive Field where
  | rpcUrl
  | rpcTimeout
  | contract (k : Configured)
  | logLevel

namespace Field

/-- In the order of declaration. -/
def all : List Field :=
  [rpcUrl, rpcTimeout, contract .delegationManager, contract .avsDirectory, contract .rewardsCoordinator,
   logLevel]

def name : Field → String
  | rpcUrl => rpcUrlField
  | rpcTimeout => rpcTimeoutField
  | contract k => k.field
  | logLevel => logLevelField

/-- What a field holds. -/
def Content : Field → Type
  | rpcUrl => String
  | rpcTimeout => Float
  | contract _ => Address
  | logLevel => String

def get (settings : Settings) : (f : Field) → f.Content
  | rpcUrl => settings.rpcUrl
  | rpcTimeout => settings.rpcTimeout
  | contract k => k.address settings.contracts
  | logLevel => settings.logLevel

/-- What a field holds if no source names it. -/
def fallback : (f : Field) → f.Content
  | rpcUrl => ""
  | rpcTimeout => (10.0 : Float)
  | contract _ => Address.zero
  | logLevel => "INFO"

/-- What a field makes of a value that it accepts. -/
def Normalizes : (f : Field) → Value → f.Content → Prop
  | rpcUrl => Spells
  | rpcTimeout => Counts
  | contract _ => Denotes
  | logLevel => NamesLevel

def read : (f : Field) → Value → Except FieldFault f.Content
  | rpcUrl => textField
  | rpcTimeout => timeoutField
  | contract _ => deployment
  | logLevel => levelField

theorem read_eq_ok_iff {f : Field} {v : Value} {x : f.Content} : f.read v = .ok x ↔ f.Normalizes v x := by
  cases f with
  | rpcUrl => exact textField_eq_ok_iff
  | rpcTimeout => exact timeoutField_eq_ok_iff
  | contract k => exact deployment_eq_ok_iff
  | logLevel => exact levelField_eq_ok_iff

theorem mem_all (f : Field) : f ∈ all := by
  cases f with
  | contract k => cases k <;> simp [all]
  | _ => simp [all]

theorem nodup_names : (all.map name).Nodup := by decide

theorem name_injective {f g : Field} (h : f.name = g.name) : f = g :=
  List.inj_on_of_nodup_map nodup_names (mem_all f) (mem_all g) h

variable {s : Sources} {f : Field} {e : FieldFault}

/-- No two names are the same but for letter case. -/
theorem foldName_ne {g : Field} (h : f ≠ g) :
    Sources.foldName false g.name ≠ Sources.foldName false f.name := by
  have hnodup : (all.map fun f => Sources.foldName false f.name).Nodup := by decide
  exact fun hfold => h (List.inj_on_of_nodup_map hnodup (mem_all f) (mem_all g) hfold.symm)

/-- What is made of a field. -/
def reading (f : Field) (s : Sources) : Except FieldFault f.Content := s.read f.name f.read f.fallback

/-- The faults are those of the fields in their order. -/
theorem faults_eq_flatMap (s : Sources) : s.faults = all.flatMap fun f => faultOf f.name (f.reading s) := by
  unfold Sources.faults
  simp only [← Sources.read_eq_reading, List.append_assoc, all, List.flatMap_cons, List.flatMap_nil,
    List.append_nil]
  rfl

theorem mem_faults_iff : (f.name, e) ∈ s.faults ↔ f.reading s = .error e := by
  rw [faults_eq_flatMap, List.mem_flatMap]
  constructor
  · rintro ⟨g, -, hg⟩
    obtain ⟨hname, hread⟩ := mem_faultOf_iff.1 hg
    obtain rfl := name_injective hname
    exact hread
  · exact fun h => ⟨f, mem_all f, mem_faultOf_iff.2 ⟨rfl, h⟩⟩

theorem map_fst_faultOf_sublist {α : Type} (name : String) (r : Except FieldFault α) :
    ((faultOf name r).map Prod.fst).Sublist [name] := by
  cases r with
  | ok x => exact List.nil_sublist _
  | error e => exact List.Sublist.refl _

/-- Each field is blamed at most once, and in the order of declaration. -/
theorem map_fst_faults_sublist (s : Sources) : (s.faults.map Prod.fst).Sublist (all.map name) := by
  rw [faults_eq_flatMap]
  induction all with
  | nil => exact List.Sublist.refl _
  | cons f rest ih =>
    rw [List.flatMap_cons, List.map_append, List.map_cons]
    exact (map_fst_faultOf_sublist f.name (f.reading s)).append ih

theorem ofSources_eq_ok_iff {settings : Settings} :
    ofSources s = .ok settings ↔ ∀ f : Field, f.reading s = .ok (f.get settings) := by
  rw [ofSources_eq]
  constructor
  · intro h
    split at h
    · rename_i hurl htimeout hmanager hdirectory hcoordinator hlevel
      cases h
      rintro (_ | _ | k | _)
      · exact hurl
      · exact htimeout
      · refine (s.read_eq_reading k).trans ?_
        cases k
        · exact hmanager
        · exact hdirectory
        · exact hcoordinator
      · exact hlevel
    · cases h
  · intro h
    have hcontract (k : Configured) : Configured.reading s.value? k = .ok (k.address settings.contracts) :=
      (s.read_eq_reading k).symm.trans (h (.contract k))
    have hurl : s.read rpcUrlField textField defaults.rpcUrl = .ok settings.rpcUrl := h .rpcUrl
    have htimeout : s.read rpcTimeoutField timeoutField defaults.rpcTimeout = .ok settings.rpcTimeout :=
      h .rpcTimeout
    have hlevel : s.read logLevelField levelField defaults.logLevel = .ok settings.logLevel := h .logLevel
    rw [hurl, htimeout, hcontract .delegationManager, hcontract .avsDirectory,
      hcontract .rewardsCoordinator, hlevel]
    rfl

/-- Whatever is refused is reported. -/
theorem exists_ofSources_eq_error_iff :
    (∃ faults, ofSources s = .error faults) ↔ ∃ (f : Field) (e : FieldFault), f.reading s = .error e := by
  constructor
  · rintro ⟨faults, h⟩
    by_contra hnone
    have hnil : s.faults = [] := by
      rw [faults_eq_flatMap, List.flatMap_eq_nil_iff]
      intro f _
      cases hf : f.reading s with
      | ok x => rfl
      | error e => exact absurd ⟨f, e, hf⟩ hnone
    exact faults_ne_nil h ((eq_faults_of_ofSources h).trans hnil)
  · rintro ⟨f, e, hf⟩
    cases h : ofSources s with
    | ok settings => cases hf.symm.trans (ofSources_eq_ok_iff.1 h f)
    | error faults => exact ⟨faults, rfl⟩

/-- A level alone is given. -/
theorem reading_level (v : Value) :
    logLevel.reading { Sources.empty with arguments := [(logLevelField, v)] } = levelField v := by
  have hvalue : Sources.value? { Sources.empty with arguments := [(logLevelField, v)] } (name logLevel) =
      some v := (Sources.value?_argument _ _ v).trans (if_pos rfl)
  rw [reading, Sources.read, hvalue]
  rfl

theorem reading_of_ne_logLevel (hf : f ≠ .logLevel) (v : Value) :
    f.reading { Sources.empty with arguments := [(logLevelField, v)] } = .ok f.fallback := by
  have hname : Sources.foldName false logLevelField ≠ Sources.foldName false f.name :=
    foldName_ne (g := .logLevel) hf
  rw [reading, Sources.read, Sources.value?_argument, if_neg hname]

end Field

/-- A level alone makes settings that are the defaults in everything else. -/
theorem ofSources_level (v : Value) :
    ofSources { Sources.empty with arguments := [(logLevelField, v)] } =
      match levelField v with
      | .ok l => .ok { defaults with logLevel := l }
      | .error e => .error [(logLevelField, e)] := by
  cases hv : levelField v with
  | ok l =>
    refine Field.ofSources_eq_ok_iff.2 fun f => ?_
    by_cases hf : f = .logLevel
    · subst hf
      exact (Field.reading_level v).trans hv
    · rw [Field.reading_of_ne_logLevel hf]
      rcases f with _ | _ | (_ | _ | _) | _
      all_goals first | rfl | exact absurd rfl hf
  | error e =>
    obtain ⟨faults, hfaults⟩ :=
      Field.exists_ofSources_eq_error_iff.2 ⟨.logLevel, e, (Field.reading_level v).trans hv⟩
    have hnone {f : Field} (hf : f ≠ .logLevel) :
        faultOf f.name (f.reading { Sources.empty with arguments := [(logLevelField, v)] }) = [] := by
      rw [Field.reading_of_ne_logLevel hf]
      rfl
    rw [hfaults, eq_faults_of_ofSources hfaults, Field.faults_eq_flatMap]
    simp only [Field.all, List.flatMap_cons, List.flatMap_nil, ne_eq, reduceCtorEq, not_false_eq_true, hnone,
      Field.reading_level, hv]
    rfl

namespace Field

variable {s : Sources} {f : Field}

/-! ## Values from orderly sources -/

/-- The field holds this: its value is normalised, or no source names it. -/
inductive Settles (f : Field) (s : Sources) : f.Content → Prop where
  | given {v : Value} {x : f.Content} : s.Gives f.name (some v) → f.Normalizes v x → f.Settles s x
  | nothing : s.Gives f.name none → f.Settles s f.fallback

/-- The field has a value that it does not accept. -/
def Rejected (f : Field) (s : Sources) : Prop :=
  ∃ v, s.Gives f.name (some v) ∧ ∀ x, ¬ f.Normalizes v x

theorem reading_of_gives_some (hs : s.Orderly) {v : Value} (h : s.Gives f.name (some v)) :
    f.reading s = f.read v := by
  rw [reading, Sources.read, hs.gives_iff.1 h]

theorem reading_of_gives_none (hs : s.Orderly) (h : s.Gives f.name none) :
    f.reading s = .ok f.fallback := by
  rw [reading, Sources.read, hs.gives_iff.1 h]

theorem reading_eq_ok_iff (hs : s.Orderly) {x : f.Content} : f.reading s = .ok x ↔ f.Settles s x := by
  constructor
  · intro h
    cases hv : s.value? f.name with
    | none =>
      have hgives : s.Gives f.name none := hs.gives_iff.2 hv
      obtain rfl := Except.ok.inj ((reading_of_gives_none hs hgives).symm.trans h)
      exact .nothing hgives
    | some v =>
      have hgives : s.Gives f.name (some v) := hs.gives_iff.2 hv
      exact .given hgives (read_eq_ok_iff.1 ((reading_of_gives_some hs hgives).symm.trans h))
  · intro h
    cases h with
    | given hgives hx => exact (reading_of_gives_some hs hgives).trans (read_eq_ok_iff.2 hx)
    | nothing hgives => exact reading_of_gives_none hs hgives

theorem exists_reading_eq_error_iff (hs : s.Orderly) : (∃ e, f.reading s = .error e) ↔ f.Rejected s := by
  constructor
  · rintro ⟨e, h⟩
    cases hv : s.value? f.name with
    | none => cases h.symm.trans (reading_of_gives_none hs (hs.gives_iff.2 hv))
    | some v =>
      have hgives : s.Gives f.name (some v) := hs.gives_iff.2 hv
      refine ⟨v, hgives, fun x hx => ?_⟩
      have hok : f.reading s = .ok x := (reading_of_gives_some hs hgives).trans (read_eq_ok_iff.2 hx)
      cases h.symm.trans hok
  · rintro ⟨v, hgives, hno⟩
    cases h : f.reading s with
    | error e => exact ⟨e, rfl⟩
    | ok x => exact absurd (read_eq_ok_iff.1 ((reading_of_gives_some hs hgives).symm.trans h)) (hno x)

/-- Blank text stands for the same as no value at all, but for the field that takes text as it is. -/
theorem normalizes_blank (hf : f ≠ .rpcUrl) {t : String} (ht : Blank t) :
    f.Normalizes (.text t) f.fallback := by
  cases f with
  | rpcUrl => exact absurd rfl hf
  | rpcTimeout => exact .blank ht
  | contract k => exact .blank ht
  | logLevel => exact .blank ht

end Field

/-- What sources make of settings is decided field by field. Each field either holds one thing, its value from
the first source that names it in normal form or its default if none does, or its value is refused. Settings
are what all fields hold; they cannot be made exactly if a field is refused, and then those fields are blamed,
each once and in their order. Blank text is a value like any other. What the sources say about other names
does not count. -/
theorem ofSources_field_by_field {s : Sources} (hs : s.Orderly) :
    (∀ f : Field, (¬ f.Rejected s ∧ ∃! x, f.Settles s x) ∨ (f.Rejected s ∧ ∀ x, ¬ f.Settles s x)) ∧
    (∀ settings, ofSources s = .ok settings ↔ ∀ f : Field, f.Settles s (f.get settings)) ∧
    ((∃ faults, ofSources s = .error faults) ↔ ∃ f : Field, f.Rejected s) ∧
    (∀ faults, ofSources s = .error faults →
      (faults.map Prod.fst).Sublist (Field.all.map Field.name) ∧ (Field.all.map Field.name).Nodup ∧
        ∀ f : Field, f.name ∈ faults.map Prod.fst ↔ f.Rejected s) ∧
    (∀ (f : Field) (t : String), f ≠ .rpcUrl → Blank t → s.Gives f.name (some (.text t)) →
      f.Settles s f.fallback) ∧
    ∀ {s' : Sources}, s'.Orderly → ∀ f : Field, Sources.Agrees f.name s s' →
      (∀ x, f.Settles s x ↔ f.Settles s' x) ∧ (f.Rejected s ↔ f.Rejected s') := by
  refine ⟨fun f => ?_, fun settings => ?_, ?_, fun faults h => ⟨?_, Field.nodup_names, fun f => ?_⟩, ?_, ?_⟩
  · cases hf : f.reading s with
    | ok x =>
      have hnot : ¬ f.Rejected s := by
        rw [← Field.exists_reading_eq_error_iff hs, hf]
        rintro ⟨e, he⟩
        cases he
      refine .inl ⟨hnot, x, (Field.reading_eq_ok_iff hs).1 hf, fun y hy => ?_⟩
      exact (Except.ok.inj (hf.symm.trans ((Field.reading_eq_ok_iff hs).2 hy))).symm
    | error e =>
      refine .inr ⟨(Field.exists_reading_eq_error_iff hs).1 ⟨e, hf⟩, fun x hx => ?_⟩
      cases hf.symm.trans ((Field.reading_eq_ok_iff hs).2 hx)
  · rw [Field.ofSources_eq_ok_iff]
    exact forall_congr' fun f => Field.reading_eq_ok_iff hs
  · rw [Field.exists_ofSources_eq_error_iff]
    exact exists_congr fun f => Field.exists_reading_eq_error_iff hs
  · rw [eq_faults_of_ofSources h]
    exact Field.map_fst_faults_sublist s
  · rw [← Field.exists_reading_eq_error_iff hs, eq_faults_of_ofSources h, List.mem_map]
    constructor
    · rintro ⟨⟨name, e⟩, hmem, hname⟩
      obtain rfl : name = f.name := hname
      exact ⟨e, Field.mem_faults_iff.1 hmem⟩
    · rintro ⟨e, he⟩
      exact ⟨_, Field.mem_faults_iff.2 he, rfl⟩
  · exact fun f t hf ht hgives => .given hgives (Field.normalizes_blank hf ht)
  · intro s' hs' f hagrees
    have hreading : f.reading s = f.reading s' := by
      have hvalue : s.value? f.name = s'.value? f.name :=
        (hs'.gives_iff.1 (hagrees.gives (hs.gives_value? f.name))).symm
      rw [Field.reading, Field.reading, Sources.read, Sources.read, hvalue]
    refine ⟨fun x => ?_, ?_⟩
    · rw [← Field.reading_eq_ok_iff hs, hreading, Field.reading_eq_ok_iff hs']
    · rw [← Field.exists_reading_eq_error_iff hs, hreading, Field.exists_reading_eq_error_iff hs']

/-- A blank level over another one, values in three places and two that are no addresses. -/
def mixedSources : Sources where
  arguments := [("Log_Level", .text " \t"), ("colour", .int 1)]
  environment := [("LOG_LEVEL", "debug"), ("AVS_DIRECTORY_ADDRESS", "0x1234"), ("HOME", "/")]
  file := some "ETH_RPC_URL='http://node' # local\nrpc_timeout_seconds=\nREWARDS_COORDINATOR_ADDRESS=none\n"
  conventions := .standard

/-- The same about the level, and a timeout. -/
def levelSources : Sources where
  arguments := [("LOG_LEVEL", .text " \t")]
  environment := [("log_level", "debug"), ("RPC_TIMEOUT_SECONDS", "30.5")]
  file := none
  conventions := .standard

theorem fileEntries_mixedSources :
    mixedSources.fileEntries =
      [("ETH_RPC_URL", some "http://node"), ("rpc_timeout_seconds", some ""),
        ("REWARDS_COORDINATOR_ADDRESS", some "none")] := by
  decide +kernel

theorem orderly_mixedSources : mixedSources.Orderly where
  conventions := rfl
  arguments := by unfold Sources.Distinct; decide
  environment := by unfold Sources.Distinct; decide
  file := by rw [fileEntries_mixedSources]; unfold Sources.Distinct; decide
  referenceFree := by
    have hplain : ∀ e ∈ mixedSources.fileEntries, ∀ t ∈ e.2, '$' ∉ t.toList := by
      rw [fileEntries_mixedSources]
      decide
    exact fun e he t ht => EnvFile.referenceFree_of_not_mem (hplain e he t ht)

theorem orderly_levelSources : levelSources.Orderly where
  conventions := rfl
  arguments := List.pairwise_singleton _ _
  environment := by unfold Sources.Distinct; decide
  file := List.Pairwise.nil
  referenceFree := nofun

theorem agrees_levelSources : Sources.Agrees logLevelField mixedSources levelSources where
  arguments := by
    intro v
    simp only [Sources.Assigns, mixedSources, levelSources, List.mem_cons, List.not_mem_nil, or_false]
    constructor
    · rintro ⟨name, h | h, hname⟩
      · exact ⟨"LOG_LEVEL", by rw [(Prod.mk.inj h).2], by decide⟩
      · rw [(Prod.mk.inj h).1] at hname
        exact absurd hname (by decide)
    · rintro ⟨name, h, -⟩
      exact ⟨"Log_Level", .inl (by rw [(Prod.mk.inj h).2]), by decide⟩
  environment := by
    intro v
    simp only [Sources.Assigns, mixedSources, levelSources, List.mem_cons, List.not_mem_nil, or_false]
    constructor
    · rintro ⟨name, h | h | h, hname⟩
      · exact ⟨"log_level", .inl (by rw [(Prod.mk.inj h).2]), by decide⟩
      all_goals
        rw [(Prod.mk.inj h).1] at hname
        exact absurd hname (by decide)
    · rintro ⟨name, h | h, hname⟩
      · exact ⟨"LOG_LEVEL", .inl (by rw [(Prod.mk.inj h).2]), by decide⟩
      · rw [(Prod.mk.inj h).1] at hname
        exact absurd hname (by decide)
  file := by
    have hmixed : ∀ v, ¬ Sources.Assigns mixedSources.fileEntries logLevelField v := by
      rw [fileEntries_mixedSources]
      exact Sources.not_assigns (by decide)
    have hnone : levelSources.fileEntries = [] := rfl
    exact fun v => iff_of_false (hmixed v) (by simp [Sources.Assigns, hnone])

theorem gives_levelSources {f : Field} (hlevel : f ≠ .logLevel) (htimeout : f ≠ .rpcTimeout) :
    levelSources.Gives f.name none := by
  have hlevelName : Sources.foldName false "LOG_LEVEL" = Sources.foldName false Field.logLevel.name := by
    decide
  have htimeoutName :
      Sources.foldName false "RPC_TIMEOUT_SECONDS" = Sources.foldName false Field.rpcTimeout.name := by decide
  refine .nothing (Sources.not_assigns ?_) (Sources.not_assigns (List.forall_mem_cons.2 ⟨?_, ?_⟩)) ?_
  · exact List.forall_mem_singleton.2 fun h => Field.foldName_ne hlevel (hlevelName.symm.trans h)
  · exact Field.foldName_ne (g := .logLevel) hlevel
  · exact List.forall_mem_singleton.2 fun h => Field.foldName_ne htimeout (htimeoutName.symm.trans h)
  · rintro t ⟨name, hmem, -⟩
    cases hmem

theorem spells_thirty_point_five : Decimal.Spells "30.5".toList 30.5 := by
  have hwhole : Decimal.Digits ['3', '0'] := List.all_eq_true.1 (by decide)
  have hfraction : Decimal.Digits ['5'] := List.all_eq_true.1 (by decide)
  have hdecimal : Decimal.Unsigned "30.5".toList 30.5 := .point (by decide) hwhole hfraction .none
  exact @Decimal.Spells.padded [] _ [] _ nofun (.bare (.decimal hdecimal)) nofun

/-- The blank level is taken and stands for the default, whatever else is given; both addresses are blamed and
nothing else is, although other fields come from other sources. -/
theorem ofSources_field_by_field_mixed :
    Field.Settles .logLevel mixedSources ("INFO" : String) ∧
    Field.Settles .rpcUrl mixedSources ("http://node" : String) ∧
    Field.Settles .rpcTimeout mixedSources (10.0 : Float) ∧
    (∃ faults, ofSources mixedSources = .error faults ∧
      ReaderConfig.avsDirectoryField ∈ faults.map Prod.fst ∧
      ReaderConfig.rewardsCoordinatorField ∈ faults.map Prod.fst ∧ logLevelField ∉ faults.map Prod.fst) ∧
    ∃ settings, ofSources levelSources = .ok settings ∧ settings.logLevel = "INFO" ∧
      settings.rpcTimeout = 30.5 := by
  obtain ⟨hone, -, hfails, hblamed, hblank, hagrees⟩ := ofSources_field_by_field orderly_mixedSources
  obtain ⟨hone', hok, hfails', -⟩ := ofSources_field_by_field orderly_levelSources
  have hgives : mixedSources.Gives logLevelField (some (.text " \t")) :=
    .argument ⟨"Log_Level", by simp [mixedSources], by decide⟩
  have hlevel : Field.Settles .logLevel mixedSources ("INFO" : String) :=
    hblank .logLevel " \t" nofun (List.all_eq_true.1 (by decide)) hgives
  have hdirectory : Field.Rejected (.contract .avsDirectory) mixedSources := by
    refine ⟨.text "0x1234", .environment (Sources.not_assigns (by decide))
      ⟨"AVS_DIRECTORY_ADDRESS", by decide, by decide⟩, fun x hx => ?_⟩
    cases deployment_eq_ok_iff.2 hx
  have hcoordinator : Field.Rejected (.contract .rewardsCoordinator) mixedSources := by
    refine ⟨.text "none", .file (Sources.not_assigns (by decide)) (Sources.not_assigns (by decide))
      ⟨"REWARDS_COORDINATOR_ADDRESS", by rw [fileEntries_mixedSources]; decide, by decide⟩, fun x hx => ?_⟩
    cases deployment_eq_ok_iff.2 hx
  refine ⟨hlevel, ?_, ?_, ?_, ?_⟩
  · refine .given (.file (Sources.not_assigns (by decide)) (Sources.not_assigns (by decide))
      ⟨"ETH_RPC_URL", by rw [fileEntries_mixedSources]; decide, by decide⟩) (.text _)
  · refine hblank .rpcTimeout "" nofun nofun
      (.file (Sources.not_assigns (by decide)) (Sources.not_assigns (by decide))
        ⟨"rpc_timeout_seconds", by rw [fileEntries_mixedSources]; decide, by decide⟩)
  · obtain ⟨faults, hfaults⟩ := hfails.2 ⟨_, hdirectory⟩
    obtain ⟨-, -, hnames⟩ := hblamed faults hfaults
    refine ⟨faults, hfaults, (hnames (.contract .avsDirectory)).2 hdirectory,
      (hnames (.contract .rewardsCoordinator)).2 hcoordinator, fun hmem => ?_⟩
    rcases hone .logLevel with ⟨hnot, -⟩ | ⟨-, hnone⟩
    · exact hnot ((hnames .logLevel).1 hmem)
    · exact hnone _ hlevel
  · have hlevel' : Field.Settles .logLevel levelSources ("INFO" : String) :=
      ((hagrees orderly_levelSources .logLevel agrees_levelSources).1 _).1 hlevel
    have htimeout : Field.Settles .rpcTimeout levelSources (30.5 : Float) := by
      refine .given (.environment (Sources.not_assigns (by decide)) ⟨"RPC_TIMEOUT_SECONDS", ?_, by decide⟩)
        (.text ?_ spells_thirty_point_five)
      · simp [levelSources]
      · exact fun hblank => absurd (hblank '3' (by decide)) (by decide)
    have haccepted : ∀ f : Field, ¬ f.Rejected levelSources := by
      intro f hrejected
      rcases hone' f with ⟨hnot, -⟩ | ⟨-, hnone⟩
      · exact hnot hrejected
      · by_cases hf : f = .logLevel
        · subst hf
          exact hnone _ hlevel'
        · by_cases hf' : f = .rpcTimeout
          · subst hf'
            exact hnone _ htimeout
          · exact hnone _ (.nothing (gives_levelSources hf hf'))
    cases hsettings : ofSources levelSources with
    | error faults =>
      obtain ⟨f, hf⟩ := hfails'.1 ⟨faults, hsettings⟩
      exact absurd hf (haccepted f)
    | ok settings =>
      have hheld {f : Field} {x : f.Content} (hx : f.Settles levelSources x) : f.get settings = x := by
        rcases hone' f with ⟨-, hunique⟩ | ⟨hrejected, -⟩
        · exact hunique.unique ((hok settings).1 hsettings f) hx
        · exact absurd hrejected (haccepted f)
      exact ⟨settings, rfl, hheld hlevel', hheld htimeout⟩

end Settings

end Restaking
