import Restaking.Logging.Root
import Restaking.Proofs.Text.Upper

/-!
# The level that configuring sets

A text names a level if it does so in upper case, and otherwise stands for the level of information. Two texts
name something else. They are shown to be the only ones with which configuring fails, and then it fails half
done: the handler is there, the level is the old one, and nothing that is tried later changes either. That the
handler is added before the level is set is taken from the logging library.
-/
namespace Restaking.Logging

open Restaking.Text

/-- A text in upper case. -/
def capital (s : String) : String := String.ofList (upper s.toList)

variable {s : String} {l : Level}

theorem capital_toList (s : String) : (capital s).toList = upper s.toList := String.toList_ofList

/-- Capitals are capitals already. -/
theorem capital_capital (s : String) : capital (capital s) = capital s := by
  rw [capital, capital_toList, upper_upper]
  rfl

theorem capital_eq_empty_iff : capital s = "" ↔ s = "" := by
  rw [← String.toList_eq_nil_iff, capital_toList, upper_eq_nil_iff, String.toList_eq_nil_iff]

/-- A text without the blanks around it. -/
def trimmed (s : String) : String := String.ofList (trim s.toList)

theorem trimmed_toList (s : String) : (trimmed s).toList = trim s.toList := String.toList_ofList

theorem capital_trimmed (s : String) : capital (trimmed s) = trimmed (capital s) := by
  rw [capital, trimmed_toList, upper_trim, ← capital_toList]
  rfl

theorem exists_isBlank_of_trimmed_ne (h : trimmed s ≠ s) : ∃ c ∈ s.toList, isBlank c = true := by
  obtain ⟨before, after, hs, hbefore, hafter⟩ := exists_trimWhere isBlank s.toList
  by_contra hnone
  have hempty {part : List Char} (hpart : ∀ c ∈ part, c ∈ s.toList) (hblank : ∀ c ∈ part, isBlank c = true) :
      part = [] :=
    List.eq_nil_iff_forall_not_mem.2 fun c hc => hnone ⟨c, hpart c hc, hblank c hc⟩
  have hstart : before = [] := hempty (fun c hc => by rw [hs]; simp [hc]) hbefore
  have hend : after = [] := hempty (fun c hc => by rw [hs]; simp [hc]) hafter
  rw [hstart, hend, List.nil_append, List.append_nil] at hs
  exact h ((congrArg String.ofList hs.symm).trans String.ofList_toList)

theorem lookup_eq_none_of_not_mem {α : Type} {name : String} {entries : List (String × α)}
    (h : name ∉ entries.map Prod.fst) : entries.lookup name = none := by
  rw [List.lookup_eq_none_iff]
  intro e he
  rw [bne_iff_ne]
  exact fun hname => h (List.mem_map.2 ⟨e, he, hname.symm⟩)

namespace Level

/-- The levels that have a name. -/
def names : List (String × Level) :=
  [("CRITICAL", critical), ("FATAL", critical), ("ERROR", error), ("WARNING", warning), ("WARN", warning),
   ("INFO", info), ("DEBUG", debug), ("NOTSET", 0)]

/-- The level that a text names in any letter case, or else that of information. -/
def ofText (s : String) : Level := (names.lookup (capital s)).getD info

theorem lookup_names : ∀ e ∈ names, names.lookup e.1 = some e.2 := by decide

theorem ofText_of_mem (h : (capital s, l) ∈ names) : ofText s = l := by
  rw [ofText, lookup_names _ h, Option.getD_some]

theorem ofText_of_not_mem (h : capital s ∉ names.map Prod.fst) : ofText s = info := by
  rw [ofText, lookup_eq_none_of_not_mem h, Option.getD_none]

end Level

/-- What the texts name that name something but no level. -/
def misnomers : List (String × Denotation) := [("BASIC_FORMAT", .text), ("_STYLES", .table)]

/-- In upper case the text names something that is no level. -/
def Misnames (s : String) : Prop := capital s ∈ misnomers.map Prod.fst

instance (s : String) : Decidable (Misnames s) := inferInstanceAs (Decidable (_ ∈ _))

theorem denotations_eq :
    denotations = Level.names.map (fun e => (e.1, .level e.2)) ++ misnomers := rfl

theorem lookup_map_level (name : String) (ls : List (String × Level)) :
    (ls.map fun e => (e.1, Denotation.level e.2)).lookup name = (ls.lookup name).map .level := by
  induction ls with
  | nil => rfl
  | cons e rest ih =>
    rw [List.map_cons, List.lookup_cons, List.lookup_cons, ih]
    cases name == e.1 <;> rfl

theorem denotation_of_not_misnames (h : ¬ Misnames s) :
    denotation (capital s) = .level (Level.ofText s) := by
  unfold denotation
  rw [denotations_eq, List.lookup_append, lookup_map_level, lookup_eq_none_of_not_mem h,
    Option.or_none, Level.ofText]
  cases Level.names.lookup (capital s) <;> rfl

theorem denotation_of_misnames (h : Misnames s) :
    ∃ d, (capital s, d) ∈ misnomers ∧ denotation (capital s) = d ∧ ∀ l, d ≠ .level l := by
  obtain ⟨e, he, hname⟩ := List.mem_map.1 h
  rw [← hname]
  refine ⟨e.2, he, ?_⟩
  rcases List.mem_cons.1 he with rfl | he
  · exact ⟨by decide, nofun⟩
  · rw [List.mem_singleton.1 he]
    exact ⟨by decide, nofun⟩

theorem denotation_eq_info_iff :
    denotation (capital s) = .level Level.info ↔ ¬ Misnames s ∧ Level.ofText s = Level.info := by
  by_cases h : Misnames s
  · obtain ⟨d, -, hd, hlevel⟩ := denotation_of_misnames h
    rw [hd]
    exact iff_of_false (hlevel _) fun hnot => hnot.1 h
  · rw [denotation_of_not_misnames h, Denotation.level.injEq]
    exact (and_iff_right h).symm

theorem any_isBlank_denotations : ∀ e ∈ denotations, e.1.toList.any isBlank = false := by decide

/-- With blanks around it a text is nothing's name. -/
theorem denotation_of_trimmed_ne (h : trimmed s ≠ s) : denotation (capital s) = .level Level.info := by
  obtain ⟨c, hc, hblank⟩ := exists_isBlank_of_trimmed_ne h
  have hcapital : c ∈ (capital s).toList := by
    rw [capital_toList]
    exact mem_upper_of_isBlank hc hblank
  have hnot : capital s ∉ denotations.map Prod.fst := by
    intro hmem
    obtain ⟨e, he, hname⟩ := List.mem_map.1 hmem
    rw [← hname] at hcapital
    exact List.any_eq_false.1 (any_isBlank_denotations e he) c hcapital hblank
  unfold denotation
  rw [lookup_eq_none_of_not_mem hnot, Option.getD_none]

namespace Root

/-- The name that counts: the one given, unless none or an empty one is. -/
def chosen (settingsLevel : String) : Option String → String
  | some s => if s = "" then settingsLevel else s
  | none => settingsLevel

variable {settingsLevel : String} {given : Option String} {root : Root}

theorem configure_of_handlers_ne (h : root.handlers ≠ 0) :
    root.configure settingsLevel given = (.ok (), root) := if_neg h

theorem configure_eq (h : root.handlers = 0) :
    root.configure settingsLevel given =
      match denotation (capital (chosen settingsLevel given)) with
      | .level l => (.ok (), ⟨l, 1⟩)
      | d => (.error d, ⟨root.level, 1⟩) := by
  cases given with
  | none => exact if_pos h
  | some s =>
    have hname : (if s.isEmpty then settingsLevel else s) = chosen settingsLevel (some s) := by
      simp only [chosen, String.isEmpty_iff]
    rw [← hname]
    exact if_pos h

theorem configure_of_not_misnames (h : root.handlers = 0) (hname : ¬ Misnames (chosen settingsLevel given)) :
    root.configure settingsLevel given = (.ok (), ⟨Level.ofText (chosen settingsLevel given), 1⟩) := by
  rw [configure_eq h, denotation_of_not_misnames hname]

theorem configure_of_misnames (h : root.handlers = 0) (hname : Misnames (chosen settingsLevel given)) :
    ∃ d, (capital (chosen settingsLevel given), d) ∈ misnomers ∧
      root.configure settingsLevel given = (.error d, ⟨root.level, 1⟩) := by
  obtain ⟨d, hmem, hd, hlevel⟩ := denotation_of_misnames hname
  refine ⟨d, hmem, ?_⟩
  rw [configure_eq h, hd]
  cases d with
  | level l => exact absurd rfl (hlevel l)
  | text | table => rfl

/-- The first configuration leaves one handler, and the old level only if the name is that of no level. -/
theorem snd_configure (h : root.handlers = 0) :
    (root.configure settingsLevel given).2 =
      ⟨if Misnames (chosen settingsLevel given) then root.level
        else Level.ofText (chosen settingsLevel given), 1⟩ := by
  by_cases hname : Misnames (chosen settingsLevel given)
  · obtain ⟨d, -, hd⟩ := configure_of_misnames h hname
    rw [hd, if_pos hname]
  · rw [configure_of_not_misnames h hname, if_neg hname]

theorem handlers_configure_ne_zero (settingsLevel : String) (given : Option String) (root : Root) :
    (root.configure settingsLevel given).2.handlers ≠ 0 := by
  by_cases h : root.handlers = 0
  · rw [snd_configure h]
    exact Nat.one_ne_zero
  · rwa [configure_of_handlers_ne h]

/-- Configuring does nothing where there is a handler. Where there is none it adds one, and sets the level
that the name in effect has in any letter case, or that of information if the name is unknown. Exactly with
the names of a text and of a table it fails instead, keeps the old level and leaves the handler, so that
nothing given later sets a level. -/
theorem configure_sets_level_unless_misnamed (settingsLevel : String) (given : Option String) (root : Root) :
    let name := chosen settingsLevel given
    let r := root.configure settingsLevel given
    (root.handlers ≠ 0 → r = (.ok (), root)) ∧
    (root.handlers = 0 → ¬ Misnames name → r.1 = .ok () ∧ r.2.handlers = 1 ∧
      (∀ l, (capital name, l) ∈ Level.names → r.2.level = l) ∧
      (capital name ∉ Level.names.map Prod.fst → r.2.level = Level.info)) ∧
    (root.handlers = 0 → Misnames name →
      (∃ d, (capital name, d) ∈ misnomers ∧ r.1 = .error d) ∧ r.2 = ⟨root.level, 1⟩) ∧
    ∀ settingsLevel' given', r.2.configure settingsLevel' given' = (.ok (), r.2) := by
  intro name r
  refine ⟨configure_of_handlers_ne, fun h hname => ?_, fun h hname => ?_, fun settingsLevel' given' => ?_⟩
  · have hr : r = (.ok (), ⟨Level.ofText name, 1⟩) := configure_of_not_misnames h hname
    rw [hr]
    exact ⟨rfl, rfl, fun l => Level.ofText_of_mem, Level.ofText_of_not_mem⟩
  · obtain ⟨d, hd, hr⟩ : ∃ d, (capital name, d) ∈ misnomers ∧ r = (.error d, ⟨root.level, 1⟩) :=
      configure_of_misnames h hname
    rw [hr]
    exact ⟨⟨d, hd, rfl⟩, rfl⟩
  · exact configure_of_handlers_ne (handlers_configure_ne_zero settingsLevel given root)

/-- A name in mixed case before the settings' one, an unknown name, an empty one, and that of a table, which
is in the way of what comes later. -/
theorem configure_sets_level_unless_misnamed_mixed :
    let root : Root := ⟨50, 0⟩
    (root.configure "ERROR" (some "dEbUg")).2.level = 10 ∧
    (root.configure "ERROR" (some "loud")).2.level = 20 ∧
    (root.configure "ERROR" (some "")).2.level = 40 ∧
    (root.configure "ERROR" (some "_styles")).2 = ⟨50, 1⟩ ∧
    (⟨50, 1⟩ : Root).configure "ERROR" (some "debug") = (.ok (), ⟨50, 1⟩) := by
  intro root
  obtain ⟨-, hdebug, -⟩ := configure_sets_level_unless_misnamed "ERROR" (some "dEbUg") root
  obtain ⟨-, hloud, -⟩ := configure_sets_level_unless_misnamed "ERROR" (some "loud") root
  obtain ⟨-, herror, -⟩ := configure_sets_level_unless_misnamed "ERROR" (some "") root
  obtain ⟨-, -, hstyles, hlater⟩ := configure_sets_level_unless_misnamed "ERROR" (some "_styles") root
  obtain ⟨-, -, hnamed, -⟩ := hdebug rfl (by decide)
  obtain ⟨-, -, -, hunknown⟩ := hloud rfl (by decide)
  obtain ⟨-, -, hempty, -⟩ := herror rfl (by decide)
  have hroot : (root.configure "ERROR" (some "_styles")).2 = ⟨50, 1⟩ := (hstyles rfl (by decide)).2
  refine ⟨hnamed _ (by decide), hunknown (by decide), hempty _ (by decide), hroot, ?_⟩
  rw [← hroot]
  exact hlater "ERROR" (some "debug")

/-- The name of a text is no level's name; it makes the first call fail, and the next one cannot
set a level. -/
theorem basic_format_leaves_old_level :
    let r := initial.configure "INFO" (some "basic_format")
    r = (.error .text, ⟨Level.warning, 1⟩) ∧ capital "basic_format" ∉ Level.names.map Prod.fst ∧
      Level.warning ≠ Level.info ∧ r.2.configure "INFO" (some "debug") = (.ok (), ⟨Level.warning, 1⟩) := by
  decide

end Root

end Restaking.Logging
