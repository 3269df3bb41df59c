import Restaking.Logging.Application
import Restaking.Proofs.Config.Fields
import Restaking.Proofs.Logging.Level

/-!
# The first configuration decides

An application may replace its settings, configure logging and log, in any order. Its root logger changes in
the first configuration and never again, whether that configuration succeeds or fails. A level may be given to
it directly or through the settings: these ways are shown to agree but for blanks around the text, which only
the settings remove.
-/
namespace Restaking.Logging

open Restaking.Text

namespace AppStep

/-- The step configures logging. -/
def Configures : AppStep → Prop
  | configure _ => True
  | _ => False

/-- The name of a level that the step brings into force. -/
def levelText? : AppStep → Option String
  | replaceSettings v => (Settings.levelField v).toOption
  | _ => none

end AppStep

namespace Application

variable {app : Application} {steps before : List AppStep}

/-! ## One step -/

theorem step_configure (app : Application) (given : Option String) :
    app.step (.configure given) =
      (match (app.root.configure app.settingsLevel given).1 with
        | .ok () => .ok .done
        | .error d => .error (.level d),
        { app with root := (app.root.configure app.settingsLevel given).2 }) := rfl

theorem step_replaceSettings (app : Application) (v : Value) :
    app.step (.replaceSettings v) =
      match Settings.levelField v with
      | .ok l => (.ok .done, { app with settingsLevel := l })
      | .error e => (.error (.settings [(Settings.logLevelField, e)]), app) := by
  unfold step
  dsimp only
  rw [Settings.ofSources_level]
  cases Settings.levelField v <;> rfl

theorem settingsLevel_step (app : Application) (s : AppStep) :
    (app.step s).2.settingsLevel = s.levelText?.getD app.settingsLevel := by
  cases s with
  | replaceSettings v =>
    rw [step_replaceSettings, AppStep.levelText?]
    cases Settings.levelField v <;> rfl
  | configure given => rfl
  | emit record created => rfl

theorem root_step_of_not_configures {s : AppStep} (hs : ¬ s.Configures) : (app.step s).2.root = app.root := by
  cases s with
  | replaceSettings v =>
    rw [step_replaceSettings]
    cases Settings.levelField v <;> rfl
  | configure given => exact absurd trivial hs
  | emit record created => rfl

theorem root_step_of_handlers_ne (h : app.root.handlers ≠ 0) (s : AppStep) :
    (app.step s).2.root = app.root := by
  cases s with
  | configure given =>
    rw [step_configure, Root.configure_of_handlers_ne h]
  | _ => exact root_step_of_not_configures id

/-! ## A run -/

theorem snd_run_cons (app : Application) (s : AppStep) (steps : List AppStep) :
    (app.run (s :: steps)).2 = ((app.step s).2.run steps).2 := rfl

theorem fst_run_cons (app : Application) (s : AppStep) (steps : List AppStep) :
    (app.run (s :: steps)).1 = (app.step s).1 :: ((app.step s).2.run steps).1 := rfl

theorem snd_run_append (app : Application) (steps more : List AppStep) :
    (app.run (steps ++ more)).2 = ((app.run steps).2.run more).2 := by
  induction steps generalizing app with
  | nil => rfl
  | cons s rest ih => exact ih (app.step s).2

theorem settingsLevel_run (app : Application) (steps : List AppStep) :
    (app.run steps).2.settingsLevel =
      (steps.filterMap AppStep.levelText?).getLast?.getD app.settingsLevel := by
  induction steps generalizing app with
  | nil => rfl
  | cons s rest ih =>
    rw [snd_run_cons, ih, settingsLevel_step]
    -- What the first step brings into force is the default for all that come later.
    cases hs : s.levelText? with
    | none => rw [List.filterMap_cons_none hs, Option.getD_none]
    | some l =>
      rw [List.filterMap_cons_some hs, List.getLast?_cons, Option.getD_some, Option.getD_some]

theorem root_run_of_not_configures (h : ∀ s ∈ steps, ¬ s.Configures) : (app.run steps).2.root = app.root := by
  induction steps generalizing app with
  | nil => rfl
  | cons s rest ih =>
    obtain ⟨hs, hrest⟩ := List.forall_mem_cons.1 h
    rw [snd_run_cons, ih hrest, root_step_of_not_configures hs]

theorem root_run_of_handlers_ne (h : app.root.handlers ≠ 0) (steps : List AppStep) :
    (app.run steps).2.root = app.root := by
  induction steps generalizing app with
  | nil => rfl
  | cons s rest ih =>
    have hs : (app.step s).2.root = app.root := root_step_of_handlers_ne h s
    rw [snd_run_cons, ih (hs ▸ h), hs]

/-- What a record becomes is up to the root logger alone. -/
theorem emit_congr {app app' : Application} (h : app.root = app'.root) : app.emit = app'.emit := by
  funext record created
  rw [emit, emit, h]

/-- Before the first configuration the root logger is as it was, whatever is done. That configuration gives it
its one handler, and the level that is named by what is given to it or by the settings in force then, which
are those of the last replacement that succeeded; if something else is named it leaves the level. No later
step changes the root logger or what becomes of records. -/
theorem first_configuration_decides (app : Application) (h : app.root.handlers = 0)
    (hbefore : ∀ s ∈ before, ¬ s.Configures) :
    (app.run before).2.root = app.root ∧
    ∀ given : Option String,
      let inForce := (before.filterMap AppStep.levelText?).getLast?.getD app.settingsLevel
      let name := Root.chosen inForce given
      let decided := (app.run (before ++ [.configure given])).2
      decided.root = ⟨if Misnames name then app.root.level else Level.ofText name, 1⟩ ∧
      ∀ after : List AppStep,
        let later := (app.run (before ++ .configure given :: after)).2
        later.root = decided.root ∧ later.emit = decided.emit := by
  have hroot : (app.run before).2.root = app.root := root_run_of_not_configures hbefore
  refine ⟨hroot, fun given => ?_⟩
  intro inForce name decided
  have hdecided : decided.root = ((app.run before).2.root.configure inForce given).2 := by
    have hforce : (app.run before).2.settingsLevel = inForce := settingsLevel_run app before
    rw [← hforce]
    exact congrArg root (snd_run_append app before [.configure given])
  refine ⟨?_, fun after => ?_⟩
  · rw [hdecided, hroot]
    exact Root.snd_configure h
  · intro later
    have hlater : later.root = decided.root := by
      -- The handler is there even if the configuration failed, and no step changes a root logger with
      -- a handler.
      have hhandlers : decided.root.handlers ≠ 0 := by
        rw [hdecided]
        exact Root.handlers_configure_ne_zero _ _ _
      have hrun : later = (decided.run after).2 := by
        rw [← snd_run_append, List.append_assoc]
        rfl
      rw [hrun, root_run_of_handlers_ne hhandlers]
    exact ⟨hlater, emit_congr hlater⟩

/-- The settings' level counts with nothing given; a name that is no level's decides too, though it fails. -/
theorem first_configuration_decides_failed :
    let before : List AppStep := [.replaceSettings (.text " error ")]
    let later : List AppStep := [.replaceSettings (.text "debug"), .configure none, .configure (some "info")]
    (initial.run (before ++ .configure none :: later)).2.root = ⟨40, 1⟩ ∧
      (initial.run (before ++ .configure (some "_styles") :: later)).2.root = ⟨30, 1⟩ := by
  intro before later
  have hbefore : ∀ s ∈ before, ¬ s.Configures := List.forall_mem_singleton.2 id
  obtain ⟨-, hdecides⟩ := first_configuration_decides initial rfl hbefore
  obtain ⟨hnone, hlater⟩ := hdecides none
  obtain ⟨hstyles, hlater'⟩ := hdecides (some "_styles")
  refine ⟨((hlater later).1.trans hnone).trans ?_, ((hlater' later).1.trans hstyles).trans ?_⟩
  · decide
  · decide

/-! ## Two ways of giving a level -/

/-- What steps leave: the outcome of the last one and the root logger. -/
def effect (app : Application) (steps : List AppStep) : Option (Except AppFailure AppResult) × Root :=
  ((app.run steps).1.getLast?, (app.run steps).2.root)

/-- What configuring by a name does to this root logger if it has no handler. -/
def named (root : Root) (name : String) : Option (Except AppFailure AppResult) × Root :=
  match denotation (capital name) with
  | .level l => (some (.ok .done), ⟨l, 1⟩)
  | d => (some (.error (.level d)), ⟨root.level, 1⟩)

theorem named_eq_iff {root : Root} {name name' : String} :
    named root name = named root name' ↔ denotation (capital name) = denotation (capital name') := by
  unfold named
  generalize denotation (capital name) = d
  generalize denotation (capital name') = d'
  constructor
  · intro h
    cases d <;> cases d' <;> cases h <;> rfl
  · rintro rfl
    rfl

theorem effect_singleton (app : Application) (s : AppStep) :
    app.effect [s] = (some (app.step s).1, (app.step s).2.root) := rfl

/-- What the first of two steps gives is forgotten. -/
theorem effect_pair (app : Application) (s t : AppStep) :
    app.effect [s, t] = (app.step s).2.effect [t] := by
  unfold effect
  rw [snd_run_cons, fst_run_cons, fst_run_cons, List.getLast?_cons_cons]

theorem effect_configure (h : app.root.handlers = 0) (given : Option String) :
    app.effect [.configure given] = named app.root (Root.chosen app.settingsLevel given) := by
  rw [effect_singleton, step_configure, Root.configure_eq h, named]
  cases denotation (capital (Root.chosen app.settingsLevel given)) <;> rfl

theorem effect_configure_some (h : app.root.handlers = 0) {s : String} (hs : s ≠ "") :
    app.effect [.configure (some s)] = named app.root s := by
  have hchosen : Root.chosen app.settingsLevel (some s) = s := if_neg hs
  rw [effect_configure h, hchosen]

theorem effect_replaceSettings (h : app.root.handlers = 0) {v : Value} {l : String}
    (hv : Settings.levelField v = .ok l) :
    app.effect [.replaceSettings v, .configure none] = named app.root l := by
  have hreplaced : Root.handlers { app with settingsLevel := l }.root = 0 := h
  rw [effect_pair, step_replaceSettings, hv]
  exact effect_configure hreplaced none

theorem denotation_levelText (s : String) :
    denotation (capital (Settings.levelText s)) = denotation (capital (trimmed s)) := by
  by_cases hs : Blank s
  · have hempty : trim s.toList = [] := trimWhere_eq_nil_iff.2 hs
    rw [Settings.levelText_of_blank hs, trimmed, hempty]
    decide
  · have hcapital : Settings.levelText s = capital (trimmed s) := by
      rw [Settings.levelText_of_not_blank hs, capital, trimmed_toList]
    rw [hcapital, capital_capital]

/-- A level given to the configuration itself has the effect that it has when given through the settings,
exactly if there are no blanks around it or what it names without them is the level of information. With
blanks around it the configuration takes it for an unknown name, while the settings remove them. Letter case
does not count either way. -/
theorem ways_agree_iff (app : Application) (h : app.root.handlers = 0) {s : String} (hs : s ≠ "") :
    let direct (t : String) := app.effect [.configure (some t)]
    let through (t : String) := app.effect [.replaceSettings (.text t), .configure none]
    (direct s = through s ↔
      trimmed s = s ∨ ¬ Misnames (trimmed s) ∧ Level.ofText (trimmed s) = Level.info) ∧
    (trimmed s ≠ s → direct s = (some (.ok .done), ⟨Level.info, 1⟩)) ∧
    (∀ t, trimmed t = trimmed s → through t = through s) ∧
    ∀ t, capital t = capital s → direct t = direct s ∧ through t = through s := by
  intro direct through
  have hdirect {t : String} (ht : t ≠ "") : direct t = named app.root t := effect_configure_some h ht
  have hthrough (t : String) : through t = named app.root (Settings.levelText t) :=
    effect_replaceSettings h rfl
  have hsame {t : String} (ht : capital (trimmed t) = capital (trimmed s)) : through t = through s := by
    rw [hthrough, hthrough, named_eq_iff, denotation_levelText, denotation_levelText, ht]
  refine ⟨?_, fun hpadded => ?_, fun t ht => hsame (congrArg capital ht), fun t ht => ⟨?_, hsame ?_⟩⟩
  · rw [hdirect hs, hthrough, named_eq_iff, denotation_levelText, ← denotation_eq_info_iff]
    -- Without blanks both ways look up the same name; with blanks the direct one finds nothing.
    by_cases hpadded : trimmed s = s
    · rw [hpadded]
      exact iff_of_true rfl (.inl rfl)
    · rw [denotation_of_trimmed_ne hpadded, or_iff_right hpadded, eq_comm]
  · rw [hdirect hs, named, denotation_of_trimmed_ne hpadded]
  · have hne : t ≠ "" := fun he => hs (capital_eq_empty_iff.1 (ht.symm.trans (capital_eq_empty_iff.2 he)))
    rw [hdirect hs, hdirect hne, named_eq_iff, ht]
  · rw [capital_trimmed, capital_trimmed, ht]

/-- A level in mixed case agrees with itself; with blanks around it it does not, but stands for the same in
the settings. -/
theorem ways_agree_iff_debug :
    let direct (t : String) := initial.effect [.configure (some t)]
    let through (t : String) := initial.effect [.replaceSettings (.text t), .configure none]
    direct "dEbUg" = through "dEbUg" ∧ direct " debug " ≠ through " debug " ∧
      direct " debug " = (some (.ok .done), ⟨20, 1⟩) ∧ through " debug " = through "debug" ∧
      through "dEbUg" = through "debug" := by
  intro direct through
  obtain ⟨hmixed, -, -, -⟩ := ways_agree_iff initial rfl (show "dEbUg" ≠ "" by decide)
  obtain ⟨hpadded, hunknown, -, -⟩ := ways_agree_iff initial rfl (show " debug " ≠ "" by decide)
  obtain ⟨-, -, hblanks, hcase⟩ := ways_agree_iff initial rfl (show "debug" ≠ "" by decide)
  refine ⟨hmixed.2 (.inl (by decide)), fun hsame => ?_, hunknown (by decide), hblanks " debug " (by decide),
    (hcase "dEbUg" (by decide)).2⟩
  rcases hpadded.1 hsame with htrimmed | ⟨-, hlevel⟩
  · exact absurd htrimmed (by decide)
  · exact absurd hlevel (by decide)

/-- One and the same text gives one level to the configuration and another one through the settings. -/
theorem padded_level_is_lost :
    (initial.effect [.configure (some " debug ")]).2 = ⟨Level.info, 1⟩ ∧
      (initial.effect [.replaceSettings (.text " debug "), .configure none]).2 = ⟨Level.debug, 1⟩ ∧
      Level.info ≠ Level.debug := by
  decide

end Application

end Restaking.Logging
