import Restaking.Clock
import Restaking.Logging.Root
import Restaking.Settings

/-!
# Logging in an application

The settings in force and the root logger, as an application changes them: it may replace the settings,
configure logging, and log. Only the first configuration has an effect.
-/
namespace Restaking.Logging

structure Application where
  settingsLevel : String
  root : Root

inductive AppStep where
  /-- Replaces the settings by those that name this level. -/
  | replaceSettings (level : Value)
  | configure (level : Option String)
  /-- Logs a record that was made so long after the start of 1970. -/
  | emit (record : Record) (created : Seconds)

/-- Why a step failed. -/
inductive AppFailure where
  | settings (faults : Faults)
  | level (d : Denotation)

/-- What a step gives. -/
inductive AppResult where
  | done
  | disabled
  | written (line : String)

namespace Application

/-- Before anything is configured. -/
def initial : Application := ⟨Settings.defaults.logLevel, .initial⟩

/-- What is written for a record: where there is no handler, a warning or worse is written bare. A handler
writes nothing if the time cannot be written. -/
def emit (app : Application) (record : Record) (created : Seconds) : AppResult :=
  if !app.root.enabled record.level then .disabled
  else if app.root.handlers = 0 then
    .written (if Level.warning ≤ record.level then bareLine record else "")
  else
    match created.floor?.bind Calendar.textOf? with
    | some time => .written (line time record)
    | none => .written ""

/-- Takes one step. -/
def step (app : Application) : AppStep → Except AppFailure AppResult × Application
  | .replaceSettings level =>
    let given := { Settings.Sources.empty with arguments := [(Settings.logLevelField, level)] }
    match Settings.ofSources given with
    | .ok s => (.ok .done, { app with settingsLevel := s.logLevel })
    | .error faults => (.error (.settings faults), app)
  | .configure level =>
    let (outcome, root) := app.root.configure app.settingsLevel level
    (match outcome with
      | .ok () => .ok .done
      | .error d => .error (.level d), { app with root })
  | .emit record created => (.ok (app.emit record created), app)

/-- Takes steps in order, whatever their outcomes. -/
def run (app : Application) : List AppStep → List (Except AppFailure AppResult) × Application
  | [] => ([], app)
  | s :: rest =>
    let (outcome, app) := app.step s
    let (outcomes, app) := app.run rest
    (outcome :: outcomes, app)

end Application

end Restaking.Logging
