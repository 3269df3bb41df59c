import Restaking.Logging.Calendar
import Restaking.Logging.Record
import Restaking.Text.Upper

/-!
# The root logger

An application configures logging once: the first call adds a handler and sets the level, later ones do
nothing. The handler is added before the level is set, and a name that denotes something other than a
level fails at the second step.
-/
namespace Restaking.Logging

open Restaking.Text

structure Root where
  level : Level
  handlers : Nat
  deriving DecidableEq, Repr

/-- What a name denotes. -/
inductive Denotation where
  | level (l : Level)
  /-- A text that names no level. -/
  | text
  /-- Something that is neither a number nor a text. -/
  | table
  deriving DecidableEq, Repr

/-- The names that denote something, in upper case. -/
def denotations : List (String × Denotation) :=
  [("CRITICAL", .level 50), ("FATAL", .level 50), ("ERROR", .level 40), ("WARNING", .level 30),
   ("WARN", .level 30), ("INFO", .level 20), ("DEBUG", .level 10), ("NOTSET", .level 0),
   ("BASIC_FORMAT", .text), ("_STYLES", .table)]

/-- What a name in upper case denotes; an unknown one stands for the level of information. -/
def denotation (name : String) : Denotation := (denotations.lookup name).getD (.level Level.info)

namespace Root

/-- No handler, and warnings and worse are let through. -/
def initial : Root := ⟨Level.warning, 0⟩

/-- Configures logging by a level's name, or by the settings' one if none or an empty one is given. -/
def configure (settingsLevel : String) (given : Option String) (root : Root) :
    Except Denotation Unit × Root :=
  let name := match given with
    | some s => if s.isEmpty then settingsLevel else s
    | none => settingsLevel
  if root.handlers = 0 then
    match denotation (String.ofList (upper name.toList)) with
    | .level l => (.ok (), ⟨l, 1⟩)
    | d => (.error d, { root with handlers := 1 })
  else (.ok (), root)

/-- Whether a logger that has no level of its own lets a record through. -/
def enabled (root : Root) (l : Level) : Bool := 0 < l && root.level ≤ l

end Root

/-- How a handler writes a record, in the notation of the logging library. -/
def linePattern : String := "%(asctime)s %(levelname)-8s [%(name)s] %(message)s"

/-- The logger without a name is the one at the root. -/
def shownLogger (name : String) : String := if name.isEmpty then "root" else name

/-- The line for a record that was made at some date and time. -/
def line (created : String) (r : Record) : String :=
  let name := r.level.name
  let gap := String.ofList (List.replicate (8 - name.length) ' ')
  created ++ " " ++ name ++ gap ++ " [" ++ shownLogger r.logger ++ "] " ++ r.message ++ "\n"

/-- The line for a record that no handler takes. -/
def bareLine (r : Record) : String := r.message ++ "\n"

end Restaking.Logging
