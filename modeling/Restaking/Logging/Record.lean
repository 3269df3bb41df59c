import Restaking.Value

/-!
# Log records

A record goes to a named logger with a level, a message and extra fields. A logger may be wrapped by
adapters, each with fields of its own. An adapter replaces whatever fields it is handed by its own and
passes the record on to what it wraps, so the innermost adapter's fields are the ones that arrive.
-/
namespace Restaking.Logging

abbrev Level := Int

namespace Level

def debug : Level := 10
def info : Level := 20
def warning : Level := 30
def error : Level := 40
def critical : Level := 50

/-- The name of a level in a record. -/
def name (l : Level) : String :=
  if l == 10 then "DEBUG"
  else if l == 20 then "INFO"
  else if l == 30 then "WARNING"
  else if l == 40 then "ERROR"
  else if l == 50 then "CRITICAL"
  else if l == 0 then "NOTSET"
  else "Level " ++ toString l

end Level

/-- Fields of a record beside its message. -/
abbrev Extra := List (String × Value)

structure Record where
  logger : String
  level : Level
  message : String
  extra : Extra

/-- What every record has of its own, so that it cannot be given beside the message. -/
def reservedFields : List String :=
  ["message", "asctime", "name", "msg", "args", "levelname", "levelno", "pathname", "filename",
   "module", "exc_info", "exc_text", "stack_info", "lineno", "funcName", "created", "msecs",
   "relativeCreated", "thread", "threadName", "processName", "process"]

/-- A field of a record that is reserved, if it has one. -/
def Record.reserved? (r : Record) : Option String :=
  (r.extra.map (·.1)).find? reservedFields.contains

inductive Logger where
  | named (name : String)
  | adapter (inner : Logger) (extra : Option Extra)

namespace Logger

/-- The record that arrives when a message is logged with fields `extra`. -/
def record (level : Level) (message : String) : Logger → Option Extra → Record
  | named name, extra => ⟨name, level, message, extra.getD []⟩
  | adapter inner own, _ => inner.record level message own

/-- Sets one field, in place if it is there. -/
def setField (name : String) (v : Value) : Extra → Extra
  | [] => [(name, v)]
  | (n, w) :: rest => if n == name then (n, v) :: rest else (n, w) :: setField name v rest

/-- A logger that tags its records as coming from a component, and keeps the other fields of the
outermost adapter. -/
def tagged (component : String) (fallback : String) : Option Logger → Logger
  | some (adapter inner extra) =>
    adapter inner (some (setField "component" (.text component) (extra.getD [])))
  | some (named name) => adapter (named name) (some [("component", .text component)])
  | none => adapter (named fallback) (some [("component", .text component)])

end Logger

end Restaking.Logging
