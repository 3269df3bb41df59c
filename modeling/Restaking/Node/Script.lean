import Restaking.Session

/-!
# Scripts

A script says what a node does when it is asked: answer a value, fail, let time pass or contexts be
cancelled first, or play its entries one a call with the last one repeating. Playing an entry gives the
reply and the script for the next time.
-/
namespace Restaking

inductive Script where
  | value (v : Value)
  | fail (e : Failure)
  | after (effects : List Effect) (next : Script)
  | sequence (entries : List Script)

instance : Inhabited Script := ⟨.value .null⟩

namespace Script

/-- The reply of a script, and what is left of it. -/
def play : Script → Reply Value × Script
  | value v => (⟨[], .ok v⟩, value v)
  | fail e => (⟨[], .error e⟩, fail e)
  | after effects next =>
    let (reply, next) := next.play
    (⟨effects ++ reply.effects, reply.outcome⟩, after effects next)
  | sequence [] => (⟨[], .ok .null⟩, sequence [])
  | sequence [last] =>
    let (reply, last) := last.play
    (reply, sequence [last])
  | sequence (entry :: rest) => (entry.play.1, sequence rest)

end Script

/-- Scripts by name. -/
abbrev Scripts := List (String × Script)

namespace Scripts

/-- Sets the script of a name. -/
def put (name : String) (script : Script) : Scripts → Scripts
  | [] => [(name, script)]
  | (n, s) :: rest => if n == name then (n, script) :: rest else (n, s) :: put name script rest

/-- Plays the script of a name, if it has one. -/
def play? (name : String) (scripts : Scripts) : Option (Reply Value × Scripts) :=
  match scripts.lookup name with
  | some script =>
    let (reply, script) := script.play
    some (reply, put name script scripts)
  | none => none

/-- The reply to a wish for a handle at an address: granted unless a script says otherwise. -/
def connect (address : String) (scripts : Scripts) : Reply Unit × Scripts :=
  match scripts.play? address with
  | some (reply, scripts) => (⟨reply.effects, reply.outcome.map fun _ => ()⟩, scripts)
  | none => (⟨[], .ok ()⟩, scripts)

end Scripts

end Restaking
