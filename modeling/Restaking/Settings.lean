import Restaking.Config
import Restaking.Settings.EnvFile
import Restaking.Text.Upper
import Restaking.Decimal.Reader

/-!
# Settings

Six fields, each from the first source that names it: arguments, environment, environment file. Letter
case of names does not matter unless the caller wants it to, and unknown names are ignored. Every field
is read on its own, and a failure reports all fields that were refused, in the order of their
declaration.
-/
namespace Restaking

open Restaking.Text

structure Settings where
  rpcUrl : String
  rpcTimeout : Float
  contracts : ReaderConfig
  logLevel : String

namespace Settings

def rpcUrlField : String := "eth_rpc_url"
def rpcTimeoutField : String := "rpc_timeout_seconds"
def logLevelField : String := "log_level"

/-- How names and values in the environment and in its file are understood. -/
structure Conventions where
  /-- What stands before a field's name. -/
  nameStart : String
  caseSensitive : Bool
  /-- Whether a variable without text counts as unset. -/
  ignoreEmpty : Bool
  /-- The text that stands for nothing at all. -/
  nullText : Option String

/-- Names are those of the fields, in any letter case, and every text is itself. -/
def Conventions.standard : Conventions := ⟨"", false, false, none⟩

/-- Where values come from, the weightiest first. -/
structure Sources where
  arguments : List (String × Value)
  environment : List (String × String)
  file : Option String
  conventions : Conventions

namespace Sources

/-- No source names anything. -/
def empty : Sources := ⟨[], [], none, .standard⟩

/-- A name with its capital ASCII letters made small, unless letter case matters. -/
def foldName (caseSensitive : Bool) (name : String) : String :=
  if caseSensitive then name else String.ofList (name.toList.map Char.toLower)

/-- Of entries whose names differ in letter case only, the first one holds. -/
def lookupFirst {α : Type} (caseSensitive : Bool) (name : String) (entries : List (String × α)) :
    Option α :=
  (entries.find? fun e => foldName caseSensitive e.1 == foldName caseSensitive name).map (·.2)

/-- Of entries whose names differ in letter case only, the last one holds. -/
def lookupLast {α : Type} (caseSensitive : Bool) (name : String) (entries : List (String × α)) :
    Option α :=
  lookupFirst caseSensitive name entries.reverse

/-- The variables that count. -/
def counted (c : Conventions) (entries : List EnvFile.Entry) : List EnvFile.Entry :=
  if c.ignoreEmpty then entries.filter fun e => e.2 != some "" else entries

/-- The value of a field among entries, if one has its name. -/
def named? (c : Conventions) (field : String) (entries : List EnvFile.Entry) : Option Value :=
  match (lookupLast c.caseSensitive (c.nameStart ++ field) (counted c entries)).join with
  | some t => some (if c.nullText == some t then .null else .text t)
  | none => none

/-- The value for a field, if a source names it. -/
def value? (s : Sources) (field : String) : Option Value :=
  match lookupFirst s.conventions.caseSensitive field s.arguments with
  | some v => some v
  | none =>
    match named? s.conventions field (s.environment.map fun e => (e.1, some e.2)) with
    | some v => some v
    | none => s.file.bind fun t => named? s.conventions field (EnvFile.entries s.environment t)

end Sources

/-- A text, which may be given as its bytes. -/
def textField : Value → Except FieldFault String
  | .text s => .ok s
  | .bytes bs | .buffer bs =>
    match String.fromUTF8? ⟨bs.toArray⟩ with
    | some s => .ok s
    | none => .error .notUtf8
  | _ => .error .notText

/-- The seconds before a request is given up when no value says otherwise. -/
def defaultTimeout : Float := 10.0

/-- A number of seconds. Blank text stands for the default. -/
def timeoutField : Value → Except FieldFault Float
  | .float x => .ok x
  | .int n =>
    match Decimal.ofInt? n with
    | some x => .ok x
    | none => .error .notNumber
  | .bool b => .ok (if b then 1.0 else 0.0)
  | .text s =>
    if (trim s.toList).isEmpty then .ok defaultTimeout
    else
      match Decimal.read? s.toList with
      | some x => .ok x
      | none => .error .notNumberText
  | .bytes bs =>
    match (String.fromUTF8? ⟨bs.toArray⟩).bind fun s => Decimal.read? s.toList with
    | some x => .ok x
    | none => .error .notNumberText
  | _ => .error .notNumber

/-- The name of the level that blank text stands for. -/
def defaultLevel : String := "INFO"

/-- A level's name in upper case. -/
def levelText (s : String) : String :=
  let cs := upper (trim s.toList)
  if cs.isEmpty then defaultLevel else String.ofList cs

/-- The name of a level. Only text is put in upper case. -/
def levelField : Value → Except FieldFault String
  | .text s => .ok (levelText s)
  | v => textField v

/-- What holds when no source names a field. -/
def defaults : Settings := ⟨"", defaultTimeout, .empty, defaultLevel⟩

/-- The settings that sources give. -/
def ofSources (s : Sources) : Except Faults Settings :=
  let get {α : Type} (field : String) (read : Value → Except FieldFault α) (fallback : α) :
      Except FieldFault α :=
    match s.value? field with
    | some v => read v
    | none => .ok fallback
  let url := get rpcUrlField textField defaults.rpcUrl
  let timeout := get rpcTimeoutField timeoutField defaults.rpcTimeout
  let manager := get ReaderConfig.delegationManagerField deployment .zero
  let directory := get ReaderConfig.avsDirectoryField deployment .zero
  let coordinator := get ReaderConfig.rewardsCoordinatorField deployment .zero
  let level := get logLevelField levelField defaults.logLevel
  match url, timeout, manager, directory, coordinator, level with
  | .ok url, .ok timeout, .ok manager, .ok directory, .ok coordinator, .ok level =>
    .ok ⟨url, timeout, ⟨manager, directory, coordinator⟩, level⟩
  | _, _, _, _, _, _ =>
    .error (faultOf rpcUrlField url ++ faultOf rpcTimeoutField timeout ++
      faultOf ReaderConfig.delegationManagerField manager ++
      faultOf ReaderConfig.avsDirectoryField directory ++
      faultOf ReaderConfig.rewardsCoordinatorField coordinator ++ faultOf logLevelField level)

/-- The configuration of a reader, from the addresses as they are written. -/
def readerConfig (s : Settings) : Except Faults ReaderConfig :=
  ReaderConfig.ofValues (.text s.contracts.delegationManager.text)
    (.text s.contracts.avsDirectory.text) (.text s.contracts.rewardsCoordinator.text)

end Settings

end Restaking
