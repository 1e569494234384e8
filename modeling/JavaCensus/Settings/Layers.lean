import JavaCensus.Settings.Setting
import JavaCensus.Toml.Reader

/-!
# Layers of settings

Settings come in layers: the global file, the file of the project, a file that is named, the
environment and the caller. A higher layer wins for every setting that it sets.
-/
namespace JavaCensus

/-- A settings file; without content it cannot be read as text. -/
structure SettingsFile where
  path : String
  content : Option String
  deriving Repr

/-- A file that the caller names may be missing. -/
inductive NamedFile where
  | none
  | missing (path : String)
  | present (file : SettingsFile)
  deriving Repr

/-- All that the settings are drawn from. A caller's value may be nothing. -/
structure SettingsSources where
  globalFile : Option SettingsFile
  projectFile : Option SettingsFile
  namedFile : NamedFile
  environment : List (String × String)
  overrides : Toml.Entries

/-- The error that a fault of the table makes. -/
def SettingsFault.error : SettingsFault → Error
  | .unknown key => .config (.unknownSetting key)
  | .wrongKind => .config .wrongKind
  | .refused cause => cause

namespace Settings

open Toml (Entries setEntry lookup?)

/-- Puts a layer over a table. -/
def overlay (table layer : Entries) : Entries :=
  layer.foldl (fun t (key, v) => setEntry key v t) table

/-- The settings of a file, which stand at its top or in a table of their own. -/
def fileLayer (description : String) (f : SettingsFile) : Except Error Entries :=
  match f.content.bind Toml.read? with
  | none => .error (.config (.malformedFile description f.path))
  | some entries =>
    match lookup? "javameter" entries with
    | none => .ok entries
    | some (.table inner) => .ok inner
    | some _ => .error (.config (.notATable description f.path))

def optionalLayer (description : String) : Option SettingsFile → Except Error Entries
  | none => .ok []
  | some f => fileLayer description f

def namedLayer : NamedFile → Except Error Entries
  | .none => .ok []
  | .missing path => .error (.config (.missingFile path))
  | .present f => fileLayer "config file" f

/-- What the variable of a setting gives. -/
def variableEntry (environment : List (String × String)) (s : Setting) :
    Except Error (Option (String × Value)) :=
  match environment.find? (·.1 == s.variableName) with
  | none => .ok none
  | some (_, written) =>
    match s.variableKind.read written with
    | .ok v => .ok (v.map fun v => (s.key, v))
    | .error (.mishap cause) => .error (.config (.badVariable s.variableName cause))
    | .error e => .error e

/-- The settings of the environment. -/
def variableLayer (environment : List (String × String)) : Except Error Entries := do
  return (← Setting.all.mapM (variableEntry environment)).filterMap id

def isNothing : Value → Bool
  | .nothing => true
  | _ => false

/-- Takes a flag out of a table; a flag that is set decides the verbosity. -/
def takeFlag (flag : String) (level : Verbosity) (table : Entries) : Entries :=
  let isSet := (lookup? flag table).any (·.isTruthy)
  let rest := table.filter (·.1 != flag)
  if isSet then setEntry Setting.verbosity.key (.string level.name) rest else rest

/-- The settings of the caller. Quiet wins over verbose, and what is nothing sets nothing. -/
def callerLayer (overrides : Entries) : Entries :=
  (takeFlag "quiet" .quiet (takeFlag "verbose" .verbose overrides)).filter fun (_, v) =>
    !isNothing v

/-- All layers, the highest last. -/
def layers (s : SettingsSources) : Except Error (List Entries) := do
  let globalLayer ← optionalLayer "global config" s.globalFile
  let projectLayer ← optionalLayer "project config" s.projectFile
  let named ← namedLayer s.namedFile
  let variableTable ← variableLayer s.environment
  return [globalLayer, projectLayer, named, variableTable, callerLayer s.overrides]

/-- A caller cannot set the named file over again. -/
def namedFileKey : String := "config_file"

def load (s : SettingsSources) : Except Error Settings := do
  if (lookup? namedFileKey s.overrides).isSome then throw (.mishap .wrongKind)
  let table := (← layers s).foldl overlay []
  match ofTable table with
  | .ok settings => .ok settings
  | .error fault => .error fault.error

end Settings

end JavaCensus
