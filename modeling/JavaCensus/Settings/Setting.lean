import JavaCensus.Report.Format
import JavaCensus.Settings.Quantity
import JavaCensus.Settings.Variable
import JavaCensus.Text.Encoding.Decoder
import JavaCensus.Toml.Nest

/-!
# Settings

The settings of a run, their names, and how they are made from a table of values. A table is
refused for the first key that is no setting, and then for the first setting that fails its check.
-/
namespace JavaCensus

inductive Setting where
  | languageLevel
  | enablePreview
  | encoding
  | excludePatterns
  | maxFileSize
  | followSymlinks
  | reportFormat
  | verbosity
  deriving DecidableEq, Repr

namespace Setting

def all : List Setting :=
  [languageLevel, enablePreview, encoding, excludePatterns, maxFileSize, followSymlinks,
    reportFormat, verbosity]

def key : Setting → String
  | languageLevel => "language_level"
  | enablePreview => "enable_preview"
  | encoding => "encoding"
  | excludePatterns => "exclude_patterns"
  | maxFileSize => "max_file_size_mb"
  | followSymlinks => "follow_symlinks"
  | reportFormat => "report_format"
  | verbosity => "verbosity"

/-- The environment variable of a setting. -/
def variableName (s : Setting) : String :=
  "JAVAMETER_" ++ .ofList (s.key.toList.map Char.toUpper)

def variableKind : Setting → VariableKind
  | languageLevel => .integer
  | enablePreview | followSymlinks => .boolean
  | encoding | reportFormat | verbosity => .text
  | excludePatterns => .inexpressible
  | maxFileSize => .real

def default : Setting → Value
  | languageLevel => .integer LanguageLevel.latest.release
  | enablePreview | followSymlinks => .boolean false
  | encoding => .string "utf-8"
  | excludePatterns => .array ([".git/*", "*/.git/*", "*/build/generated/*",
      "*/target/generated-sources/*"].map .string)
  | maxFileSize => .real (.ofDecimal false 10 0)
  | reportFormat => .string "text"
  | verbosity => .string "normal"

end Setting

inductive Verbosity where
  | quiet
  | normal
  | verbose
  deriving DecidableEq, Repr

namespace Verbosity

def name : Verbosity → String
  | quiet => "quiet"
  | normal => "normal"
  | verbose => "verbose"

def ofName? (name : String) : Option Verbosity :=
  [quiet, normal, verbose].find? (·.name == name)

end Verbosity

/-- Settings that have passed their checks. Preview and links are used by their truth, and the
patterns when files are sought, whatever values these are. -/
structure Settings where
  languageLevel : Quantity
  enablePreview : Value
  encoding : String
  excludePatterns : Value
  maxFileSize : Quantity
  followSymlinks : Value
  reportFormat : ReportFormat
  verbosity : Verbosity

/-- Why a table gives no settings. -/
inductive SettingsFault where
  | unknown (key : String)
  | wrongKind
  | refused (cause : Error)

namespace Settings

abbrev Checked := Except SettingsFault

/-- Refuses a value, which the error tells. -/
def refuse {α : Type} (s : Setting) (v : Value) (reason : String) : Checked α :=
  match v.write with
  | .ok text => .error (.refused (.invalidSetting s.key text reason))
  | .error e => .error (.refused e)

def checkQuantity (v : Value) : Checked Quantity :=
  match Quantity.ofValue? v with
  | some q => .ok q
  | none => .error .wrongKind

def checkLevel (v : Value) : Checked Quantity := do
  let q ← checkQuantity v
  if q.atLeast 8 && q.atMost 21 then return q
  else refuse .languageLevel v "must be between 8 and 21"

def checkSize (v : Value) : Checked Quantity := do
  let q ← checkQuantity v
  if q.atMost 0 then refuse .maxFileSize v "must be positive" else return q

/-- The text that a value is, if it is one. -/
def string? : Value → Option String
  | .string s => some s
  | _ => none

def checkFormat (v : Value) : Checked ReportFormat :=
  match (string? v).bind ReportFormat.ofName? with
  | some f => .ok f
  | none => refuse .reportFormat v "must be one of text, json, xml"

def checkVerbosity (v : Value) : Checked Verbosity :=
  match (string? v).bind Verbosity.ofName? with
  | some f => .ok f
  | none => refuse .verbosity v "must be one of quiet, normal, verbose"

def checkEncoding (v : Value) : Checked String :=
  match v with
  | .string s =>
    if s.toList.contains '\x00' then .error (.refused (.mishap .embeddedNul))
    else
      match Text.Encoding.mainName? s with
      | some "undefined" => .error (.refused (.mishap .undecodable))
      | some _ => .ok s
      | none => refuse .encoding v "unknown encoding"
  | _ => .error .wrongKind

/-- The value of a setting in a table, or its default. -/
def valueIn (table : Toml.Entries) (s : Setting) : Value :=
  (Toml.lookup? s.key table).getD s.default

/-- The first key of a table that is no setting. -/
def unknownKey? (table : Toml.Entries) : Option String :=
  (table.map (·.1)).find? fun key => !(Setting.all.map (·.key)).contains key

/-- Checks the values of a table, which the settings it leaves out have by default. -/
def check (table : Toml.Entries) : Checked Settings := do
  let languageLevel ← checkLevel (valueIn table .languageLevel)
  let maxFileSize ← checkSize (valueIn table .maxFileSize)
  let reportFormat ← checkFormat (valueIn table .reportFormat)
  let verbosity ← checkVerbosity (valueIn table .verbosity)
  let encoding ← checkEncoding (valueIn table .encoding)
  return { languageLevel, maxFileSize, reportFormat, verbosity, encoding
           enablePreview := valueIn table .enablePreview
           excludePatterns := valueIn table .excludePatterns
           followSymlinks := valueIn table .followSymlinks }

/-- The key that stands for the settings as a whole and cannot be set. -/
def ownKey : String := "self"

def ofTable (table : Toml.Entries) : Checked Settings :=
  match unknownKey? table with
  | some key => .error (if key = ownKey then .wrongKind else .unknown key)
  | none => check table

/-- The largest size of a file that is read. -/
def sizeLimit (s : Settings) : Except Error Int :=
  s.maxFileSize.bytes

def decoder (s : Settings) : Text.Encoding :=
  (Text.Encoding.ofName? s.encoding).getD .utf8

/-- The value that a setting has. -/
def value (s : Settings) : Setting → Value
  | .languageLevel => s.languageLevel.toValue
  | .enablePreview => s.enablePreview
  | .encoding => .string s.encoding
  | .excludePatterns => s.excludePatterns
  | .maxFileSize => s.maxFileSize.toValue
  | .followSymlinks => s.followSymlinks
  | .reportFormat => .string s.reportFormat.name
  | .verbosity => .string s.verbosity.name

end Settings

end JavaCensus
