import JavaCensus.CommandLine.Arguments
import JavaCensus.Files.Survey
import JavaCensus.Files.Writing
import JavaCensus.Report.StyleMarks
import JavaCensus.Settings.Layers

/-!
# Runs of the program

What a run prints, writes and ends with, as a function of its arguments and of the files, variables
and time that it finds.
-/
namespace JavaCensus

def programVersion : String := "0.1.0"

/-- All that a run finds around it. The home is the one that the system keeps for the user. -/
structure Surroundings where
  files : FileSystem
  home : Path
  environment : List (String × String)
  now : Moment
  grammar : Grammar

/-- What ends a run out of order. -/
inductive Interruption where
  | mishap (cause : Error)
  | unwritable (fault : WriteFault)
  /-- A status line closes a style that is not open. -/
  | unpairedMark
  deriving DecidableEq, Repr

/-- A file that a run writes, by its place under the root. -/
structure WrittenFile where
  place : List String
  content : String
  isNew : Bool
  deriving DecidableEq, Repr

structure Run where
  exitCode : Nat
  output : String
  status : List String
  written : Option WrittenFile
  log : List LogRecord
  interruption : Option Interruption

namespace Run

/-- The program was called in a wrong way. -/
def misuse : Run := ⟨2, "", [], none, [], none⟩

def finished (output : String) (status : List String) : Run := ⟨0, output, status, none, [], none⟩

/-- What ends the program is told without regard to style marks in it. -/
def refused (reason : String) : Run :=
  let told := (StyleMarks.shown? (.ofList (StyleMarks.escape reason.toList))).getD reason
  ⟨1, "", ["Error: " ++ told], none, [], none⟩

def interrupted (status : List String) (i : Interruption) : Run := ⟨1, "", status, none, [], some i⟩

/-- A foreseen error is told; any other interrupts the run. -/
def failed (e : Error) : Run :=
  match e.report? with
  | some report => refused report.text
  | none => interrupted [] (.mishap e)

/-- The status lines as they are shown. -/
def statusText (r : Run) : String :=
  String.join (r.status.map fun line => shown line ++ "\n")

end Run

namespace Surroundings

variable (w : Surroundings)

/-- A settings file, if there is one at the path. -/
def settingsFile? (p : Path) : Except Error (Option SettingsFile) :=
  match w.files.resolve p with
  | .ok _ => .ok (some ⟨p.text, (w.files.bytesAt? p).bind fun bytes =>
      (Text.Utf8.decode? bytes).map .ofList⟩)
  | .error .tooLong => .error (.mishap .pathTooLong)
  | .error _ => .ok none

/-- What the command line itself sets. -/
def overridesOf (r : CollectRequest) : Toml.Entries :=
  [("language_level", (r.languageLevel.map .integer).getD .nothing),
    ("enable_preview", (r.preview.map .boolean).getD .nothing),
    ("report_format", (r.format.map .string).getD .nothing),
    ("verbose", .boolean r.verbose), ("quiet", .boolean r.quiet)]

/-- The home directory, which the environment may name; it names none by the mark of a user. -/
def homePath : Except Error Path :=
  match w.environment.find? (·.1 == "HOME") with
  | none => .ok w.home
  | some (_, written) =>
    if written.toList.head? = some '~' then .error (.mishap .homeless)
    else if written.toList.all (· == '/') then .ok ⟨"/", []⟩
    else .ok (Path.ofString written)

/-- The file that the caller names, if it names one. -/
def namedFile : Option String → Except Error NamedFile
  | none => .ok .none
  | some written => do
    let p := Path.ofString written
    match ← w.settingsFile? p with
    | some f => return .present f
    | none => return .missing p.text

def sources (named : Option String) (overrides : Toml.Entries) : Except Error SettingsSources := do
  return {
    globalFile := ← w.settingsFile? ((← w.homePath).below [".javameter.toml"])
    projectFile := ← w.settingsFile? ⟨w.files.rootText, w.files.working ++ ["javameter.toml"]⟩
    namedFile := ← w.namedFile named
    environment := w.environment
    overrides }

def prepare (r : CollectRequest) : Except Error Survey.Setup := do
  let settings ← Settings.load (← w.sources r.config (overridesOf r))
  let level ← LanguageLevel.ofQuantity settings.languageLevel
  return ⟨w.files, w.grammar, settings, level⟩

/-- What is said of the files of a survey. -/
def countLines (v : Survey) : List String :=
  ("Collected metrics from " ++ toString v.counted ++ " files") ::
    if v.failed.isEmpty then []
    else ["Skipped " ++ toString v.failed.length ++ " files with errors"]

/-- Prints or writes the report of a survey, unless nothing was found. -/
def report (r : CollectRequest) (format : ReportFormat) (v : Survey) : Run :=
  let census := v.collector.census
  let metadata : Metadata := ⟨some w.now, some programVersion⟩
  if census.isEmpty then .finished "" (countLines v)
  else
    match r.output with
    | none => .finished (census.printed metadata format) (countLines v)
    | some written =>
      let p := Path.ofString written
      match w.files.placeToWrite p with
      | .error fault => .interrupted (countLines v) (.unwritable fault)
      | .ok place =>
        let file : WrittenFile :=
          ⟨place, census.report metadata format, (w.files.root.at? place).isNone⟩
        let done := match StyleMarks.shown? ("Report written to [blue]" ++ p.text ++ "[/blue]") with
          | some line => Run.finished "" (countLines v ++ [line])
          | none => .interrupted (countLines v) .unpairedMark
        { done with written := some file }

def collect (r : CollectRequest) : Run :=
  if r.verbose && r.quiet then .refused "--verbose and --quiet are mutually exclusive"
  else
    match w.prepare r with
    | .error e => .failed e
    | .ok setup =>
      match Survey.takePaths setup .empty (r.paths.map Path.ofString) with
      | (v, .error e) => { Run.failed e with log := v.log }
      | (v, .ok _) => { w.report r setup.settings.reportFormat v with log := v.log }

/-- Whether the files that a request names can be what they are named for. -/
def admits (r : CollectRequest) : Bool :=
  let isDirectory (l : Located) : Bool := match l.entry with
    | .directory _ => true
    | _ => false
  let outputOk := match r.output.map w.files.resolveWritten with
    | some (.ok l) => !isDirectory l
    | _ => true
  let configOk := match r.config.map w.files.resolveWritten with
    | some (.ok l) => !isDirectory l
    | some (.error _) => false
    | none => true
  outputOk && configOk

def usage : String :=
  "Usage: javameter [OPTIONS] COMMAND [ARGS]...\n\nCommands:\n  collect  Collect metrics from " ++
    "Java source files and print a report.\n  version  Show the javameter version.\n"

def run (args : List String) : Run :=
  match Request.ofArguments? false args with
  | none => .misuse
  | some .help => .finished usage []
  | some .version => .finished "" ["javameter version " ++ programVersion]
  | some (.collect r) =>
    if (r.paths ++ r.output.toList ++ r.config.toList).any Path.holdsNul then
      .interrupted [] (.mishap (.mishap .nulInPath))
    else if w.admits r then w.collect r
    else .misuse

end Surroundings

end JavaCensus
