import JavaCensus.Collect.Collector
import JavaCensus.Files.Discovery
import JavaCensus.Settings.Setting
import JavaCensus.Text.Lines

/-!
# Surveys

A survey takes in the source files below some paths. A file that cannot be read, parsed or
collected is noted and passed over; only an error that is not foreseen ends the survey.
-/
namespace JavaCensus

/-- How source texts are parsed. -/
abbrev Grammar := SourceText → Parse

namespace FileSystem

/-- The text of a file, every line break a line feed. -/
def readSource (fs : FileSystem) (settings : Settings) (p : Path) : Except Error SourceText :=
  match fs.resolve p with
  | .error _ =>
    .error (if Path.holdsNul p.text then .mishap .nulInPath else .unreadable p.text .system)
  | .ok l => do
    let limit ← settings.sizeLimit
    if limit < l.entry.size then throw (.unreadable p.text (.tooLarge l.entry.size limit))
    match l.entry with
    | .file bytes =>
      match settings.decoder.decode bytes with
      | .ok text => return .ofString (.ofList (Text.unifyBreaks text))
      | .error .malformed => throw (.unreadable p.text .encoding)
      | .error .unreadable => throw (.mishap .undecodable)
      | .error .halved => throw (.mishap .unencodable)
    | _ => throw (.unreadable p.text .system)

end FileSystem

/-- What stays the same during a survey. -/
structure Survey.Setup where
  files : FileSystem
  grammar : Grammar
  settings : Settings
  level : LanguageLevel

/-- The metrics so far, how many files have been counted, and which have failed. -/
structure Survey where
  collector : Collector
  counted : Nat
  failed : List Path
  log : List LogRecord

namespace Survey

def empty : Survey := ⟨.empty, 0, [], []⟩

/-- Reads and collects a file. -/
def attempt (s : Setup) (c : Collector) (p : Path) : Collector.Outcome :=
  match s.files.readSource s.settings p with
  | .error e => ⟨c, [], .error e⟩
  | .ok source =>
    c.collect s.level s.settings.enablePreview.isTruthy p.name source (s.grammar source)

/-- Takes in one file and tells whether it was counted. -/
def takeFile (s : Setup) (v : Survey) (p : Path) : Survey × Except Error Bool :=
  let o := attempt s v.collector p
  match o.result with
  | .ok _ => (⟨o.collector, v.counted + 1, v.failed, v.log ++ o.log⟩, .ok true)
  | .error e =>
    match e.report? with
    | none => ({ v with collector := o.collector, log := v.log ++ o.log }, .error e)
    | some report =>
      let record : LogRecord :=
        ⟨.warning, "Failed to collect metrics from " ++ p.text ++ ": " ++ report.text⟩
      (⟨o.collector, v.counted, v.failed ++ [p], v.log ++ o.log ++ [record]⟩, .ok false)

/-- Takes in what a search has come upon, one by one, up to an error that is not foreseen. -/
def takeFindings (s : Setup) (v : Survey) : List Finding → Survey × Option Error
  | [] => (v, none)
  | .note r :: rest => takeFindings s { v with log := v.log ++ [r] } rest
  | .file p :: rest =>
    match takeFile s v p with
    | (v, .ok _) => takeFindings s v rest
    | (v, .error e) => (v, some e)

/-- Takes in the source files below paths; the number that is given counts all files so far. -/
def takePaths (s : Setup) (v : Survey) (paths : List Path) : Survey × Except Error Nat :=
  let d := s.files.discover s.settings.excludePatterns s.settings.followSymlinks.isTruthy paths
  match takeFindings s v d.findings with
  | (v, some e) => (v, .error e)
  | (v, none) =>
    match d.failure with
    | some e => (v, .error e)
    | none => (v, .ok v.counted)

end Survey

end JavaCensus
