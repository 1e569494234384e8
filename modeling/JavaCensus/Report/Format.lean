import JavaCensus.Report.Document
import JavaCensus.Report.Emoji
import JavaCensus.Report.Outline
import JavaCensus.Report.Terminal
import JavaCensus.Report.Tree

/-!
# Report formats

The formats by name, the report in each, and how it is printed.
-/
namespace JavaCensus

inductive ReportFormat where
  | text
  | json
  | xml
  deriving DecidableEq, Repr

namespace ReportFormat

def name : ReportFormat → String
  | text => "text"
  | json => "json"
  | xml => "xml"

def ofName? (name : String) : Option ReportFormat :=
  [text, json, xml].find? (·.name == name)

theorem ofName?_name (f : ReportFormat) : ofName? f.name = some f := by
  cases f <;> decide

def ofName (name : String) : Except Error ReportFormat :=
  match ofName? name with
  | some f => .ok f
  | none => .error (.mishap (.unknownFormat (Text.quoted name)))

end ReportFormat

/-- The text of a report. -/
def Census.report (c : Census) (m : Metadata) : ReportFormat → String
  | .text => (c.outline m).text
  | .json => (c.document m).text
  | .xml => (c.markup m).text

/-- A report as it is printed. Outlines are laid out for a terminal, with emoji for their codes; the
other formats are printed as they are, and end the line. -/
def Census.printed (c : Census) (m : Metadata) : ReportFormat → String
  | .text => shown (.ofList (Emoji.replace (c.report m .text).toList))
  | f => c.report m f ++ "\n"

end JavaCensus
