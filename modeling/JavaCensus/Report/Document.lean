import JavaCensus.Json.Document
import JavaCensus.Metrics.Totals
import JavaCensus.Report.Metadata

/-!
# The document report

The metrics tree as a JSON document. Every element that holds other elements has a summary of its
content, and the document as a whole has the totals.
-/
namespace JavaCensus

/-- The counters by name. -/
def CommentCounts.members (c : CommentCounts) : List (String × Json) :=
  [("line_comments", .int c.lineComments), ("line_comments_length", .int c.lineCommentsLength),
    ("block_comments", .int c.blockComments), ("block_comment_lines", .int c.blockCommentLines),
    ("block_comments_length", .int c.blockCommentsLength), ("doc_comments", .int c.docComments),
    ("doc_comment_lines", .int c.docCommentLines),
    ("doc_comments_length", .int c.docCommentsLength)]

def CommentCounts.document (c : CommentCounts) : Json :=
  .object c.members

def Totals.document (t : Totals) : Json :=
  .object ([("modular_compilation_units", .int t.modularUnits), ("packages", .int t.packages),
    ("compilation_units", .int t.units), ("types", .int t.types), ("methods", .int t.methods),
    ("fields", .int t.fields), ("statements", .int t.statements)] ++ t.comments.members)

def FieldElement.document (f : FieldElement CommentCounts) : Json :=
  .object [("name", .string f.name.text), ("kind", .string f.kind.text),
    ("statements", .int f.statements), ("comments", f.comments.document)]

mutual

def TypeElement.document : TypeElement CommentCounts → Json
  | .mk name kind comments fields methods innerTypes =>
    .object [("name", .string name.text), ("kind", .string kind.text),
      ("summary", (TypeElement.mk name kind comments fields methods innerTypes).content.document),
      ("comments", comments.document), ("fields", .array (fields.map (·.document))),
      ("methods", .array (MethodElement.documents methods)),
      ("inner_types", .array (TypeElement.documents innerTypes))]

def TypeElement.documents : List (TypeElement CommentCounts) → List Json
  | [] => []
  | t :: ts => t.document :: TypeElement.documents ts

def MethodElement.document : MethodElement CommentCounts → Json
  | .mk name kind statements comments localTypes =>
    .object [("name", .string name.text), ("kind", .string kind.text),
      ("statements", .int statements),
      ("summary", (MethodElement.mk name kind statements comments localTypes).content.document),
      ("comments", comments.document),
      ("local_types", .array (TypeElement.documents localTypes))]

def MethodElement.documents : List (MethodElement CommentCounts) → List Json
  | [] => []
  | m :: ms => m.document :: MethodElement.documents ms

end

theorem TypeElement.documents_eq (ts : List (TypeElement CommentCounts)) :
    TypeElement.documents ts = ts.map (·.document) := by
  induction ts with
  | nil => rfl
  | cons t ts ih => rw [TypeElement.documents, ih, List.map_cons]

theorem MethodElement.documents_eq (ms : List (MethodElement CommentCounts)) :
    MethodElement.documents ms = ms.map (·.document) := by
  induction ms with
  | nil => rfl
  | cons m ms ih => rw [MethodElement.documents, ih, List.map_cons]

def UnitElement.document (u : UnitElement CommentCounts) : Json :=
  .object [("name", .string u.name.text), ("summary", u.content.document),
    ("comments", u.comments.document), ("types", .array (u.types.map (·.document)))]

def PackageElement.document (p : Package) : Json :=
  .object [("name", .string p.name), ("summary", p.content.document),
    ("comments", p.comments.document), ("compilation_units", .array (p.units.map (·.document)))]

def ModuleElement.document (m : ModuleElement CommentCounts) : Json :=
  .object [("name", .string m.name.text), ("open", .bool m.isOpen), ("requires", .int m.requires),
    ("exports", .int m.exports), ("provides", .int m.provides), ("uses", .int m.uses),
    ("opens", .int m.opens), ("comments", m.comments.document)]

def ModularUnitElement.document (u : ModularUnit) : Json :=
  .object [("name", .string u.name.text), ("comments", u.comments.document),
    ("module", u.module.document)]

/-- A text, or null for want of one. -/
def Json.ofText? (text : Option String) : Json :=
  (text.map Json.string).getD .null

def Census.document (c : Census) (m : Metadata) : Json :=
  .object [("date", .ofText? (m.created.map (·.date.text))),
    ("time", .ofText? (m.created.map (·.time.text))), ("version", .ofText? m.version),
    ("summary", c.total.document),
    ("modular_compilation_units", .array (c.modularUnits.map (·.document))),
    ("packages", .array (c.packages.map (·.document)))]

end JavaCensus
