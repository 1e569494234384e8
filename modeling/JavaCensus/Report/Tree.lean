import JavaCensus.Metrics.Totals
import JavaCensus.Report.Markup
import JavaCensus.Report.Metadata

/-!
# The element report

The metrics tree as XML elements. Counters are written only if they are positive; a sequence
without members and the comments of an element without comments are left out.
-/
namespace JavaCensus

open Markup

/-- An attribute for a positive number. -/
def positive (name : String) (n : Int) : List (String × String) :=
  if 0 < n then [(name, toString n)] else []

def CommentCounts.attributes (c : CommentCounts) : List (String × String) :=
  positive "line-comments" c.lineComments ++ positive "line-comments-length" c.lineCommentsLength ++
    positive "block-comments" c.blockComments ++
    positive "block-comments-lines" c.blockCommentLines ++
    positive "block-comments-length" c.blockCommentsLength ++ positive "javadocs" c.docComments ++
    positive "javadoc-lines" c.docCommentLines ++ positive "javadocs-length" c.docCommentsLength

def CommentCounts.markup (c : CommentCounts) : List Markup :=
  if c.isEmpty then [] else [⟨"comments", c.attributes, []⟩]

def Totals.markup (t : Totals) : Markup :=
  ⟨"summary", positive "modular-compilation-units" t.modularUnits ++
    positive "packages" t.packages ++ positive "compilation-units" t.units ++
    positive "types" t.types ++ positive "methods" t.methods ++ positive "fields" t.fields ++
    positive "statements" t.statements ++ t.comments.attributes, []⟩

/-- Members under an element that says how many there are. -/
def sequenceOf (tag : String) (members : List Markup) : List Markup :=
  if members.isEmpty then []
  else [⟨tag, [("count", toString members.length)], members⟩]

def FieldElement.markup (f : FieldElement CommentCounts) : Markup :=
  ⟨"field", [("name", f.name.text), ("kind", f.kind.text)] ++ positive "statements" f.statements,
    f.comments.markup⟩

mutual

def TypeElement.markup (tag : String) : TypeElement CommentCounts → Markup
  | .mk name kind comments fields methods innerTypes =>
    ⟨tag, [("name", name.text), ("kind", kind.text)],
      (TypeElement.mk name kind comments fields methods innerTypes).content.markup ::
        comments.markup ++ sequenceOf "fields" (fields.map (·.markup)) ++
        sequenceOf "methods" (MethodElement.markups methods) ++
        sequenceOf "inner-types" (TypeElement.markups "inner-type" innerTypes)⟩

def TypeElement.markups (tag : String) : List (TypeElement CommentCounts) → List Markup
  | [] => []
  | t :: ts => t.markup tag :: TypeElement.markups tag ts

def MethodElement.markup : MethodElement CommentCounts → Markup
  | .mk name kind statements comments localTypes =>
    ⟨"method", [("name", name.text), ("kind", kind.text)] ++ positive "statements" statements,
      (MethodElement.mk name kind statements comments localTypes).content.markup ::
        comments.markup ++ sequenceOf "local-types" (TypeElement.markups "local-type" localTypes)⟩

def MethodElement.markups : List (MethodElement CommentCounts) → List Markup
  | [] => []
  | m :: ms => m.markup :: MethodElement.markups ms

end

theorem TypeElement.markups_eq (tag : String) (ts : List (TypeElement CommentCounts)) :
    TypeElement.markups tag ts = ts.map (·.markup tag) := by
  induction ts with
  | nil => rfl
  | cons t ts ih => rw [TypeElement.markups, ih, List.map_cons]

theorem MethodElement.markups_eq (ms : List (MethodElement CommentCounts)) :
    MethodElement.markups ms = ms.map (·.markup) := by
  induction ms with
  | nil => rfl
  | cons m ms ih => rw [MethodElement.markups, ih, List.map_cons]

def UnitElement.markup (u : UnitElement CommentCounts) : Markup :=
  ⟨"compilation-unit", [("name", u.name.text)],
    u.content.markup :: u.comments.markup ++
      sequenceOf "types" (TypeElement.markups "type" u.types)⟩

def PackageElement.markup (p : Package) : Markup :=
  ⟨"package", [("name", p.name)],
    p.content.markup :: p.comments.markup ++
      sequenceOf "compilation-units" (p.units.map (·.markup))⟩

def ModuleElement.markup (m : ModuleElement CommentCounts) : Markup :=
  ⟨"module", [("name", m.name.text), ("open", if m.isOpen then "true" else "false")] ++
    positive "requires" m.requires ++ positive "exports" m.exports ++
    positive "provides" m.provides ++ positive "uses" m.uses ++ positive "opens" m.opens,
    m.comments.markup⟩

def ModularUnitElement.markup (u : ModularUnit) : Markup :=
  ⟨"modular-compilation-unit", [("name", u.name.text)], u.comments.markup ++ [u.module.markup]⟩

def Metadata.attributes (m : Metadata) : List (String × String) :=
  (match m.created with
    | some t => [("date", t.date.text), ("time", t.time.text)]
    | none => []) ++ (m.version.map fun v => ("version", v)).toList

def Census.markup (c : Census) (m : Metadata) : Markup :=
  ⟨"javameter-report", m.attributes,
    c.total.markup ::
      sequenceOf "modular-compilation-units" (c.modularUnits.map (·.markup)) ++
      sequenceOf "packages" (c.packages.map (·.markup))⟩

end JavaCensus
