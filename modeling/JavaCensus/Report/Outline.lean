import JavaCensus.Metrics.Totals
import JavaCensus.Report.Metadata

/-!
# The outline report

The totals, and then a line for each element with its own counters below it. Lines are written one
after the other at a level that goes up and down. What an element holds stands one step deeper than
its own line. Counts that are not positive are left out.
-/
namespace JavaCensus

/-- The lines so far and the level of the next one. -/
structure Outline where
  lines : Array String
  level : Int

/-- A step in writing an outline. -/
abbrev OutlineWriter := StateM Outline Unit

/-- The first line, with what is known of the time and the version. -/
def Metadata.heading (m : Metadata) : String :=
  if m.created.isNone && m.version.isNone then "Javameter report"
  else "Javameter report created" ++
    ((m.created.map fun t => " on " ++ t.date.text ++ " " ++ t.time.text).getD "") ++
    ((m.version.map fun v => " with version " ++ v).getD "")

namespace Outline

def empty : Outline := ⟨#[], 0⟩

/-- The blanks in front of a line, two for each step. -/
def margin (level : Int) : String :=
  .ofList (List.replicate (2 * level.toNat) ' ')

def line (text : String) : OutlineWriter :=
  modify fun o => { o with lines := o.lines.push (margin o.level ++ text) }

def indent : OutlineWriter :=
  modify fun o => { o with level := o.level + 1 }

def dedent : OutlineWriter :=
  modify fun o => { o with level := o.level - 1 }

/-- A line about something of which there are `n`, unless there are none. -/
def lineFor (n : Int) (text : String) : OutlineWriter :=
  if 0 < n then line text else pure ()

/-- A positive count, followed by what is counted. -/
def count (n : Int) (suffix : String) : OutlineWriter :=
  lineFor n (toString n ++ suffix)

def writeComments (c : CommentCounts) : OutlineWriter := do
  lineFor c.lineComments (toString c.lineComments ++ " line comments, total length " ++
    toString c.lineCommentsLength)
  lineFor c.blockComments (toString c.blockComments ++ " block comments on " ++
    toString c.blockCommentLines ++ " lines, total length " ++ toString c.blockCommentsLength)
  lineFor c.docComments (toString c.docComments ++ " JavaDoc comments on " ++
    toString c.docCommentLines ++ " lines, total length " ++ toString c.docCommentsLength)

def writeTotals (t : Totals) : OutlineWriter := do
  count t.modularUnits " modules"
  count t.packages " packages"
  count t.units " compilation units"
  count t.types " types"
  count t.methods " methods"
  count t.fields " fields"
  count t.statements " statements"
  writeComments t.comments

def writeField (f : FieldElement CommentCounts) : OutlineWriter := do
  line (f.kind.text ++ " " ++ f.name.text)
  indent
  writeComments f.comments
  count f.statements " statements"
  dedent

mutual

def writeType : TypeElement CommentCounts → OutlineWriter
  | .mk name kind comments fields methods innerTypes => do
    line (kind.text ++ " " ++ name.text)
    indent
    writeComments comments
    forM fields writeField
    writeMethods methods
    writeTypes innerTypes
    dedent

def writeTypes : List (TypeElement CommentCounts) → OutlineWriter
  | [] => pure ()
  | t :: ts => do
    writeType t
    writeTypes ts

def writeMethod : MethodElement CommentCounts → OutlineWriter
  | .mk name kind statements comments localTypes => do
    line (kind.text ++ " " ++ name.text)
    indent
    writeComments comments
    count statements " statements"
    writeTypes localTypes
    dedent

def writeMethods : List (MethodElement CommentCounts) → OutlineWriter
  | [] => pure ()
  | m :: ms => do
    writeMethod m
    writeMethods ms

end

theorem writeTypes_eq (ts : List (TypeElement CommentCounts)) :
    writeTypes ts = forM ts writeType := by
  induction ts with
  | nil => rfl
  | cons t ts ih => rw [writeTypes, ih, List.forM_cons]

theorem writeMethods_eq (ms : List (MethodElement CommentCounts)) :
    writeMethods ms = forM ms writeMethod := by
  induction ms with
  | nil => rfl
  | cons m ms ih => rw [writeMethods, ih, List.forM_cons]

def writeUnit (u : UnitElement CommentCounts) : OutlineWriter := do
  line u.name.text
  indent
  writeComments u.comments
  forM u.types writeType
  dedent

def writePackage (p : Package) : OutlineWriter := do
  line ("package " ++ p.name)
  indent
  writeComments p.comments
  forM p.units writeUnit
  dedent

def writeModule (m : ModuleElement CommentCounts) : OutlineWriter := do
  line ((if m.isOpen then "open module" else "module") ++ " " ++ m.name.text)
  indent
  writeComments m.comments
  count m.requires " requires"
  count m.exports " exports"
  count m.provides " provides"
  count m.uses " uses"
  count m.opens " opens"
  dedent

def writeModularUnit (u : ModularUnit) : OutlineWriter := do
  line u.name.text
  indent
  writeComments u.comments
  writeModule u.module
  dedent

def writeCensus (c : Census) (m : Metadata) : OutlineWriter := do
  line m.heading
  line "Summary:"
  indent
  writeTotals c.total
  dedent
  line "Details:"
  indent
  forM c.modularUnits writeModularUnit
  forM c.packages writePackage
  dedent

def text (o : Outline) : String :=
  "\n".intercalate o.lines.toList ++ "\n"

end Outline

def Census.outline (c : Census) (m : Metadata) : Outline :=
  ((Outline.writeCensus c m).run .empty).2

end JavaCensus
