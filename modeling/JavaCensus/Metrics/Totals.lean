import JavaCensus.Metrics.Census

/-!
# Totals

The sum of all counters in a part of the metrics tree. The total of an element takes in the one
count that the element makes at its own level; the total of its content leaves that out.
-/
namespace JavaCensus

structure Totals where
  modularUnits : Int
  packages : Int
  units : Int
  types : Int
  methods : Int
  fields : Int
  statements : Int
  comments : CommentCounts
  deriving DecidableEq, Repr

namespace Totals

def zero : Totals := ⟨0, 0, 0, 0, 0, 0, 0, 0⟩

instance : Zero Totals := ⟨zero⟩

instance : Add Totals where
  add a b :=
    ⟨a.modularUnits + b.modularUnits, a.packages + b.packages, a.units + b.units,
      a.types + b.types, a.methods + b.methods, a.fields + b.fields,
      a.statements + b.statements, a.comments + b.comments⟩

theorem add_def (a b : Totals) : a + b =
    ⟨a.modularUnits + b.modularUnits, a.packages + b.packages, a.units + b.units,
      a.types + b.types, a.methods + b.methods, a.fields + b.fields,
      a.statements + b.statements, a.comments + b.comments⟩ :=
  rfl

theorem add_comm (a b : Totals) : a + b = b + a := by
  simp only [add_def, mk.injEq, CommentCounts.add_comm a.comments, and_true]
  omega

theorem add_assoc (a b c : Totals) : a + b + c = a + (b + c) := by
  simp only [add_def, mk.injEq, CommentCounts.add_assoc, and_true]
  omega

theorem zero_add (a : Totals) : 0 + a = a := by
  show zero + a = a
  simp only [add_def, zero, Int.zero_add]
  rw [CommentCounts.zero_add]

def ofComments (c : CommentCounts) : Totals := { zero with comments := c }

def ofStatements (n : Int) : Totals := { zero with statements := n }

def sum (ts : List Totals) : Totals := ts.foldl (· + ·) 0

def oneModularUnit : Totals := { zero with modularUnits := 1 }

def onePackage : Totals := { zero with packages := 1 }

def oneUnit : Totals := { zero with units := 1 }

def oneType : Totals := { zero with types := 1 }

def oneMethod : Totals := { zero with methods := 1 }

def oneField : Totals := { zero with fields := 1 }

/-- The number of comments of all kinds. -/
def commentCount (t : Totals) : Int := t.comments.comments

end Totals

def FieldElement.content (f : FieldElement CommentCounts) : Totals :=
  .ofComments f.comments + .ofStatements f.statements

def FieldElement.total (f : FieldElement CommentCounts) : Totals :=
  .oneField + f.content

mutual

def TypeElement.content : TypeElement CommentCounts → Totals
  | .mk _ _ comments fields methods innerTypes =>
    .ofComments comments + .sum (fields.map (·.total)) + .sum (MethodElement.totals methods) +
      .sum (TypeElement.totals innerTypes)

def TypeElement.totals : List (TypeElement CommentCounts) → List Totals
  | [] => []
  | t :: ts => (.oneType + t.content) :: TypeElement.totals ts

def MethodElement.content : MethodElement CommentCounts → Totals
  | .mk _ _ statements comments localTypes =>
    .ofComments comments + .ofStatements statements + .sum (TypeElement.totals localTypes)

def MethodElement.totals : List (MethodElement CommentCounts) → List Totals
  | [] => []
  | m :: ms => (.oneMethod + m.content) :: MethodElement.totals ms

end

def TypeElement.total (t : TypeElement CommentCounts) : Totals :=
  .oneType + t.content

def MethodElement.total (m : MethodElement CommentCounts) : Totals :=
  .oneMethod + m.content

theorem TypeElement.totals_eq (ts : List (TypeElement CommentCounts)) :
    TypeElement.totals ts = ts.map (·.total) := by
  induction ts with
  | nil => rfl
  | cons t ts ih => rw [TypeElement.totals, ih, List.map_cons, TypeElement.total]

theorem MethodElement.totals_eq (ms : List (MethodElement CommentCounts)) :
    MethodElement.totals ms = ms.map (·.total) := by
  induction ms with
  | nil => rfl
  | cons m ms ih => rw [MethodElement.totals, ih, List.map_cons, MethodElement.total]

def ModuleElement.content (m : ModuleElement CommentCounts) : Totals :=
  .ofComments m.comments

/-- A module makes no count of its own. -/
def ModuleElement.total (m : ModuleElement CommentCounts) : Totals :=
  0 + m.content

def ModularUnitElement.content (u : ModularUnitElement CommentCounts) : Totals :=
  .ofComments u.comments + u.module.total

def ModularUnitElement.total (u : ModularUnitElement CommentCounts) : Totals :=
  .oneModularUnit + u.content

def UnitElement.content (u : UnitElement CommentCounts) : Totals :=
  .ofComments u.comments + .sum (u.types.map (·.total))

def UnitElement.total (u : UnitElement CommentCounts) : Totals :=
  .oneUnit + u.content

def PackageElement.content (p : PackageElement CommentCounts) : Totals :=
  .ofComments p.comments + .sum (p.units.map (·.total))

def PackageElement.total (p : PackageElement CommentCounts) : Totals :=
  .onePackage + p.content

def Census.content (c : Census) : Totals :=
  .sum (c.modularUnits.map (·.total) ++ c.packages.map (·.total))

/-- The root makes no count of its own. -/
def Census.total (c : Census) : Totals :=
  0 + c.content

end JavaCensus
