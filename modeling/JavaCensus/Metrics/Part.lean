import JavaCensus.Metrics.Totals

/-!
# Parts of the metrics tree

Every level of the tree under one type, with the elements directly below each. Only elements have
totals: a counter is no level of the tree.
-/
namespace JavaCensus

inductive MetricsPart where
  | field (f : FieldElement CommentCounts)
  | method (m : MethodElement CommentCounts)
  | type (t : TypeElement CommentCounts)
  | unit (u : UnitElement CommentCounts)
  | module (m : ModuleElement CommentCounts)
  | modularUnit (u : ModularUnit)
  | package (p : Package)
  | root (c : Census)
  | commentCounter (c : CommentCounts)
  | statementCounter (n : Int)

namespace MetricsPart

/-- The elements directly below. -/
def children : MetricsPart → List MetricsPart
  | field _ | module _ | commentCounter _ | statementCounter _ => []
  | method m => m.localTypes.map type
  | type t => t.fields.map field ++ t.methods.map method ++ t.innerTypes.map type
  | unit u => u.types.map type
  | modularUnit u => [module u.module]
  | package p => p.units.map unit
  | root c => c.modularUnits.map modularUnit ++ c.packages.map package

/-- The name under which messages speak of a counter. -/
def counterLabel? : MetricsPart → Option String
  | commentCounter _ => some "CommentMetrics"
  | statementCounter _ => some "StatementMetrics"
  | _ => none

/-- The count that an element makes at its own level. -/
def ownCount : MetricsPart → Totals
  | field _ => .oneField
  | method _ => .oneMethod
  | type _ => .oneType
  | unit _ => .oneUnit
  | modularUnit _ => .oneModularUnit
  | package _ => .onePackage
  | module _ | root _ | commentCounter _ | statementCounter _ => 0

def contentCount : MetricsPart → Totals
  | field f => f.content
  | method m => m.content
  | type t => t.content
  | unit u => u.content
  | module m => m.content
  | modularUnit u => u.content
  | package p => p.content
  | root c => c.content
  | commentCounter c => .ofComments c
  | statementCounter n => .ofStatements n

/-- Gives a result for an element and refuses a counter. -/
def forElement {α : Type} (p : MetricsPart) (result : α) : Except Error α :=
  match p.counterLabel? with
  | none => .ok result
  | some label => .error (.unclassified label .metricsNode)

def own (p : MetricsPart) : Except Error Totals :=
  p.forElement p.ownCount

/-- The totals of what an element holds, its own count left out. -/
def content (p : MetricsPart) : Except Error Totals :=
  p.forElement p.contentCount

def total (p : MetricsPart) : Except Error Totals :=
  p.forElement (p.ownCount + p.contentCount)

theorem total_type (t : TypeElement CommentCounts) : (type t).total = .ok t.total :=
  rfl

theorem total_root (c : Census) : (root c).total = .ok c.total :=
  rfl

end MetricsPart

/-- Statements so far, and some more; the number cannot go down. -/
def addStatements (total count : Int) : Except Error Int :=
  if count < 0 then .error (.mishap .decreasingCount) else .ok (total + count)

end JavaCensus
