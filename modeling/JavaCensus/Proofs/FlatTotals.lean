import JavaCensus.Metrics.Part
import JavaCensus.Proofs.Elements

/-!
# Totals as flat sums

Totals are computed by recursion through the metrics tree, with rules of its own for each level.
They are what one gets by going through the elements of the tree, each once: the numbers of elements
at each level, and the sums of the comments and the statements that the elements hold.
-/
namespace JavaCensus

namespace MetricsPart

/-! ## The parts of a tree -/

theorem sizeOf_lt_of_mem_children {c p : MetricsPart} (h : c ∈ p.children) :
    sizeOf c < sizeOf p := by
  rcases p with _ | ⟨⟨⟩⟩ | ⟨⟨⟩⟩ | ⟨⟨⟩⟩ | _ | ⟨⟨⟩⟩ | ⟨⟨⟩⟩ | ⟨⟨⟩⟩ | _ | _ <;>
    simp [children, MethodElement.localTypes, TypeElement.fields, TypeElement.methods,
      TypeElement.innerTypes] at h ⊢ <;>
    grind [→ List.sizeOf_lt_of_mem]

/-- What holds of a part once it holds of the parts directly below holds of every part. -/
theorem induction {motive : MetricsPart → Prop}
    (step : ∀ p, (∀ c ∈ p.children, motive c) → motive p) (p : MetricsPart) : motive p :=
  step p fun c _ => induction step c
termination_by p
decreasing_by exact sizeOf_lt_of_mem_children ‹_›

/-- The part and all below it, each before those below it. -/
def nodes (p : MetricsPart) : List MetricsPart :=
  p :: p.children.attach.flatMap fun c => c.1.nodes
termination_by p
decreasing_by exact sizeOf_lt_of_mem_children c.2

/-- All parts below. -/
def below (p : MetricsPart) : List MetricsPart :=
  p.children.flatMap nodes

theorem nodes_eq (p : MetricsPart) : p.nodes = p :: p.below := by
  rw [nodes, List.flatMap_subtype (g := nodes) fun _ _ => rfl, List.unattach_attach, below]

theorem mem_nodes_self (p : MetricsPart) : p ∈ p.nodes := by
  rw [nodes_eq]
  exact List.mem_cons_self ..

theorem mem_nodes_of_mem_children {p c q : MetricsPart} (hc : c ∈ p.children) (hq : q ∈ c.nodes) :
    q ∈ p.nodes := by
  rw [nodes_eq]
  exact List.mem_cons_of_mem _ (List.mem_flatMap.2 ⟨c, hc, hq⟩)

/-- An element, as opposed to a counter. -/
def IsElement (p : MetricsPart) : Prop :=
  p.counterLabel? = none

theorem IsElement.of_mem_children {c p : MetricsPart} (h : c ∈ p.children) : c.IsElement := by
  cases p <;> simp only [children, List.mem_append, List.mem_map, List.mem_singleton,
    List.not_mem_nil] at h <;> grind [IsElement, counterLabel?]

theorem IsElement.of_mem_nodes {p q : MetricsPart} (h : p.IsElement) (hq : q ∈ p.nodes) :
    q.IsElement := by
  induction p using MetricsPart.induction with
  | step p ih =>
    rw [nodes_eq, List.mem_cons] at hq
    rcases hq with rfl | hq
    · exact h
    · obtain ⟨c, hc, hq⟩ := List.mem_flatMap.1 hq
      exact ih c hc (.of_mem_children hc) hq

/-! ## Flat sums -/

/-- The levels at which elements are counted. -/
inductive Level where
  | modularUnit | package | unit | type | method | field
  deriving DecidableEq

/-- The level of an element; modules and the root are counted at none. -/
def level? : MetricsPart → Option Level
  | modularUnit _ => some .modularUnit
  | package _ => some .package
  | unit _ => some .unit
  | type _ => some .type
  | method _ => some .method
  | field _ => some .field
  | module _ | root _ | commentCounter _ | statementCounter _ => none

/-- The comments that a part itself holds. -/
def comments : MetricsPart → CommentCounts
  | field f => f.comments
  | method m => m.comments
  | type t => t.comments
  | unit u => u.comments
  | module m => m.comments
  | modularUnit u => u.comments
  | package p => p.comments
  | commentCounter c => c
  | root _ | statementCounter _ => 0

/-- The statements that a part itself holds. -/
def statements : MetricsPart → Int
  | field f => f.statements
  | method m => m.statements
  | statementCounter n => n
  | _ => 0

/-- How many of the parts are at a level. -/
def countAt (l : Level) (ps : List MetricsPart) : Int :=
  ps.countP (·.level? = some l)

end MetricsPart

/-- Counts some parts at their levels, and sums up the comments and statements that some hold. -/
def Totals.flat (counted holding : List MetricsPart) : Totals where
  modularUnits := MetricsPart.countAt .modularUnit counted
  packages := MetricsPart.countAt .package counted
  units := MetricsPart.countAt .unit counted
  types := MetricsPart.countAt .type counted
  methods := MetricsPart.countAt .method counted
  fields := MetricsPart.countAt .field counted
  statements := (holding.map (·.statements)).sum
  comments := (holding.map (·.comments)).sum

namespace Totals

theorem flat_append (ps qs ps' qs' : List MetricsPart) :
    flat (ps ++ ps') (qs ++ qs') = flat ps qs + flat ps' qs' := by
  simp only [flat, MetricsPart.countAt, List.countP_append, List.map_append, List.sum_append,
    add_def, Nat.cast_add]

theorem flat_flatMap {f g : MetricsPart → List MetricsPart} (ps : List MetricsPart) :
    flat (ps.flatMap f) (ps.flatMap g) = (ps.map fun p => flat (f p) (g p)).sum := by
  induction ps with
  | nil => rfl
  | cons p ps ih =>
    rw [List.flatMap_cons, List.flatMap_cons, flat_append, ih, List.map_cons, List.sum_cons]

/-- What a part itself holds. -/
theorem flat_holding (p : MetricsPart) :
    flat [] [p] = ofComments p.comments + ofStatements p.statements := by
  have comments : p.comments = p.comments + 0 := (add_zero _).symm
  simp only [flat, ofComments, ofStatements, zero, add_def, List.map_singleton, List.sum_singleton]
  rw [← comments]
  simp [MetricsPart.countAt]

end Totals

namespace MetricsPart

/-- The count of an element at its own level, with the totals of what it holds. -/
def fullCount (p : MetricsPart) : Totals :=
  p.ownCount + p.contentCount

theorem ownCount_eq_flat (p : MetricsPart) : p.ownCount = .flat [p] [] := by
  cases p <;> rfl

/-- The totals of what an element holds are its own comments and statements and, for each element
directly below, the count of that with the totals of what it holds. -/
theorem contentCount_eq (p : MetricsPart) :
    p.contentCount = .flat [] [p] + (p.children.map fullCount).sum := by
  rw [Totals.flat_holding]
  have none : Totals.ofStatements 0 = 0 := rfl
  have nothing : Totals.ofComments 0 = 0 := rfl
  cases p with
  | field f => exact (add_zero _).symm
  | method m =>
    cases m
    simp only [contentCount, MethodElement.content, Totals.sum_eq, TypeElement.totals_eq, children,
      List.map_map]
    rfl
  | type t =>
    cases t
    simp only [contentCount, TypeElement.content, Totals.sum_eq, TypeElement.totals_eq,
      MethodElement.totals_eq, children, List.map_append, List.sum_append, List.map_map,
      statements, none, add_zero, ← add_assoc]
    rfl
  | unit u =>
    simp only [contentCount, UnitElement.content, Totals.sum_eq, children, List.map_map,
      statements, none, add_zero]
    rfl
  | module m =>
    simp only [contentCount, ModuleElement.content, children, List.map_nil, List.sum_nil,
      statements, none, add_zero]
    rfl
  | modularUnit u =>
    simp only [contentCount, ModularUnitElement.content, children, List.map_singleton,
      List.sum_singleton, statements, none, add_zero]
    rfl
  | package p =>
    simp only [contentCount, PackageElement.content, Totals.sum_eq, children, List.map_map,
      statements, none, add_zero]
    rfl
  | root c =>
    simp only [contentCount, Census.content, Totals.sum_eq, children, List.map_append, List.map_map,
      comments, statements, none, nothing, zero_add]
    rfl
  | commentCounter c => simp [contentCount, children, comments, statements, none]
  | statementCounter n => simp [contentCount, children, comments, statements, nothing]

theorem fullCount_eq_flat (p : MetricsPart) : p.fullCount = .flat p.nodes p.nodes := by
  induction p using MetricsPart.induction with
  | step p ih =>
    have below : (p.children.map fullCount).sum = .flat p.below p.below := by
      rw [MetricsPart.below, Totals.flat_flatMap, List.map_congr_left ih]
    calc p.fullCount
        = .flat [p] [] + (.flat [] [p] + .flat p.below p.below) := by
          rw [fullCount, ownCount_eq_flat, contentCount_eq, below]
      _ = .flat p.nodes p.nodes := by
          rw [← Totals.flat_append, ← Totals.flat_append, nodes_eq]
          rfl

theorem contentCount_eq_flat (p : MetricsPart) : p.contentCount = .flat p.below p.nodes := by
  have children : p.children.map fullCount = p.children.map fun c => .flat c.nodes c.nodes :=
    List.map_congr_left fun c _ => c.fullCount_eq_flat
  rw [contentCount_eq, children, ← Totals.flat_flatMap, ← Totals.flat_append, nodes_eq]
  rfl

theorem forElement_eq_ok {p : MetricsPart} (h : p.IsElement) {α : Type} (x : α) :
    p.forElement x = .ok x := by
  rw [forElement, h]

/-- Wherever one stands in a tree of elements, the total is the flat sum over all that is below or
there, and the total of the content is the same sum without the count of the element itself, whose
comments and statements it still has. -/
theorem total_eq_flat {p : MetricsPart} (h : p.IsElement) {q : MetricsPart} (hq : q ∈ p.nodes) :
    q.own = .ok (.flat [q] []) ∧ q.total = .ok (.flat q.nodes q.nodes) ∧
      q.content = .ok (.flat q.below q.nodes) := by
  have element := h.of_mem_nodes hq
  refine ⟨?_, ?_, ?_⟩
  · rw [own, forElement_eq_ok element, ownCount_eq_flat]
  · rw [total, forElement_eq_ok element, ← fullCount_eq_flat, fullCount]
  · rw [content, forElement_eq_ok element, contentCount_eq_flat]

/-! ## A tree with types inside a method -/

def localType : TypeElement CommentCounts :=
  .mk ⟨"L", by decide⟩ .class ⟨1, 4, 0, 0, 0, 0, 0, 0⟩ [] [] []

def outerType : TypeElement CommentCounts :=
  .mk ⟨"A", by decide⟩ .enum ⟨0, 0, 0, 0, 0, 1, 3, 20⟩
    [⟨⟨"x", by decide⟩, .staticField, 1, ⟨2, 9, 0, 0, 0, 0, 0, 0⟩⟩]
    [.mk ⟨"f", by decide⟩ .staticMethod 5 0 [localType, localType]] [localType]

def nestedUnit : UnitElement CommentCounts :=
  ⟨⟨"A.java", by decide⟩, 0, [outerType]⟩

def nestedPackage : Package :=
  ⟨"p", ⟨0, 0, 1, 1, 2, 0, 0, 0⟩, [nestedUnit]⟩

def nestedCensus : Census where
  packages := [nestedPackage]
  modularUnits :=
    [⟨⟨"module-info.java", by decide⟩, 0, ⟨⟨"m", by decide⟩, false, 1, 0, 0, 0, 0, 0⟩⟩]
  distinct := by decide

/-- A type in the middle of the tree, with four types, a method and a field in all. -/
theorem total_eq_flat_outerType : (root nestedCensus).IsElement ∧
    type outerType ∈ (root nestedCensus).nodes ∧
    (type outerType).total = .ok ⟨0, 0, 0, 4, 1, 1, 6, ⟨5, 21, 0, 0, 0, 1, 3, 20⟩⟩ ∧
    (type outerType).own = .ok (.flat [type outerType] []) ∧
    (type outerType).total = .ok (.flat (type outerType).nodes (type outerType).nodes) ∧
    (type outerType).content = .ok (.flat (type outerType).below (type outerType).nodes) := by
  have element : (root nestedCensus).IsElement := rfl
  have member : type outerType ∈ (root nestedCensus).nodes := by
    have package : package nestedPackage ∈ (root nestedCensus).children :=
      List.mem_cons_of_mem _ (List.mem_cons_self ..)
    have unit : unit nestedUnit ∈ (MetricsPart.package nestedPackage).children :=
      List.mem_cons_self ..
    have type : type outerType ∈ (MetricsPart.unit nestedUnit).children := List.mem_cons_self ..
    exact mem_nodes_of_mem_children package (mem_nodes_of_mem_children unit
      (mem_nodes_of_mem_children type (mem_nodes_self _)))
  exact ⟨element, member, rfl, total_eq_flat element member⟩

end MetricsPart

end JavaCensus
