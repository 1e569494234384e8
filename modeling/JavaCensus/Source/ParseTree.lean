import JavaCensus.Text.Utf8
import JavaCensus.Syntax.Position

/-!
# Parse trees

The tree a grammar gives for a source text: nodes with a type, a range of bytes and children, each
of which may fill a field of its parent. All children count in a walk; those that are not named are
tokens such as brackets.
-/
namespace JavaCensus

structure ParseTree where
  type : String
  named : Bool
  missing : Bool
  start : Nat
  stop : Nat
  field : Option String
  children : List ParseTree

/-- A parse tree with the remark whether the grammar had to repair something. -/
structure Parse where
  root : ParseTree
  hasError : Bool

namespace ParseTree

mutual

/-- The number of nodes. -/
def weight : ParseTree → Nat
  | ⟨_, _, _, _, _, _, children⟩ => 1 + weightAll children

def weightAll : List ParseTree → Nat
  | [] => 0
  | t :: ts => weight t + weightAll ts

end

theorem weight_eq (t : ParseTree) : t.weight = 1 + weightAll t.children := by
  cases t
  rw [weight]

theorem weightAll_append (ts us : List ParseTree) :
    weightAll (ts ++ us) = weightAll ts + weightAll us := by
  induction ts with
  | nil => simp [weightAll]
  | cons t ts ih =>
    simp only [List.cons_append, weightAll, ih]
    omega

theorem weightAll_filter_le (p : ParseTree → Bool) (ts : List ParseTree) :
    weightAll (ts.filter p) ≤ weightAll ts := by
  induction ts with
  | nil => exact Nat.le_refl _
  | cons t ts ih =>
    rw [List.filter_cons]
    split <;> simp only [weightAll] <;> omega

theorem weight_le_of_mem {t : ParseTree} {ts : List ParseTree} (h : t ∈ ts) :
    t.weight ≤ weightAll ts := by
  induction ts with
  | nil => cases h
  | cons u ts ih =>
    rw [weightAll]
    rcases List.mem_cons.1 h with rfl | h
    · omega
    · have := ih h
      omega

theorem weight_lt_of_mem_children {c t : ParseTree} (h : c ∈ t.children) : c.weight < t.weight := by
  have := weight_le_of_mem h
  rw [weight_eq t]
  omega

/-- What holds of a tree once it holds of its children holds of every tree. -/
theorem induction {motive : ParseTree → Prop}
    (step : ∀ t, (∀ c ∈ t.children, motive c) → motive t) (t : ParseTree) : motive t :=
  step t fun c _ => induction step c
termination_by t.weight
decreasing_by exact weight_lt_of_mem_children ‹_›

def isComment (t : ParseTree) : Bool :=
  t.type ∈ ["line_comment", "block_comment", "comment"]

def namedChildren (t : ParseTree) : List ParseTree :=
  t.children.filter (·.named)

/-- The first child that fills a field. -/
def field? (t : ParseTree) (name : String) : Option ParseTree :=
  t.children.find? (·.field == some name)

/-- A tree that is strictly smaller than another. -/
structure Below (t : ParseTree) where
  tree : ParseTree
  lt : tree.weight < t.weight

/-- The children, known to be smaller. -/
def childrenBelow (t : ParseTree) : List t.Below :=
  t.children.attach.map fun c => ⟨c.1, weight_lt_of_mem_children c.2⟩

theorem map_childrenBelow (t : ParseTree) : t.childrenBelow.map (·.tree) = t.children := by
  simp [childrenBelow]

def namedBelow (t : ParseTree) : List t.Below :=
  t.childrenBelow.filter (·.tree.named)

/-- The named children that are no comments. -/
def parts (t : ParseTree) : List t.Below :=
  t.namedBelow.filter fun c => !c.tree.isComment

def fieldBelow? (t : ParseTree) (name : String) : Option t.Below :=
  t.childrenBelow.find? (·.tree.field == some name)

def fieldsBelow (t : ParseTree) (name : String) : List t.Below :=
  t.childrenBelow.filter (·.tree.field == some name)

/-- The first named child of a type. -/
def namedOfType? (t : ParseTree) (type : String) : Option t.Below :=
  t.namedBelow.find? (·.tree.type == type)

/-- A tree met on a walk, with the type of its parent. -/
structure Met where
  parentType : Option String
  tree : ParseTree

/-- The children as met from a tree. -/
def metChildren (t : ParseTree) : List Met :=
  t.children.map (Met.mk (some t.type))

/-- Walks the trees of a stack and all below them, each before those below it. -/
def walkStack (stack : List Met) : List Met :=
  match stack with
  | [] => []
  | m :: rest => m :: walkStack (m.tree.metChildren ++ rest)
termination_by weightAll (stack.map (·.tree))
decreasing_by
  have : m.tree.metChildren.map (·.tree) = m.tree.children := by
    simp [metChildren, Function.comp_def]
  simp only [List.map_append, List.map_cons, this, weightAll, weightAll_append, weight_eq m.tree]
  omega

/-- The tree and all trees below it. -/
def descendants (t : ParseTree) : List Met :=
  walkStack [⟨none, t⟩]

/-- Whether an expression of this shape can hold code that is counted. -/
def holdsCode (t : ParseTree) : Bool :=
  t.type == "lambda_expression" || t.type == "switch_expression" ||
    (t.type == "object_creation_expression" && (t.namedChildren.any (·.type == "class_body")))

/-- The outermost trees that hold code, in a stack of trees and below. -/
def outermostCode (stack : List ParseTree) : List ParseTree :=
  match stack with
  | [] => []
  | t :: rest =>
    if t.holdsCode then t :: outermostCode rest else outermostCode (t.namedChildren ++ rest)
termination_by weightAll stack
decreasing_by
  · have := weight_eq t
    simp only [weightAll]
    omega
  · have : weightAll t.namedChildren ≤ weightAll t.children := weightAll_filter_le _ _
    simp only [weightAll, weightAll_append, weight_eq t]
    omega

theorem weight_le_of_mem_outermostCode {t : ParseTree} (stack : List ParseTree)
    (h : t ∈ outermostCode stack) : t.weight ≤ weightAll stack := by
  fun_induction outermostCode stack with
  | case1 => cases h
  | case2 u rest _ ih =>
    rw [weightAll]
    rcases List.mem_cons.1 h with rfl | h
    · omega
    · have := ih h
      omega
  | case3 u rest _ ih =>
    have hle := ih h
    have hf : weightAll u.namedChildren ≤ weightAll u.children := weightAll_filter_le _ _
    rw [weightAll_append] at hle
    rw [weightAll, weight_eq u]
    omega

/-- The outermost code-holding trees strictly below a tree. -/
def nestedCode (t : ParseTree) : List t.Below :=
  (outermostCode t.namedChildren).attach.map fun c => ⟨c.1, by
    have hle := weight_le_of_mem_outermostCode _ c.2
    have hf : weightAll t.namedChildren ≤ weightAll t.children := weightAll_filter_le _ _
    rw [weight_eq t]
    omega⟩

end ParseTree

end JavaCensus
