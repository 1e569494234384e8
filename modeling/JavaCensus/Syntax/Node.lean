import JavaCensus.Syntax.Comment
import JavaCensus.Syntax.Construct
import JavaCensus.Sorting

/-!
# Syntax trees

A node is a construct whose parts are nodes, with its span and the comments placed on it. Every
recursion over a tree goes from a node to its `children`; `Node.induction` is the matching
induction.
-/
namespace JavaCensus

/-- The comments placed on a node: in front of it (or behind it on its last line), its
documentation, and those inside it that belong to none of its parts. -/
structure Slots where
  comment : Option Comment
  doc : Option Comment
  orphans : List Comment
  deriving DecidableEq, Repr

namespace Slots

def empty : Slots := ⟨none, none, []⟩

/-- The placed comments, in no particular order. -/
def all (s : Slots) : List Comment :=
  s.comment.toList ++ s.doc.toList ++ s.orphans

def shift (k : Int) (s : Slots) : Slots :=
  ⟨s.comment.map (·.shift k), s.doc.map (·.shift k), s.orphans.map (·.shift k)⟩

end Slots

structure Node where
  span : Span
  slots : Slots
  construct : Construct Node

namespace Node

def children (n : Node) : List Node := n.construct.children

def label (n : Node) : String := n.construct.label

/-- A node on which no comment has been placed. -/
def bare (span : Span) (construct : Construct Node) : Node := ⟨span, .empty, construct⟩

theorem sizeOf_lt_of_mem_getD {c : Node} {o : Option (List Node)} (h : c ∈ o.getD []) :
    sizeOf c < sizeOf o := by
  cases o with
  | none => simp at h
  | some cs =>
    have := List.sizeOf_lt_of_mem h
    simp only [Option.getD_some, Option.some.sizeOf_spec] at this ⊢
    omega

theorem sizeOf_lt_of_mem_construct {c : Node} {x : Construct Node} (h : c ∈ x.children) :
    sizeOf c < sizeOf x := by
  cases x <;> simp [Construct.children] at h ⊢ <;>
    grind [→ List.sizeOf_lt_of_mem, → sizeOf_lt_of_mem_getD]

theorem sizeOf_lt_of_mem_children {c n : Node} (h : c ∈ n.children) : sizeOf c < sizeOf n := by
  have := sizeOf_lt_of_mem_construct h
  cases n
  simp only [mk.sizeOf_spec] at this ⊢
  omega

/-- What holds of a node once it holds of its children holds of every node. -/
theorem induction {motive : Node → Prop}
    (step : ∀ n, (∀ c ∈ n.children, motive c) → motive n) (n : Node) : motive n :=
  step n fun c _ => induction step c
termination_by n
decreasing_by exact sizeOf_lt_of_mem_children ‹_›

/-- The node and all its descendants, each before its own descendants. -/
def walk (n : Node) : List Node :=
  n :: n.children.attach.flatMap fun c => c.1.walk
termination_by n
decreasing_by exact sizeOf_lt_of_mem_children c.2

theorem walk_eq (n : Node) : n.walk = n :: n.children.flatMap walk := by
  rw [walk, List.flatMap_subtype (g := walk) fun _ _ => rfl, List.unattach_attach]

/-- The node itself, or its child of the given number, or that child's, and so on. -/
def descend? (n : Node) : List Nat → Option Node
  | [] => some n
  | i :: path => n.children[i]?.bind (·.descend? path)

/-- The comments placed on the node, by their start; of those that start together, orphans come
first and the documentation last. -/
def ownComments (n : Node) : List Comment :=
  let placed := sortBy Comment.startsBefore (n.slots.orphans ++ n.slots.comment.toList)
  sortBy Comment.startsBefore (placed ++ n.slots.doc.toList)

theorem ownComments_perm (n : Node) : (n.ownComments).Perm (n.slots.all) := by
  have h : (n.slots.orphans ++ n.slots.comment.toList ++ n.slots.doc.toList).Perm
      (n.slots.all) := by
    rw [Slots.all, List.append_assoc]
    exact List.perm_append_comm
  exact (sortBy_perm _ _).trans (((sortBy_perm _ _).append_right _).trans h)

end Node

end JavaCensus
