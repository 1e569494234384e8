import JavaCensus.Proofs.Walks

/-!
# Lineages

Where a node stands in a tree: the nodes above it, with the numbers of the children that lead down
to it. From its lineage follows what a declaration belongs to and which method a statement is part
of, whatever the order in which the tree is walked.
-/
namespace JavaCensus

structure Descent where
  parent : Node
  index : Nat

/-- The way down to a node, the last step first. -/
abbrev Lineage := List Descent

/-- The numbers of the children on the way down to a node, the last one first. -/
abbrev Place := List Nat

namespace Lineage

def place (above : Lineage) : Place :=
  above.map (·.index)

end Lineage

structure Occurrence where
  node : Node
  above : Lineage

def Node.occurrences (n : Node) (above : Lineage) : List Occurrence :=
  ⟨n, above⟩ :: n.children.zipIdx.attach.flatMap fun c =>
    c.1.1.occurrences (⟨n, c.1.2⟩ :: above)
termination_by n
decreasing_by exact sizeOf_lt_of_mem_children (List.fst_mem_of_mem_zipIdx c.2)

theorem flatMap_zipIdx {α β : Type} (f : α → List β) (xs : List α) (k : Nat) :
    ((xs.zipIdx k).flatMap fun c => f c.1) = xs.flatMap f := by
  conv_rhs => rw [← List.zipIdx_map_fst k xs]
  rw [List.flatMap_map]

namespace Node

theorem occurrences_eq (n : Node) (above : Lineage) : n.occurrences above =
    ⟨n, above⟩ :: n.children.zipIdx.flatMap fun c => c.1.occurrences (⟨n, c.2⟩ :: above) := by
  rw [occurrences, List.flatMap_subtype
    (g := fun c : Node × Nat => c.1.occurrences (⟨n, c.2⟩ :: above)) fun _ _ => rfl,
    List.unattach_attach]

theorem nodes_occurrences (n : Node) (above : Lineage) :
    (n.occurrences above).map (·.node) = n.walk := by
  induction n using Node.induction generalizing above with
  | step n ih =>
    rw [occurrences_eq, walk_eq, List.map_cons, List.map_flatMap]
    congr 1
    rw [← flatMap_zipIdx walk n.children 0]
    exact List.flatMap_congr fun c hc => ih c.1 (List.fst_mem_of_mem_zipIdx hc) _

theorem suffix_of_mem_occurrences {n : Node} {above : Lineage} {o : Occurrence}
    (h : o ∈ n.occurrences above) : above <:+ o.above := by
  induction n using Node.induction generalizing above with
  | step n ih =>
    rw [occurrences_eq, List.mem_cons, List.mem_flatMap] at h
    rcases h with rfl | ⟨c, hc, h⟩
    · exact List.suffix_refl _
    · exact (List.suffix_cons _ above).trans (ih c.1 (List.fst_mem_of_mem_zipIdx hc) h)

theorem parent_of_mem_occurrences {n : Node} {above : Lineage} {d : Occurrence}
    (h : d ∈ n.occurrences above) : d = ⟨n, above⟩ ∨
      ∃ o ∈ n.occurrences above, ∃ i, o.node.children[i]? = some d.node ∧
        d.above = ⟨o.node, i⟩ :: o.above := by
  induction n using Node.induction generalizing above with
  | step n ih =>
    rw [occurrences_eq, List.mem_cons, List.mem_flatMap] at h
    rcases h with rfl | ⟨c, hc, h⟩
    · exact .inl rfl
    right
    rcases ih c.1 (List.fst_mem_of_mem_zipIdx hc) h with rfl | ⟨o, ho, i, child, above⟩
    · refine ⟨⟨n, above⟩, ?_, c.2, List.mem_zipIdx_iff_getElem?.1 hc, rfl⟩
      rw [occurrences_eq]
      exact List.mem_cons_self ..
    · refine ⟨o, ?_, i, child, above⟩
      rw [occurrences_eq]
      exact List.mem_cons_of_mem _ (List.mem_flatMap.2 ⟨c, hc, ho⟩)

theorem nodup_places (n : Node) (above : Lineage) :
    ((n.occurrences above).map (·.above.place)).Nodup := by
  induction n using Node.induction generalizing above with
  | step n ih =>
    have below {c : Node × Nat} {place : Place}
        (h : place ∈ (c.1.occurrences (⟨n, c.2⟩ :: above)).map (·.above.place)) :
        c.2 :: above.place <:+ place := by
      obtain ⟨o, ho, rfl⟩ := List.mem_map.1 h
      exact (suffix_of_mem_occurrences ho).map (·.index)
    rw [occurrences_eq, List.map_cons, List.nodup_cons, List.map_flatMap, List.nodup_flatMap]
    refine ⟨fun h => ?_, fun c hc => ih c.1 (List.fst_mem_of_mem_zipIdx hc) _, ?_⟩
    · obtain ⟨c, -, h⟩ := List.mem_flatMap.1 h
      have longer := (below h).length_le
      rw [List.length_cons] at longer
      exact absurd longer (Nat.not_succ_le_self _)
    · rw [List.pairwise_iff_getElem]
      intro i j hi hj lt place first second
      have same := List.suffix_of_suffix_length_le (below first) (below second) (by simp)
      have eq := List.IsSuffix.eq_of_length same (by simp)
      simp only [List.getElem_zipIdx, List.cons.injEq] at eq
      omega

end Node

/-! ## Holders and methods -/

/-- What the element of a declaration belongs to. -/
inductive Holder where
  | unit
  | type (place : Place)
  | method (place : Place)
  deriving DecidableEq, Repr

/-- What the children of a construct belong to: one of the elements that it may stand for, or
whatever the construct itself belongs to. -/
inductive Scope where
  | unit
  | type
  | method
  | outer
  deriving DecidableEq, Repr

namespace Construct

variable {α : Type}

/-- The arguments of an object creation are outside of the class that it declares. -/
def scope (x : Construct α) (index : Nat) : Scope :=
  match x with
  | .compilationUnit .. => .unit
  | .typeDeclaration .. | .enumDeclaration .. | .enumConstant _ _ (some _) => .type
  | .objectCreation _ arguments (some _) => if index < arguments.length then .outer else .type
  | .callable .. | .initializerBlock .. => .method
  | _ => .outer

def isMethod : Construct α → Bool
  | .callable .. | .initializerBlock .. => true
  | _ => false

def isMember : Construct α → Bool
  | .callable .. | .initializerBlock .. | .fieldDeclaration .. | .enumConstant ..
  | .annotationMember .. => true
  | _ => false

def isFieldDeclaration : Construct α → Bool
  | .fieldDeclaration .. => true
  | _ => false

end Construct

namespace Lineage

/-- What a declaration belongs to, the nearest such node above it. -/
def holder : Lineage → Holder
  | [] => .unit
  | s :: above =>
    match s.parent.construct.scope s.index with
    | .unit => .unit
    | .type => .type (place above)
    | .method => .method (place above)
    | .outer => holder above

/-- The nearest member above, if that is a method, constructor or initializer. -/
def method? : Lineage → Option Place
  | [] => none
  | s :: above =>
    if s.parent.construct.isMethod then some (place above)
    else if s.parent.construct.isMember then none
    else method? above

def isVariable : Lineage → Bool
  | [] => false
  | s :: _ => s.parent.construct.isFieldDeclaration

end Lineage

end JavaCensus
