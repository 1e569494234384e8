import JavaCensus.Syntax.Node

/-!
# Adjacent comments

Which of the orphans of a node belong to one of its children: those on the lines of the child, and
the chain of comments that leads up to it without a blank line.
-/
namespace JavaCensus

namespace Node

/-- The first line of the node or of a comment placed in front of it. -/
def effectiveStart (n : Node) : Int :=
  let lines := (n.slots.comment.toList ++ n.slots.doc.toList).map (·.span.startLine)
  lines.foldl min n.span.startLine

end Node

/-- Scans comments from the bottom up, for a node from line `first` to line `last`, with the chain
reaching up to line `boundary` so far. The scan ends at the first comment that is not adjacent. -/
def scanAdjacent (first last : Int) (boundary : Int) : List Comment → List Comment
  | [] => []
  | c :: cs =>
    if c.span.startLine > last then scanAdjacent first last boundary cs
    else if c.span.startLine ≥ first then c :: scanAdjacent first last boundary cs
    else if boundary - 1 ≤ c.span.stopLine ∧ c.span.stopLine ≤ boundary then
      c :: scanAdjacent first last c.span.startLine cs
    else []

/-- The orphans that belong to the node rather than to the one that holds them, from the last one
up. -/
def adjacentComments (n : Node) (orphans : List Comment) : List Comment :=
  scanAdjacent n.effectiveStart n.span.stopLine n.effectiveStart (sortBy Comment.startsAfter orphans)

theorem scanAdjacent_sublist (first last boundary : Int) (cs : List Comment) :
    (scanAdjacent first last boundary cs).Sublist cs := by
  induction cs generalizing boundary with
  | nil => exact .slnil
  | cons c cs ih =>
    rw [scanAdjacent]
    split
    · exact (ih _).cons c
    · split
      · exact (ih _).cons_cons c
      · split
        · exact (ih _).cons_cons c
        · exact List.nil_sublist _

theorem mem_of_mem_adjacentComments {n : Node} {orphans : List Comment} {c : Comment}
    (h : c ∈ adjacentComments n orphans) : c ∈ orphans :=
  mem_sortBy.1 ((scanAdjacent_sublist _ _ _ _).mem h)

end JavaCensus
