import JavaCensus.Syntax.Node

/-!
# Placing comments

Comments are placed from the top of a tree down. Those that lie within a child are placed on that
child's side. Of the others, a line comment behind a child on its last line becomes the comment of
that child, and the last comment before a child, with no blank line between them, becomes its
comment or its documentation. The rest are orphans of the node. Every comment ends in one slot.
-/
namespace JavaCensus

/-- A child together with its number among the children of its parent. -/
structure Sibling where
  number : Nat
  node : Node

namespace Sibling

def startsBefore (a b : Sibling) : Bool :=
  a.node.span.start ≤ b.node.span.start

def byNumber (a b : Sibling) : Bool :=
  a.number ≤ b.number

/-- The children of a node, by their start. -/
def ofNode (n : Node) : List Sibling :=
  sortBy startsBefore (n.children.mapIdx Sibling.mk)

/-- The nodes in the order of their numbers. -/
def restore (siblings : List Sibling) : List Node :=
  (sortBy byNumber siblings).map (·.node)

end Sibling

def Node.setComment (n : Node) (c : Comment) : Node :=
  { n with slots := { n.slots with comment := some c } }

def Node.setDoc (n : Node) (c : Comment) : Node :=
  { n with slots := { n.slots with doc := some c } }

def Node.addOrphans (n : Node) (cs : List Comment) : Node :=
  { n with slots := { n.slots with orphans := n.slots.orphans ++ cs } }

/-- The number of the first sibling whose span contains that of the comment. -/
def owner? (siblings : List Sibling) (c : Comment) : Option Nat :=
  (siblings.find? fun s => s.node.span.contains c.span).map (·.number)

/-- Whether a line comment stands behind the node on its last line. -/
def trails (n : Node) (c : Comment) : Bool :=
  c.kind = .line && n.span.stopLine = c.span.startLine && n.span.stop ≤ c.span.start

/-- Puts a trailing comment on the last sibling that it trails, if that one has no comment yet. -/
def attachTrailing (c : Comment) : List Sibling → Option (List Sibling)
  | [] => none
  | s :: rest =>
    if rest.any fun r => trails r.node c then (attachTrailing c rest).map (s :: ·)
    else if trails s.node c && s.node.slots.comment.isNone then
      some (⟨s.number, s.node.setComment c⟩ :: rest)
    else none

/-- The siblings with the trailing comments on them, and the comments that are left. -/
def placeTrailing (siblings : List Sibling) : List Comment → List Sibling × List Comment
  | [] => (siblings, [])
  | c :: cs =>
    match attachTrailing c siblings with
    | some siblings => placeTrailing siblings cs
    | none =>
      let (siblings, left) := placeTrailing siblings cs
      (siblings, c :: left)

/-- The node with a comment in front of it, unless a blank line parts them or the slot is taken. -/
def attachPreceding (n : Node) (c : Comment) : Option Node :=
  if n.span.startLine - c.span.stopLine > 1 then none
  else if c.kind = .doc && n.construct.isDocumentable && n.slots.doc.isNone then some (n.setDoc c)
  else if n.slots.comment.isNone then some (n.setComment c)
  else none

/-- The comments that start no later than the node, of comments sorted by their start. -/
def upToStart (n : Node) (cs : List Comment) : List Comment :=
  cs.takeWhile fun c => c.span.start ≤ n.span.start

def afterStart (n : Node) (cs : List Comment) : List Comment :=
  cs.dropWhile fun c => c.span.start ≤ n.span.start

/-- Gives each sibling in turn the last of the comments that start between it and the sibling
before it. Comments and siblings are sorted by their start. -/
def placePreceding : List Sibling → List Comment → List Sibling × List Comment
  | [], cs => ([], cs)
  | s :: rest, cs =>
    let before := upToStart s.node cs
    let (rest, left) := placePreceding rest (afterStart s.node cs)
    match before.getLast?.bind (attachPreceding s.node) with
    | some n => (⟨s.number, n⟩ :: rest, before.dropLast ++ left)
    | none => (s :: rest, before ++ left)

/-- The comments that each child is given, in the order of the children. -/
def delegated (n : Node) (cs : List Comment) : List (List Comment) :=
  let siblings := Sibling.ofNode n
  n.children.mapIdx fun i _ => cs.filter fun c => owner? siblings c = some i

/-- The comments that lie within no child. -/
def undelegated (n : Node) (cs : List Comment) : List Comment :=
  cs.filter fun c => (owner? (Sibling.ofNode n) c).isNone

/-- Places comments, sorted by their start, on a node and below it. -/
def Node.placeSorted (n : Node) (cs : List Comment) : Node :=
  let children := (n.children.zip (delegated n cs)).attach.map fun c => c.1.1.placeSorted c.1.2
  let placed : Node := { n with construct := n.construct.refill children }
  let (siblings, left) := placeTrailing (Sibling.ofNode placed) (undelegated n cs)
  let (siblings, left) := placePreceding siblings left
  { placed with construct := placed.construct.refill (Sibling.restore siblings) }.addOrphans left
termination_by n
decreasing_by exact sizeOf_lt_of_mem_children (List.of_mem_zip c.2).1

/-- Places comments on a node and below it. -/
def Node.place (n : Node) (cs : List Comment) : Node :=
  n.placeSorted (sortBy Comment.startsBefore cs)

end JavaCensus
