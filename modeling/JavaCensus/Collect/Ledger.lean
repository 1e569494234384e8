import JavaCensus.Collect.Adjacent
import JavaCensus.Error

/-!
# The ledger of claimed comments

While a unit is collected, a ledger lists the comments that some element has claimed, in the order
of the claims. A comment can be claimed once, so it is counted once however many places of the tree
hold it. The tree itself is never changed. An attribution is a step of collecting: it may fail, and
what it has claimed by then stays claimed.
-/
namespace JavaCensus

structure Ledger where
  claimed : List Comment
  distinct : claimed.Nodup
  deriving Repr

namespace Ledger

def empty : Ledger := ⟨[], .nil⟩

def size (l : Ledger) : Nat := l.claimed.length

def isClaimed (l : Ledger) (c : Comment) : Bool := c ∈ l.claimed

/-- Enters a comment unless it is there. -/
def claim (l : Ledger) (c : Comment) : Ledger :=
  if h : c ∈ l.claimed then l
  else ⟨l.claimed ++ [c], List.nodup_append.2 ⟨l.distinct, by simp, fun a ha b hb => by
    rw [List.mem_singleton.1 hb]
    exact fun e => h (e ▸ ha)⟩⟩

theorem claimed_claim (l : Ledger) (c : Comment) :
    (l.claim c).claimed = if c ∈ l.claimed then l.claimed else l.claimed ++ [c] := by
  unfold claim
  split <;> rfl

theorem mem_claim {l : Ledger} {c d : Comment} :
    d ∈ (l.claim c).claimed ↔ d ∈ l.claimed ∨ d = c := by
  rw [claimed_claim]
  split
  · rename_i h
    exact ⟨.inl, fun k => k.elim id fun e => e ▸ h⟩
  · rw [List.mem_append, List.mem_singleton]

def claimAll (l : Ledger) (cs : List Comment) : Ledger :=
  cs.foldl claim l

theorem mem_claimAll {l : Ledger} {cs : List Comment} {d : Comment} :
    d ∈ (l.claimAll cs).claimed ↔ d ∈ l.claimed ∨ d ∈ cs := by
  induction cs generalizing l with
  | nil => simp [claimAll]
  | cons c cs ih =>
    rw [show l.claimAll (c :: cs) = (l.claim c).claimAll cs from rfl, ih, mem_claim, or_assoc,
      List.mem_cons]

theorem isPrefix_claimAll (l : Ledger) (cs : List Comment) :
    l.claimed <+: (l.claimAll cs).claimed := by
  induction cs generalizing l with
  | nil => exact List.prefix_refl _
  | cons c cs ih =>
    refine List.IsPrefix.trans ?_ (ih (l.claim c))
    rw [claimed_claim]
    split
    · exact List.prefix_refl _
    · exact List.prefix_append _ _

/-- Those of the comments that are newly claimed when all are claimed in turn. -/
def fresh (l : Ledger) (cs : List Comment) : List Comment :=
  (l.claimAll cs).claimed.drop l.size

/-- What is newly claimed stands behind what was claimed before. -/
theorem claimed_claimAll (l : Ledger) (cs : List Comment) :
    (l.claimAll cs).claimed = l.claimed ++ l.fresh cs := by
  obtain ⟨rest, h⟩ := isPrefix_claimAll l cs
  rw [fresh, ← h, size, List.drop_left]

/-- The orphans of a node that are not claimed. -/
def unclaimedOrphans (l : Ledger) (n : Node) : List Comment :=
  n.slots.orphans.filter fun c => !l.isClaimed c

/-- The orphans of the parent that are adjacent to the node. -/
def adjacentOrphans (l : Ledger) (n parent : Node) : List Comment :=
  adjacentComments n (l.unclaimedOrphans parent)

end Ledger

/-- The comment and the documentation placed on a node. -/
def Node.attachedComments (n : Node) : List Comment :=
  n.slots.comment.toList ++ n.slots.doc.toList

/-- The comments placed on a node or below it. -/
def Node.subtreeComments (n : Node) : List Comment :=
  n.walk.flatMap (·.ownComments)

abbrev Attribution := ExceptT Error (StateM Ledger)

namespace Attribution

/-- Claims what is not claimed yet, and gives it. -/
def claim (cs : List Comment) : Attribution (List Comment) := do
  let before ← get
  set (before.claimAll cs)
  return before.fresh cs

def claimAdjacent (n parent : Node) : Attribution (List Comment) := do
  claim ((← get).adjacentOrphans n parent)

def claimOwn (n : Node) : Attribution (List Comment) :=
  claim n.ownComments

def claimAttached (n : Node) : Attribution (List Comment) :=
  claim n.attachedComments

def claimSubtree (n : Node) : Attribution (List Comment) :=
  claim n.subtreeComments

/-- The value, or failure for want of it. -/
def require {α : Type} (x : Except Error α) : Attribution α :=
  ExceptT.mk (pure x)

/-- Runs a step for each element of a list, which the step may use to be one. -/
def each {α β : Type} : (xs : List α) → ((x : α) → x ∈ xs → Attribution β) →
    Attribution (List β)
  | [], _ => pure []
  | x :: xs, f => do
    let y ← f x (List.mem_cons_self ..)
    let ys ← each xs fun a h => f a (List.mem_cons_of_mem _ h)
    return y :: ys

end Attribution

end JavaCensus
