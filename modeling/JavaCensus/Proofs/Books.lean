import JavaCensus.Proofs.Claims

/-!
# Claiming into buckets

Claims can be made one by one and in any order, for single comments, for what a node holds, for
what is adjacent to it and for whole subtrees, each into a bucket of counters of the caller's
choice. What the buckets gain is then what has been claimed, each comment once, whichever places of
the tree it was claimed from and however often.
-/
namespace JavaCensus

open Attribution

/-- A ledger, and buckets in which claimed comments are counted. -/
structure Books (ι : Type) where
  ledger : Ledger
  counts : ι → CommentCounts

/-- A way to claim comments. -/
inductive Claiming where
  | single (c : Comment)
  | adjacent (n parent : Node)
  | attached (n : Node)
  | own (n : Node)
  | subtree (n : Node)

namespace Ledger

theorem claimAll_cons (l : Ledger) (c : Comment) (cs : List Comment) :
    l.claimAll (c :: cs) = (l.claim c).claimAll cs :=
  rfl

theorem fresh_nil (l : Ledger) : l.fresh [] = [] :=
  List.drop_length

theorem fresh_cons (l : Ledger) (c : Comment) (cs : List Comment) :
    l.fresh (c :: cs) = (if c ∈ l.claimed then [] else [c]) ++ (l.claim c).fresh cs := by
  have whole := l.claimed_claimAll (c :: cs)
  rw [claimAll_cons, claimed_claimAll, claimed_claim] at whole
  refine List.append_cancel_left (whole.symm.trans ?_)
  split <;> simp

end Ledger

namespace Claiming

/-- The step of collecting that claims in this way. -/
def attribution : Claiming → Attribution (List Comment)
  | single c => claim [c]
  | adjacent n parent => claimAdjacent n parent
  | attached n => claimAttached n
  | own n => claimOwn n
  | subtree n => claimSubtree n

/-- The comments that are claimed in turn, those apart that are claimed already. -/
def offered (l : Ledger) : Claiming → List Comment
  | single c => [c]
  | adjacent n parent => l.adjacentOrphans n parent
  | attached n => n.attachedComments
  | own n => n.ownComments
  | subtree n => n.subtreeComments

theorem returns_attribution (x : Claiming) (l : Ledger) :
    x.attribution.Returns l (l.fresh (x.offered l)) (l.claimAll (x.offered l)) := by
  cases x <;> exact returns_claim.2 ⟨rfl, rfl⟩

end Claiming

namespace Books

variable {ι : Type} [DecidableEq ι] (b : Books ι) (into : ι)

/-- Nothing is claimed, and the buckets have some counts already. -/
def opened (counts : ι → CommentCounts) : Books ι :=
  ⟨.empty, counts⟩

/-- Counts a comment in a bucket unless it is claimed, and tells whether it did. -/
def claim (c : Comment) : Bool × Books ι :=
  if b.ledger.isClaimed c then (false, b)
  else (true, ⟨b.ledger.claim c,
    Function.update b.counts into (b.counts into + .ofComment c)⟩)

def claimEach (cs : List Comment) : Books ι :=
  cs.foldl (fun b c => (b.claim into c).2) b

/-- Claims into a bucket, one comment at a time. -/
def perform : Claiming → Books ι
  | .single c => (b.claim into c).2
  | .adjacent n parent => b.claimEach into (b.ledger.adjacentOrphans n parent)
  | .attached n => b.claimEach into n.attachedComments
  | .own n => b.claimEach into n.ownComments
  | .subtree n => n.walk.foldl (fun b m => b.claimEach into m.ownComments) b

def run (steps : List (ι × Claiming)) : Books ι :=
  steps.foldl (fun b step => b.perform step.1 step.2) b

/-! ## One claim -/

theorem claim_iff {c : Comment} : (b.claim into c).1 = true ↔ c ∉ b.ledger.claimed := by
  unfold claim
  split <;> simp_all [Ledger.isClaimed]

theorem ledger_claim (c : Comment) : (b.claim into c).2.ledger = b.ledger.claim c := by
  unfold claim
  split
  · rename_i claimed
    rw [Ledger.claim, dif_pos (of_decide_eq_true claimed)]
  · rfl

theorem counts_claim (c : Comment) : (b.claim into c).2.counts = Function.update b.counts into
    (b.counts into + .ofComments (if c ∈ b.ledger.claimed then [] else [c])) := by
  unfold claim
  split
  · rename_i claimed
    have none : CommentCounts.ofComments [] = 0 := rfl
    rw [if_pos (of_decide_eq_true claimed), none, add_zero, Function.update_eq_self]
  · rename_i unclaimed
    have one : CommentCounts.ofComments [c] = .ofComment c := add_zero _
    rw [if_neg (mt decide_eq_true unclaimed), one]

/-! ## Claims in turn -/

variable {into}

theorem ledger_claimEach (cs : List Comment) :
    (b.claimEach into cs).ledger = b.ledger.claimAll cs := by
  induction cs generalizing b with
  | nil => rfl
  | cons c cs ih => exact (ih _).trans (by rw [ledger_claim, Ledger.claimAll_cons])

theorem counts_claimEach (cs : List Comment) : (b.claimEach into cs).counts =
    Function.update b.counts into (b.counts into + .ofComments (b.ledger.fresh cs)) := by
  induction cs generalizing b with
  | nil =>
    have none : CommentCounts.ofComments [] = 0 := rfl
    rw [Ledger.fresh_nil, none, add_zero, Function.update_eq_self]
    rfl
  | cons c cs ih =>
    have rest : b.claimEach into (c :: cs) = (b.claim into c).2.claimEach into cs := rfl
    rw [rest, ih, ledger_claim, counts_claim, Function.update_self, Function.update_idem,
      Ledger.fresh_cons, CommentCounts.ofComments_append, add_assoc]

/-- However comments are claimed, they are claimed one by one. -/
theorem perform_eq (x : Claiming) :
    b.perform into x = b.claimEach into (x.offered b.ledger) := by
  cases x with
  | single c => rfl
  | adjacent n parent => rfl
  | attached n => rfl
  | own n => rfl
  | subtree n => exact List.foldl_flatMap.symm

theorem ledger_perform (x : Claiming) :
    (b.perform into x).ledger = b.ledger.claimAll (x.offered b.ledger) := by
  rw [perform_eq, ledger_claimEach]

/-- Claiming into a bucket is the step of collecting, with what it gives counted in the bucket. -/
theorem perform_returns (x : Claiming) :
    ∃ taken, x.attribution.Returns b.ledger taken (b.perform into x).ledger ∧
      (b.perform into x).counts =
        Function.update b.counts into (b.counts into + .ofComments taken) := by
  refine ⟨b.ledger.fresh (x.offered b.ledger), ?_, ?_⟩
  · rw [ledger_perform]
    exact x.returns_attribution b.ledger
  · rw [perform_eq, counts_claimEach]

/-! ## Runs -/

theorem run_append (steps more : List (ι × Claiming)) :
    b.run (steps ++ more) = (b.run steps).run more :=
  List.foldl_append

theorem isPrefix_run (steps : List (ι × Claiming)) :
    b.ledger.claimed <+: (b.run steps).ledger.claimed := by
  induction steps generalizing b with
  | nil => exact List.prefix_refl _
  | cons step steps ih =>
    have first : b.ledger.claimed <+: (b.perform step.1 step.2).ledger.claimed := by
      rw [ledger_perform]
      exact b.ledger.isPrefix_claimAll _
    exact first.trans (ih _)

theorem perform_eq_run (x : Claiming) : b.perform into x =
    b.run ((x.offered b.ledger).map fun c => (into, .single c)) := by
  rw [perform_eq, run, List.foldl_map]
  rfl

theorem heldComments_subset_of_subtree (n : Node) :
    n.heldComments ⊆ (b.perform into (.subtree n)).ledger.claimed := by
  intro c hc
  rw [ledger_perform]
  exact Ledger.mem_claimAll.2 (.inr (n.subtreeComments_perm.mem_iff.2 hc))

variable [Fintype ι]

/-- All buckets together gain what is newly claimed. -/
theorem sum_perform (x : Claiming) : ∑ i, (b.perform into x).counts i =
    ∑ i, b.counts i + .ofComments (b.ledger.fresh (x.offered b.ledger)) := by
  rw [perform_eq, counts_claimEach, Finset.sum_update_of_mem (Finset.mem_univ into),
    add_right_comm, ← Finset.sum_eq_add_sum_sdiff_singleton_of_mem (Finset.mem_univ into)]

theorem sum_run (start : ι → CommentCounts) (steps : List (ι × Claiming)) :
    ∑ i, ((opened start).run steps).counts i =
      ∑ i, start i + .ofComments ((opened start).run steps).ledger.claimed := by
  induction steps using List.reverseRecOn with
  | nil => exact (add_zero _).symm
  | append_singleton steps step ih =>
    have last : (opened start).run (steps ++ [step]) =
        ((opened start).run steps).perform step.1 step.2 := run_append ..
    rw [last, sum_perform, ih, ledger_perform, Ledger.claimed_claimAll,
      CommentCounts.ofComments_append, add_assoc]

end Books

/-- The account of books that were opened with some counts. It also holds in the middle of a step,
since a step is a run of single claims. -/
structure Books.Accounts {ι : Type} [DecidableEq ι] [Fintype ι] (start : ι → CommentCounts)
    (b : Books ι) : Prop where
  counters : ∑ i, b.counts i = ∑ i, start i + (b.ledger.claimed.map (·.contribution)).sum
  size : (b.ledger.size : Int) = ∑ i, (b.counts i).comments - ∑ i, (start i).comments
  grows : ∀ more, b.ledger.claimed <+: (b.run more).ledger.claimed
  answers : ∀ into c, (b.claim into c).1 = true ↔ c ∉ b.ledger.claimed
  sweeps : ∀ into n, n.heldComments ⊆ (b.perform into (.subtree n)).ledger.claimed
  singly : ∀ into x, b.perform into x =
    b.run ((x.offered b.ledger).map fun c => (into, .single c))
  collects : ∀ into x, ∃ taken,
    x.attribution.Returns b.ledger taken (b.perform into x).ledger ∧
      (b.perform into x).counts = Function.update b.counts into (b.counts into + .ofComments taken)

/-- Whatever is claimed, and into whichever buckets, the account holds after each step. -/
theorem Books.run_accounts {ι : Type} [DecidableEq ι] [Fintype ι] (start : ι → CommentCounts)
    (steps : List (ι × Claiming)) : ((opened start).run steps).Accounts start where
  counters := by rw [sum_run, CommentCounts.ofComments_eq_sum]
  size := by
    have comments (counts : ι → CommentCounts) :
        (∑ i, counts i).comments = ∑ i, (counts i).comments :=
      map_sum (AddMonoidHom.mk' _ CommentCounts.comments_add) counts Finset.univ
    have balance := congrArg CommentCounts.comments (sum_run start steps)
    rw [CommentCounts.comments_add, CommentCounts.comments_ofComments, comments, comments]
      at balance
    rw [Ledger.size]
    omega
  grows := isPrefix_run _
  answers into _ := claim_iff _ into
  sweeps _ n := heldComments_subset_of_subtree _ n
  singly _ x := perform_eq_run _ x
  collects _ x := perform_returns _ x

end JavaCensus
