import JavaCensus.Collect.Ledger
import JavaCensus.Collect.Code
import Mathlib

/-!
# Walks over a syntax tree

Which nodes a walk meets, and which comments the nodes of a walk hold. A walk through code meets
nothing that a walk over the whole tree does not meet.
-/
namespace JavaCensus

namespace Node

theorem mem_walk_self (n : Node) : n ∈ n.walk := by
  rw [walk_eq]
  exact List.mem_cons_self ..

theorem mem_walk_of_mem_children {n c m : Node} (hc : c ∈ n.children) (hm : m ∈ c.walk) :
    m ∈ n.walk := by
  rw [walk_eq]
  exact List.mem_cons_of_mem _ (List.mem_flatMap.2 ⟨c, hc, hm⟩)

theorem mem_walk_trans {n m k : Node} (hm : m ∈ n.walk) (hk : k ∈ m.walk) : k ∈ n.walk := by
  induction n using Node.induction with
  | step n ih =>
    rw [walk_eq, List.mem_cons, List.mem_flatMap] at hm
    rcases hm with rfl | ⟨c, hc, hm⟩
    · exact hk
    · exact mem_walk_of_mem_children hc (ih c hc hm)

/-! ## Held comments -/

/-- The comments in the slots of a node and of all nodes below it. -/
def heldComments (n : Node) : List Comment :=
  n.walk.flatMap fun m => m.slots.all

theorem heldComments_eq (n : Node) :
    n.heldComments = n.slots.all ++ n.children.flatMap heldComments := by
  unfold heldComments
  rw [walk_eq, List.flatMap_cons, List.flatMap_assoc]

theorem subtreeComments_perm (n : Node) : n.subtreeComments.Perm n.heldComments := by
  unfold subtreeComments heldComments
  induction n.walk with
  | nil => exact .refl _
  | cons m ms ih => exact (ownComments_perm m).append ih

theorem slots_subset_heldComments {n m : Node} (h : m ∈ n.walk) : m.slots.all ⊆ n.heldComments :=
  fun _ hc => List.mem_flatMap.2 ⟨m, h, hc⟩

theorem orphans_subset_heldComments {n m : Node} (h : m ∈ n.walk) :
    m.slots.orphans ⊆ n.heldComments :=
  fun _ hc => slots_subset_heldComments h (List.mem_append_right _ hc)

theorem heldComments_subset_of_mem_walk {n m : Node} (h : m ∈ n.walk) :
    m.heldComments ⊆ n.heldComments := by
  intro c hc
  obtain ⟨k, hk, hc⟩ := List.mem_flatMap.1 hc
  exact slots_subset_heldComments (mem_walk_trans h hk) hc

theorem heldComments_subset_of_mem_children {n c : Node} (h : c ∈ n.children) :
    c.heldComments ⊆ n.heldComments :=
  heldComments_subset_of_mem_walk (mem_walk_of_mem_children h c.mem_walk_self)

end Node

/-! ## Walks through code -/

theorem mem_walk_of_claim_mem_visits {n parent m : Node} (h : .claim m ∈ visits n parent) :
    m ∈ n.walk := by
  induction n using Node.induction generalizing parent with
  | step n ih =>
    have deeper {cs : List Node} (hcs : ∀ c ∈ cs, c ∈ n.children)
        (h : .claim m ∈ cs.flatMap (visits · n)) : m ∈ n.walk := by
      obtain ⟨c, hc, h⟩ := List.mem_flatMap.1 h
      exact Node.mem_walk_of_mem_children (hcs c hc) (ih c (hcs c hc) h)
    rw [visits_eq] at h
    cases hr : n.construct.codeRole <;> simp only [hr, List.mem_append, List.mem_singleton,
      Visit.claim.injEq, reduceCtorEq, or_false] at h
    · exact deeper (fun c => Node.mem_children_of_mem_creationArguments) h
    · rcases h with (h | h) | rfl
      · unfold Node.ownCount at h
        split at h <;> simp at h
      · exact deeper (fun c h => h) h
      · exact m.mem_walk_self
    · rcases h with h | rfl
      · exact deeper (fun c h => h) h
      · exact m.mem_walk_self

/-- A type is met below the node whose code is walked, and so is the node that holds it, unless
the walk starts at the type. -/
theorem mem_walk_of_type_mem_visits {n parent t p : Node} (h : .type t p ∈ visits n parent) :
    t ∈ n.walk ∧ (p = parent ∨ p ∈ n.walk) := by
  induction n using Node.induction generalizing parent with
  | step n ih =>
    have deeper {cs : List Node} (hcs : ∀ c ∈ cs, c ∈ n.children)
        (h : .type t p ∈ cs.flatMap (visits · n)) : t ∈ n.walk ∧ (p = parent ∨ p ∈ n.walk) := by
      obtain ⟨c, hc, h⟩ := List.mem_flatMap.1 h
      obtain ⟨ht, hp⟩ := ih c (hcs c hc) h
      refine ⟨Node.mem_walk_of_mem_children (hcs c hc) ht, .inr ?_⟩
      rcases hp with rfl | hp
      · exact p.mem_walk_self
      · exact Node.mem_walk_of_mem_children (hcs c hc) hp
    rw [visits_eq] at h
    cases hr : n.construct.codeRole <;> simp only [hr, List.mem_append, List.mem_singleton,
      Visit.type.injEq, reduceCtorEq, or_false] at h
    · obtain ⟨rfl, rfl⟩ := h
      exact ⟨t.mem_walk_self, .inl rfl⟩
    · rcases h with h | ⟨rfl, rfl⟩
      · exact deeper (fun c => Node.mem_children_of_mem_creationArguments) h
      · exact ⟨t.mem_walk_self, .inl rfl⟩
    · rcases h with h | h
      · unfold Node.ownCount at h
        split at h <;> simp at h
      · exact deeper (fun c h => h) h
    · exact deeper (fun c h => h) h

end JavaCensus
