import JavaCensus.Proofs.Placed
import JavaCensus.Proofs.Shape

/-!
# Placing adds to slots

Placing comments on a tree changes nothing of the tree but its slots. A slot that is taken keeps its
comment, and the orphans of a node stay in front of those that are added. The passes over the
children of a node work on the children sorted by their starts, so that the children have to be
brought back in their order.
-/
namespace JavaCensus

/-! ## Sorting related lists -/

section Sorting

variable {α β : Type} {R : α → β → Prop} {le : α → α → Bool} {le' : β → β → Bool}

theorem forall₂_insertSorted (same : ∀ a a' b b', R a a' → R b b' → le a b = le' a' b')
    {x : α} {y : β} (hxy : R x y) {xs : List α} {ys : List β} (h : List.Forall₂ R xs ys) :
    List.Forall₂ R (insertSorted le x xs) (insertSorted le' y ys) := by
  induction h with
  | nil => exact .cons hxy .nil
  | @cons a b as bs hab rest ih =>
    rw [insertSorted, insertSorted, same _ _ _ _ hxy hab]
    split
    · exact .cons hxy (.cons hab rest)
    · exact .cons hab ih

/-- Lists that are related element by element are so after sorting, if sorting cannot tell the
elements apart. -/
theorem forall₂_sortBy (same : ∀ a a' b b', R a a' → R b b' → le a b = le' a' b')
    {xs : List α} {ys : List β} (h : List.Forall₂ R xs ys) :
    List.Forall₂ R (sortBy le xs) (sortBy le' ys) := by
  induction h with
  | nil => exact .nil
  | cons hxy _ ih => exact forall₂_insertSorted same hxy ih

end Sorting

/-! ## Related lists -/

section Related

variable {α β γ : Type} {R : α → β → Prop} {R' : β → γ → Prop} {Q : α → γ → Prop}
  {as : List α} {bs : List β} {cs : List γ}

theorem forall₂_comp (comp : ∀ a b c, R a b → R' b c → Q a c) (h : List.Forall₂ R as bs)
    (k : List.Forall₂ R' bs cs) : List.Forall₂ Q as cs := by
  induction h generalizing cs with
  | nil =>
    cases k
    exact .nil
  | cons hab _ ih =>
    cases k with
    | cons hbc rest => exact .cons (comp _ _ _ hab hbc) (ih rest)

theorem forall₂_exists_of_mem_left (h : List.Forall₂ R as bs) {a : α} (ha : a ∈ as) :
    ∃ b ∈ bs, R a b := by
  induction h with
  | nil => cases ha
  | cons hab _ ih =>
    rcases List.mem_cons.1 ha with rfl | ha
    · exact ⟨_, List.mem_cons_self .., hab⟩
    · obtain ⟨b, hb, hab⟩ := ih ha
      exact ⟨b, List.mem_cons_of_mem _ hb, hab⟩

theorem forall₂_exists_of_mem_right (h : List.Forall₂ R as bs) {b : β} (hb : b ∈ bs) :
    ∃ a ∈ as, R a b :=
  forall₂_exists_of_mem_left (R := fun b a => R a b) h.flip hb

theorem forall₂_exists_of_getElem? (h : List.Forall₂ R as bs) {i : Nat} {b : β}
    (hb : bs[i]? = some b) : ∃ a, as[i]? = some a ∧ R a b := by
  obtain ⟨hi, rfl⟩ := List.getElem?_eq_some_iff.1 hb
  have ha : i < as.length := h.length_eq ▸ hi
  exact ⟨as[i], List.getElem?_eq_getElem ha, h.get ha hi⟩

end Related

/-! ## Siblings -/

namespace Sibling

/-- The same child, but for comments that may have come into slots. -/
def GrowsTo (s t : Sibling) : Prop :=
  s.number = t.number ∧ s.node.GrowsTo t.node

theorem GrowsTo.refl (s : Sibling) : s.GrowsTo s :=
  ⟨rfl, .refl _⟩

theorem GrowsTo.trans {s t u : Sibling} (h : s.GrowsTo t) (k : t.GrowsTo u) : s.GrowsTo u :=
  ⟨h.1.trans k.1, h.2.trans k.2⟩

/-- Sorted by their starts and then by their numbers, the children are numbered in their order. -/
theorem sortBy_byNumber_ofNode (n : Node) :
    sortBy byNumber (ofNode n) = n.children.mapIdx Sibling.mk := by
  have numbers : (n.children.mapIdx Sibling.mk).Pairwise (byNumber · ·) := by
    rw [List.pairwise_iff_getElem]
    intro i j hi hj lt
    simpa [byNumber] using Nat.le_of_lt lt
  have sorted : (sortBy byNumber (ofNode n)).Pairwise (byNumber · ·) :=
    pairwise_sortBy (fun a b c => by simpa [byNumber] using Nat.le_trans)
      (fun a b => by simpa [byNumber] using Nat.le_total _ _) _
  have perm : (sortBy byNumber (ofNode n)).Perm (n.children.mapIdx Sibling.mk) :=
    (sortBy_perm _ _).trans (sortBy_perm _ _)
  refine perm.eq_of_pairwise (fun a b ha hb hab hba => ?_) sorted numbers
  obtain ⟨i, hi, rfl⟩ := List.mem_mapIdx.1 (perm.mem_iff.1 ha)
  obtain ⟨j, hj, rfl⟩ := List.mem_mapIdx.1 hb
  obtain rfl : i = j := by
    simp only [byNumber, decide_eq_true_eq] at hab hba
    omega
  rfl

/-- Sorted by their starts and then by their numbers, the children are in their order again. -/
theorem restore_ofNode (n : Node) : restore (ofNode n) = n.children := by
  rw [restore, sortBy_byNumber_ofNode]
  exact List.ext_getElem (by simp) fun i _ _ => by simp

/-- What relates siblings of equal numbers relates the nodes in their order. -/
theorem forall₂_restore {R : Node → Node → Prop} {S T : List Sibling}
    (h : List.Forall₂ (fun s t => s.number = t.number ∧ R s.node t.node) S T) :
    List.Forall₂ R (restore S) (restore T) := by
  have sorted : List.Forall₂ (fun s t => s.number = t.number ∧ R s.node t.node)
      (sortBy byNumber S) (sortBy byNumber T) :=
    forall₂_sortBy (fun _ _ _ _ ha hb => by rw [byNumber, byNumber, ha.1, hb.1]) h
  rw [restore, restore, List.forall₂_map_left_iff, List.forall₂_map_right_iff]
  exact sorted.imp fun _ _ related => related.2

theorem forall₂_refl (S : List Sibling) : List.Forall₂ GrowsTo S S :=
  List.forall₂_same.2 fun s _ => .refl s

theorem forall₂_trans {S T U : List Sibling} (h : List.Forall₂ GrowsTo S T)
    (k : List.Forall₂ GrowsTo T U) : List.Forall₂ GrowsTo S U :=
  forall₂_comp (fun _ _ _ hst htu => hst.trans htu) h k

end Sibling

/-! ## Slots of a single node -/

namespace Node

theorem growsTo_of_slots {n : Node} {slots : Slots} (h : n.slots.ExtendedBy slots) :
    n.GrowsTo { n with slots := slots } :=
  .of_children ⟨rfl, rfl, h⟩ (List.forall₂_same.2 fun c _ => .refl c)

theorem growsTo_setComment {n : Node} (h : n.slots.comment = none) (c : Comment) :
    n.GrowsTo (n.setComment c) :=
  growsTo_of_slots ⟨by simp [h], fun _ h => h, List.prefix_refl _⟩

theorem growsTo_setDoc {n : Node} (h : n.slots.doc = none) (c : Comment) :
    n.GrowsTo (n.setDoc c) :=
  growsTo_of_slots ⟨fun _ h => h, by simp [h], List.prefix_refl _⟩

theorem growsTo_addOrphans (n : Node) (cs : List Comment) : n.GrowsTo (n.addOrphans cs) :=
  growsTo_of_slots ⟨fun _ h => h, fun _ h => h, List.prefix_append _ _⟩

end Node

/-! ## Passes -/

theorem attachTrailing_grows {c : Comment} {S T : List Sibling}
    (h : attachTrailing c S = some T) : List.Forall₂ Sibling.GrowsTo S T := by
  obtain ⟨before, s, after, rfl, -, free, rfl⟩ := attachTrailing_split h
  exact List.rel_append (Sibling.forall₂_refl before)
    (.cons ⟨rfl, Node.growsTo_setComment free c⟩ (Sibling.forall₂_refl after))

theorem placeTrailing_grows (S : List Sibling) (cs : List Comment) :
    List.Forall₂ Sibling.GrowsTo S (placeTrailing S cs).1 := by
  induction cs generalizing S with
  | nil => exact Sibling.forall₂_refl S
  | cons c cs ih =>
    rw [placeTrailing]
    split
    · rename_i T hT
      exact Sibling.forall₂_trans (attachTrailing_grows hT) (ih T)
    · exact ih S

theorem attachPreceding_grows {n m : Node} {c : Comment} (h : attachPreceding n c = some m) :
    n.GrowsTo m := by
  obtain ⟨-, ⟨-, -, free, rfl⟩ | ⟨free, rfl⟩⟩ := attachPreceding_cases h
  · exact Node.growsTo_setDoc free c
  · exact Node.growsTo_setComment free c

theorem placePreceding_grows (S : List Sibling) (cs : List Comment) :
    List.Forall₂ Sibling.GrowsTo S (placePreceding S cs).1 := by
  induction S generalizing cs with
  | nil => exact .nil
  | cons s rest ih =>
    have below := ih (afterStart s.node cs)
    obtain ⟨t, front, eq, ⟨rfl, -, -⟩ | ⟨c, n, -, attached, rfl⟩⟩ := placePreceding_cons s rest cs
    · rw [eq]
      exact .cons (.refl t) below
    · rw [eq]
      exact .cons ⟨rfl, attachPreceding_grows attached⟩ below

/-! ## Trees -/

namespace Node

theorem forall₂_zip {f : Node → List Comment → Node} {ns : List Node}
    (hf : ∀ n ∈ ns, ∀ cs, n.GrowsTo (f n cs)) {given : List (List Comment)}
    (length : given.length = ns.length) :
    List.Forall₂ GrowsTo ns ((ns.zip given).map fun c => f c.1 c.2) := by
  induction ns generalizing given with
  | nil => exact .nil
  | cons n ns ih =>
    obtain ⟨cs, given, rfl⟩ := List.exists_cons_of_length_eq_add_one length
    exact .cons (hf n (List.mem_cons_self ..) cs)
      (ih (fun m hm => hf m (List.mem_cons_of_mem _ hm)) (by simpa using length))

theorem growsTo_withChildren {n : Node} {children : List Node}
    (h : List.Forall₂ GrowsTo n.children children) : n.GrowsTo (n.withChildren children) := by
  refine .of_children ⟨rfl, n.construct.shape_refill children, .refl _⟩ ?_
  rwa [children_withChildren h.length_eq.symm]

/-- Placing keeps the tree and all that its slots hold. -/
theorem growsTo_placeSorted (n : Node) (cs : List Comment) : n.GrowsTo (n.placeSorted cs) := by
  induction n using Node.induction generalizing cs with
  | step n ih =>
    rw [placeSorted_eq]
    extract_lets children placed trailing preceding
    have below : n.GrowsTo placed :=
      growsTo_withChildren (forall₂_zip ih (length_delegated n cs))
    have passes : List.Forall₂ Sibling.GrowsTo (Sibling.ofNode placed) preceding.1 :=
      Sibling.forall₂_trans (placeTrailing_grows _ _)
        (placePreceding_grows trailing.1 trailing.2)
    have restored := Sibling.forall₂_restore passes
    rw [Sibling.restore_ofNode] at restored
    exact (below.trans (growsTo_withChildren restored)).trans (growsTo_addOrphans _ _)

theorem growsTo_place (n : Node) (cs : List Comment) : n.GrowsTo (n.place cs) :=
  n.growsTo_placeSorted _

/-- Placing puts each of the given comments in one slot, on top of what the slots hold. Wherever a
node stands, the same node stands there afterwards, with its taken slots and its orphans kept. -/
theorem place_adds_comments_to_slots (n : Node) (cs : List Comment) :
    (n.place cs).heldComments.Perm (n.heldComments ++ cs) ∧
      ∀ path, Option.Rel ExtendedBy (n.descend? path) ((n.place cs).descend? path) :=
  ⟨n.heldComments_place cs, n.growsTo_place cs⟩

end Node

end JavaCensus
