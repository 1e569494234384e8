import JavaCensus.Proofs.Passes

/-!
# Where comments come to rest

A comment comes to rest at the last of the nodes that lead down to it: among the orphans of that
node, or with one of its children. A child takes it as documentation or as a comment in front of it,
or as a comment behind it on its last line. It stays an orphan only where the slot that it would
take is taken.
-/
namespace JavaCensus

/-! ## The rule -/

/-- The numbers of the children that lead down to the comment: the first child, by start, whose span
contains it, then the first such child of that one, until there is none. -/
def Node.pathTo (n : Node) (c : Comment) : List Nat :=
  match h : owner? (Sibling.ofNode n) c with
  | none => []
  | some i => i :: (n.children.get ⟨i, owner?_lt h⟩).pathTo c
termination_by n
decreasing_by exact sizeOf_lt_of_mem_children (List.get_mem ..)

/-- The comment starts no later than the node, with no blank line between them. -/
def Comment.StandsBefore (c : Comment) (n : Node) : Prop :=
  c.span.start ≤ n.span.start ∧ n.span.startLine - c.span.stopLine ≤ 1

/-- The last child of the node that the comment trails has it in its slot. -/
def TakenBehind (n : Node) (c : Comment) : Prop :=
  ∃ s, trailed? (Sibling.ofNode n) c = some s ∧ s.node.slots.comment = some c

/-- The comments that end up at a node lie in its slots and in those of its children as the rule
has it, and an orphan is one that found its slot taken. -/
structure Settled (n : Node) (own : Comment → Prop) : Prop where
  placed : ∀ c, own c → c ∈ n.slots.orphans ∨
    ∃ d ∈ n.children, d.slots.comment = some c ∨ d.slots.doc = some c
  orphan : ∀ c ∈ n.slots.orphans, own c
  doc : ∀ d ∈ n.children, ∀ c, d.slots.doc = some c →
    own c ∧ c.kind = .doc ∧ d.construct.isDocumentable ∧ c.StandsBefore d
  comment : ∀ d ∈ n.children, ∀ c, d.slots.comment = some c →
    own c ∧ (c.StandsBefore d ∨ trails d c)
  behind : ∀ c ∈ n.slots.orphans, ∀ s, trailed? (Sibling.ofNode n) c = some s →
    s.node.slots.comment.isSome
  inFront : ∀ c ∈ n.slots.orphans, ∀ s, followed? (Sibling.ofNode n) c = some s →
    s.node.span.startLine - c.span.stopLine ≤ 1 →
    (∀ d, own d → ¬TakenBehind n d → d.span.start ≤ s.node.span.start →
      d.span.start ≤ c.span.start) →
    s.node.slots.comment.isSome ∧ ¬(c.kind = .doc ∧ s.node.construct.isDocumentable)

/-! ## One child -/

section Child

variable {S : List Sibling} {s t u : Sibling} {c : Comment} {cs left : List Comment}

theorem TakesBehind.grows (h : TakesBehind S cs left s t) : s.GrowsTo t := by
  cases h with
  | kept => exact .refl s
  | taken _ _ _ free => exact ⟨rfl, Node.growsTo_setComment free _⟩

theorem TakesInFront.grows (h : TakesInFront left t u) : t.GrowsTo u := by
  cases h with
  | kept => exact .refl t
  | taken _ _ attached => exact ⟨rfl, attachPreceding_grows attached⟩

theorem TakesBehind.doc_eq (h : TakesBehind S cs left s t) :
    t.node.slots.doc = s.node.slots.doc := by
  cases h <;> rfl

/-- A comment in an empty slot came there by the first pass. -/
theorem TakesBehind.comment (h : TakesBehind S cs left s t) (empty : s.node.slots.comment = none)
    (hc : t.node.slots.comment = some c) :
    c ∈ cs ∧ c ∉ left ∧ (trailed? S c).map (·.number) = some t.number := by
  cases h with
  | kept => simp [empty] at hc
  | taken given gone last _ =>
    obtain rfl := Option.some.inj hc
    exact ⟨given, gone, last⟩

/-- A comment was in its slot before the second pass or was taken from in front of the node. -/
theorem TakesInFront.comment (h : TakesInFront left t u) (hc : u.node.slots.comment = some c) :
    t.node.slots.comment = some c ∨ c ∈ left ∧ c.StandsBefore u.node := by
  cases h with
  | kept => exact .inl hc
  | taken given before attached =>
    obtain ⟨near, ⟨-, -, -, rfl⟩ | ⟨-, rfl⟩⟩ := attachPreceding_cases attached
    · exact .inl hc
    · obtain rfl := Option.some.inj hc
      exact .inr ⟨given, before, near⟩

/-- Documentation was there before the second pass or was taken from in front of the node. -/
theorem TakesInFront.doc (h : TakesInFront left t u) (hc : u.node.slots.doc = some c) :
    t.node.slots.doc = some c ∨
      c ∈ left ∧ c.kind = .doc ∧ u.node.construct.isDocumentable ∧ c.StandsBefore u.node := by
  cases h with
  | kept => exact .inl hc
  | taken given before attached =>
    obtain ⟨near, ⟨kind, documentable, -, rfl⟩ | ⟨-, rfl⟩⟩ := attachPreceding_cases attached
    · obtain rfl := Option.some.inj hc
      exact .inr ⟨given, kind, documentable, before, near⟩
    · exact .inl hc

/-- The node without what its parent's passes write to. -/
def Node.SameInside (m n : Node) : Prop :=
  n.construct = m.construct ∧ n.slots.orphans = m.slots.orphans

theorem Node.SameInside.trans {k m n : Node} (h : k.SameInside m) (l : m.SameInside n) :
    k.SameInside n :=
  ⟨l.1.trans h.1, l.2.trans h.2⟩

theorem TakesBehind.sameInside (h : TakesBehind S cs left s t) : s.node.SameInside t.node := by
  cases h <;> exact ⟨rfl, rfl⟩

theorem TakesInFront.sameInside (h : TakesInFront left t u) : t.node.SameInside u.node := by
  cases h with
  | kept => exact ⟨rfl, rfl⟩
  | taken _ _ attached =>
    obtain ⟨-, ⟨-, -, -, rfl⟩ | ⟨-, rfl⟩⟩ := attachPreceding_cases attached <;> exact ⟨rfl, rfl⟩

end Child

/-! ## One node -/

namespace Sibling

theorem nodup_number_ofNode (n : Node) : ((ofNode n).map (·.number)).Nodup := by
  have numbers : (n.children.mapIdx Sibling.mk).map (·.number) = List.range n.children.length :=
    List.ext_getElem (by simp) fun i _ _ => by simp
  have perm : ((ofNode n).map (·.number)).Perm (List.range n.children.length) := by
    rw [← numbers]
    exact (sortBy_perm _ _).map _
  exact perm.nodup_iff.2 List.nodup_range

theorem mem_restore {S : List Sibling} {m : Node} : m ∈ restore S ↔ ∃ s ∈ S, s.node = m := by
  simp only [restore, List.mem_map, mem_sortBy]

/-- Siblings that are numbered as the children of a node are these children with their numbers. -/
theorem mapIdx_node {S : List Sibling} {ns : List Node}
    (numbers : S.map (·.number) = (ns.mapIdx Sibling.mk).map (·.number)) :
    (S.map (·.node)).mapIdx Sibling.mk = S := by
  have number (i : Nat) (hi : i < S.length) : S[i].number = i := by
    have length := congrArg List.length numbers
    have entry := congrArg (·[i]?) numbers
    simp only [List.length_map, List.length_mapIdx] at length
    simpa [hi, length ▸ hi] using entry
  refine List.ext_getElem (by simp) fun i hi hi' => ?_
  rw [List.getElem_mapIdx, List.getElem_map]
  exact congrArg (Sibling.mk · _) (number i hi').symm

theorem eq_of_perm_of_number {S T : List Sibling} (perm : S.Perm T)
    (same : S.map (·.number) = T.map (·.number)) (distinct : (S.map (·.number)).Nodup) :
    S = T := by
  refine List.ext_getElem perm.length_eq fun i hi hi' => ?_
  have number : S[i].number = T[i].number := by
    simpa [hi, hi'] using congrArg (·[i]?) same
  exact List.inj_on_of_nodup_map distinct (List.getElem_mem hi)
    (perm.mem_iff.2 (List.getElem_mem hi')) number

/-- Siblings put back in their order and sorted again are the siblings that they were. -/
theorem ofNode_eq_of_restore {n m : Node} {U : List Sibling}
    (grown : List.Forall₂ GrowsTo (ofNode n) U) (back : m.children = restore U) :
    ofNode m = U := by
  have order : List.Forall₂ GrowsTo (n.children.mapIdx Sibling.mk) (sortBy byNumber U) := by
    rw [← sortBy_byNumber_ofNode]
    exact forall₂_sortBy (fun _ _ _ _ ha hb => by rw [byNumber, byNumber, ha.1, hb.1]) grown
  have children : m.children.mapIdx Sibling.mk = sortBy byNumber U := by
    rw [back, restore, mapIdx_node (map_number order)]
  have sorted : List.Forall₂ GrowsTo (ofNode n) (ofNode m) := by
    rw [ofNode, ofNode, children]
    refine forall₂_sortBy ?_ order
    intro a a' b b' ha hb
    rw [startsBefore, startsBefore, ha.2.node.span, hb.2.node.span]
  refine eq_of_perm_of_number ?_ ?_ (nodup_number_ofNode m)
  · rw [ofNode, children]
    exact (sortBy_perm _ _).trans (sortBy_perm _ _)
  · rw [map_number sorted, map_number grown]

end Sibling

theorem Settled.congr {n m : Node} {own : Comment → Prop} (h : Settled n own)
    (same : n.SameInside m) : Settled m own := by
  have children : m.children = n.children := congrArg Construct.children same.1
  have siblings : Sibling.ofNode m = Sibling.ofNode n := by
    rw [Sibling.ofNode, Sibling.ofNode, children]
  have behind (d : Comment) : TakenBehind m d ↔ TakenBehind n d := by
    rw [TakenBehind, TakenBehind, siblings]
  constructor
  · rw [same.2, children]
    exact h.placed
  · rw [same.2]
    exact h.orphan
  · rw [children]
    exact h.doc
  · rw [children]
    exact h.comment
  · rw [same.2, siblings]
    exact h.behind
  · simp only [same.2, siblings, behind]
    exact h.inFront

/-- What becomes of the children of a node, on whose slots there is no comment, in both passes. -/
structure Passed (n : Node) (own : List Comment) (T : List Sibling) (between : List Comment)
    (U : List Sibling) (left : List Comment) : Prop where
  ascending : Ascending own
  bare : ∀ c ∈ n.children, c.slots.comment = none ∧ c.slots.doc = none
  trailing : placeTrailing (Sibling.ofNode n) own = (T, between)
  preceding : placePreceding T between = (U, left)

namespace Passed

variable {n : Node} {own between left : List Comment} {T U : List Sibling} {c : Comment}
  {u : Sibling} (h : Passed n own T between U left)
include h

theorem between_sublist : between.Sublist own := by
  have sub := placeTrailing_sublist (Sibling.ofNode n) own
  rwa [h.trailing] at sub

theorem left_subset : left ⊆ between := by
  have sub := placePreceding_subset T between
  rwa [h.preceding] at sub

theorem takesBehind : List.Forall₂ (TakesBehind (Sibling.ofNode n) own between)
    (Sibling.ofNode n) T := by
  have takes := placeTrailing_takes (Sibling.ofNode n) h.ascending.nodup
  rwa [h.trailing] at takes

theorem takesInFront : List.Forall₂ (TakesInFront between) T U := by
  have takes := placePreceding_takes T between
  rwa [h.preceding] at takes

theorem grown : List.Forall₂ Sibling.GrowsTo (Sibling.ofNode n) T :=
  h.takesBehind.imp fun _ _ takes => takes.grows

theorem grows : List.Forall₂ Sibling.GrowsTo (Sibling.ofNode n) U :=
  Sibling.forall₂_trans h.grown (h.takesInFront.imp fun _ _ takes => takes.grows)

theorem sameInside : List.Forall₂ Node.SameInside n.children (Sibling.restore U) := by
  rw [← Sibling.restore_ofNode n]
  refine Sibling.forall₂_restore (forall₂_comp ?_ h.takesBehind h.takesInFront)
  intro s t u behind inFront
  exact ⟨(behind.grows.trans inFront.grows).1, behind.sameInside.trans inFront.sameInside⟩

theorem nodup_number : (T.map (·.number)).Nodup := by
  rw [Sibling.map_number h.grown]
  exact Sibling.nodup_number_ofNode n

/-- Each sibling as it was after the first pass, and before it with no comment on it. -/
theorem origin (hu : u ∈ U) : ∃ t ∈ T, TakesInFront between t u ∧
    ∃ s ∈ Sibling.ofNode n, TakesBehind (Sibling.ofNode n) own between s t ∧
      s.node.slots.comment = none ∧ s.node.slots.doc = none := by
  obtain ⟨t, ht, inFront⟩ := forall₂_exists_of_mem_right h.takesInFront hu
  obtain ⟨s, hs, behind⟩ := forall₂_exists_of_mem_right h.takesBehind ht
  obtain ⟨i, hi, rfl⟩ := List.mem_mapIdx.1 (mem_sortBy.1 hs)
  exact ⟨t, ht, inFront, _, hs, behind, h.bare _ (List.getElem_mem hi)⟩

theorem comment (hu : u ∈ U) (hc : u.node.slots.comment = some c) :
    c ∈ own ∧ (c.StandsBefore u.node ∨ trails u.node c) := by
  obtain ⟨t, -, inFront, s, hs, behind, empty, -⟩ := h.origin hu
  rcases inFront.comment hc with hc | ⟨given, stands⟩
  · obtain ⟨given, -, last⟩ := behind.comment empty hc
    obtain ⟨r, hr, number⟩ := Option.map_eq_some_iff.1 last
    obtain rfl : r = s := List.inj_on_of_nodup_map (Sibling.nodup_number_ofNode n)
      (mem_of_trailed? hr).1 hs (number.trans behind.grows.1.symm)
    refine ⟨given, .inr ?_⟩
    rw [(behind.grows.trans inFront.grows).trails]
    exact (mem_of_trailed? hr).2
  · exact ⟨h.between_sublist.mem given, .inl stands⟩

theorem doc (hu : u ∈ U) (hc : u.node.slots.doc = some c) :
    c ∈ own ∧ c.kind = .doc ∧ u.node.construct.isDocumentable ∧ c.StandsBefore u.node := by
  obtain ⟨t, -, inFront, s, -, behind, -, undocumented⟩ := h.origin hu
  rcases inFront.doc hc with hc | ⟨given, documents⟩
  · rw [behind.doc_eq, undocumented] at hc
    cases hc
  · exact ⟨h.between_sublist.mem given, documents⟩

/-- The last sibling that a comment left by the first pass trails has another comment, which the
first pass put there. -/
theorem slot_taken (hc : c ∈ between) (last : trailed? U c = some u) :
    ∃ d, u.node.slots.comment = some d ∧ d ∉ between := by
  obtain ⟨t, ht, inFront, s, -, behind, empty, -⟩ := h.origin (mem_of_trailed? last).1
  have number : (trailed? (Sibling.ofNode n) c).map (·.number) = some t.number := by
    rw [← Sibling.map_number_trailed? h.grows, last, Option.map_some, inFront.grows.1]
  have hc : c ∈ (placeTrailing (Sibling.ofNode n) own).2 := by
    rwa [h.trailing]
  have ht : t ∈ (placeTrailing (Sibling.ofNode n) own).1 := by
    rwa [h.trailing]
  have filled : t.node.slots.comment.isSome :=
    isSome_of_mem_placeTrailing (Sibling.nodup_number_ofNode n) hc ht number
  obtain ⟨d, hd⟩ := Option.isSome_iff_exists.1 filled
  exact ⟨d, inFront.grows.2.node.slots.comment d hd, (behind.comment empty hd).2.1⟩

/-- The sibling that follows a comment left by both passes is taken, if the comment is the last one
before it of those that the second pass was given. -/
theorem slot_taken_inFront (hc : c ∈ left) (next : followed? U c = some u)
    (near : u.node.span.startLine - c.span.stopLine ≤ 1)
    (last : ∀ d ∈ between, d.span.start ≤ u.node.span.start → d.span.start ≤ c.span.start) :
    u.node.slots.comment.isSome ∧ ¬(c.kind = .doc ∧ u.node.construct.isDocumentable) := by
  obtain ⟨t, ht, inFront, s, -, behind, -, undocumented⟩ := h.origin (mem_of_followed? next).1
  have span := inFront.grows.2.node.span
  have follows : followed? T c = some t := by
    have number : (followed? T c).map (·.number) = some t.number := by
      rw [← Sibling.map_number_followed? (h.takesInFront.imp fun _ _ takes => takes.grows), next,
        Option.map_some, inFront.grows.1]
    obtain ⟨r, hr, number⟩ := Option.map_eq_some_iff.1 number
    rw [hr, List.inj_on_of_nodup_map h.nodup_number (mem_of_followed? hr).1 ht number]
  have refused : attachPreceding t.node c = none := by
    refine attachPreceding_eq_none_of_mem (h.ascending.sublist h.between_sublist) ?_ follows ?_
    · rw [h.preceding]
      exact hc
    · rwa [← span]
  obtain ⟨filled, misfit⟩ := isSome_of_attachPreceding_eq_none refused (span ▸ near)
    (behind.doc_eq.trans undocumented)
  obtain ⟨d, hd⟩ := Option.isSome_iff_exists.1 filled
  refine ⟨Option.isSome_iff_exists.2 ⟨d, inFront.grows.2.node.slots.comment d hd⟩, ?_⟩
  rwa [inFront.sameInside.1]

theorem placed (hc : c ∈ own) :
    c ∈ left ∨ ∃ u ∈ U, u.node.slots.comment = some c ∨ u.node.slots.doc = some c := by
  have first := mem_placeTrailing (Sibling.ofNode n) hc
  rw [h.trailing] at first
  rcases first with hc | ⟨t, ht, slot⟩
  · have second := mem_placePreceding T hc
    rwa [h.preceding] at second
  · obtain ⟨u, hu, takes⟩ := forall₂_exists_of_mem_left h.takesInFront ht
    exact .inr ⟨u, hu, .inl (takes.grows.2.node.slots.comment c slot)⟩

/-- A node with these children and orphans is settled. -/
theorem settled {m : Node} (children : m.children = Sibling.restore U)
    (orphans : m.slots.orphans = left) : Settled m (· ∈ own) := by
  have siblings : Sibling.ofNode m = U := Sibling.ofNode_eq_of_restore h.grows children
  have child {d : Node} : d ∈ m.children ↔ ∃ u ∈ U, u.node = d := by
    rw [children, Sibling.mem_restore]
  constructor
  case placed =>
    intro c hc
    rw [orphans]
    refine (h.placed hc).imp_right ?_
    rintro ⟨u, hu, slot⟩
    exact ⟨u.node, child.2 ⟨u, hu, rfl⟩, slot⟩
  case orphan =>
    intro c hc
    rw [orphans] at hc
    exact h.between_sublist.mem (h.left_subset hc)
  case doc =>
    intro d hd c hc
    obtain ⟨u, hu, rfl⟩ := child.1 hd
    exact h.doc hu hc
  case comment =>
    intro d hd c hc
    obtain ⟨u, hu, rfl⟩ := child.1 hd
    exact h.comment hu hc
  case behind =>
    intro c hc s last
    rw [orphans] at hc
    rw [siblings] at last
    obtain ⟨d, hd, -⟩ := h.slot_taken (h.left_subset hc) last
    exact Option.isSome_iff_exists.2 ⟨d, hd⟩
  case inFront =>
    intro c hc s next near last
    rw [orphans] at hc
    rw [siblings] at next
    refine h.slot_taken_inFront hc next near fun d hd => last d (h.between_sublist.mem hd) ?_
    rintro ⟨r, behind, taken⟩
    rw [siblings] at behind
    obtain ⟨e, he, gone⟩ := h.slot_taken hd behind
    obtain rfl := Option.some.inj (taken.symm.trans he)
    exact gone hd

end Passed

/-! ## The tree -/

namespace Node

variable {n m : Node} {c : Comment}

theorem pathTo_of_none (h : owner? (Sibling.ofNode n) c = none) : n.pathTo c = [] := by
  rw [pathTo]
  split
  · rfl
  · rename_i some
    rw [h] at some
    cases some

theorem pathTo_of_some {i : Nat} (h : owner? (Sibling.ofNode n) c = some i)
    (hm : n.children[i]? = some m) : n.pathTo c = i :: m.pathTo c := by
  rw [pathTo]
  split
  · rename_i none
    rw [h] at none
    cases none
  · rename_i j some
    rw [h] at some
    cases some
    obtain ⟨hi, rfl⟩ := List.getElem?_eq_some_iff.1 hm
    rfl

/-- Below its children, a node is what it is inside. -/
theorem SameInside.descend? {path : List Nat} {q : Node} (h : n.SameInside m)
    (found : m.descend? path = some q) : ∃ p, n.descend? path = some p ∧ p.SameInside q := by
  cases path with
  | nil =>
    cases found
    exact ⟨n, rfl, h⟩
  | cons i path =>
    refine ⟨q, ?_, rfl, rfl⟩
    rwa [Node.descend?, ← show m.children = n.children from congrArg Construct.children h.1,
      ← Node.descend?]

theorem bare_of_heldComments (empty : n.heldComments = []) :
    n.slots.comment = none ∧ n.slots.doc = none ∧ n.slots.orphans = [] ∧
      ∀ c ∈ n.children, c.heldComments = [] := by
  rw [heldComments_eq] at empty
  simp only [Slots.all, List.append_eq_nil_iff, List.flatMap_eq_nil_iff,
    Option.toList_eq_nil_iff] at empty
  exact ⟨empty.1.1.1, empty.1.1.2, empty.1.2, empty.2⟩

theorem slots_placeSorted (n : Node) (cs : List Comment) :
    (n.placeSorted cs).slots.comment = n.slots.comment ∧
      (n.placeSorted cs).slots.doc = n.slots.doc := by
  rw [placeSorted_eq]
  exact ⟨rfl, rfl⟩

/-- The path to a comment leads somewhere. -/
theorem exists_descend?_pathTo (n : Node) (c : Comment) :
    ∃ m, n.descend? (n.pathTo c) = some m := by
  induction n using Node.induction with
  | step n ih =>
    cases h : owner? (Sibling.ofNode n) c with
    | none =>
      rw [pathTo_of_none h]
      exact ⟨n, rfl⟩
    | some i =>
      have hi := List.getElem?_eq_getElem (owner?_lt h)
      rw [pathTo_of_some h hi, descend?, hi]
      exact ih _ (List.getElem_mem _)

theorem mem_undelegated_iff {cs : List Comment} :
    c ∈ undelegated n cs ↔ c ∈ cs ∧ n.pathTo c = [] := by
  rw [undelegated, List.mem_filter]
  refine and_congr_right fun _ => ?_
  cases h : owner? (Sibling.ofNode n) c with
  | none => simp [pathTo_of_none h]
  | some i => simp [pathTo_of_some h (List.getElem?_eq_getElem (owner?_lt h))]

theorem delegated_eq {cs given : List Comment} {i : Nat} (hg : (delegated n cs)[i]? = some given) :
    given = cs.filter fun c => owner? (Sibling.ofNode n) c = some i := by
  rw [delegated, List.getElem?_mapIdx] at hg
  obtain ⟨_, -, rfl⟩ := Option.map_eq_some_iff.1 hg
  rfl

theorem ascending_delegated {cs given : List Comment} {i : Nat} (sorted : Ascending cs)
    (hg : (delegated n cs)[i]? = some given) : Ascending given := by
  rw [delegated_eq hg]
  exact sorted.sublist List.filter_sublist

theorem mem_delegated_iff {cs given : List Comment} {i : Nat} {path : List Nat}
    (hm : n.children[i]? = some m) (hg : (delegated n cs)[i]? = some given) :
    c ∈ given ∧ m.pathTo c = path ↔ c ∈ cs ∧ n.pathTo c = i :: path := by
  obtain ⟨hi, rfl⟩ := List.getElem?_eq_some_iff.1 hm
  rw [delegated_eq hg, List.mem_filter, and_assoc, decide_eq_true_eq]
  refine and_congr_right fun _ => ?_
  cases h : owner? (Sibling.ofNode n) c with
  | none => simp [pathTo_of_none h]
  | some j =>
    rw [pathTo_of_some h (List.getElem?_eq_getElem (owner?_lt h))]
    constructor
    · rintro ⟨same, below⟩
      cases same
      rw [below]
    · intro same
      obtain ⟨rfl, below⟩ := List.cons.inj same
      exact ⟨rfl, below⟩

/-- What is settled at a node, for comments sorted by their start. -/
theorem settled_placeSorted (n : Node) {cs : List Comment} (sorted : Ascending cs)
    (empty : n.heldComments = []) {path : List Nat} {q : Node}
    (found : (n.placeSorted cs).descend? path = some q) :
    Settled q fun c => c ∈ cs ∧ n.pathTo c = path := by
  induction n using Node.induction generalizing cs path q with
  | step n ih =>
    obtain ⟨-, -, orphans, below⟩ := bare_of_heldComments empty
    rw [placeSorted_eq] at found
    extract_lets children placed trailing preceding at found
    have children_placed : placed.children = children :=
      children_withChildren (by simp [children, length_delegated])
    have passed : Passed placed (undelegated n cs) trailing.1 trailing.2 preceding.1
        preceding.2 := by
      refine ⟨sorted.sublist List.filter_sublist, ?_, rfl, rfl⟩
      intro c hc
      rw [children_placed] at hc
      obtain ⟨⟨m, given⟩, hm, rfl⟩ := List.mem_map.1 hc
      obtain ⟨comment, doc, -, -⟩ := bare_of_heldComments (below m (List.of_mem_zip hm).1)
      obtain ⟨eqComment, eqDoc⟩ := slots_placeSorted m given
      exact ⟨eqComment.trans comment, eqDoc.trans doc⟩
    have restored : (placed.withChildren (Sibling.restore preceding.1)).children =
        Sibling.restore preceding.1 := by
      refine children_withChildren ?_
      rw [Sibling.length_restore, ← passed.grows.length_eq, Sibling.length_ofNode]
    cases path with
    | nil =>
      cases found
      have own : (fun c => c ∈ cs ∧ n.pathTo c = []) = (· ∈ undelegated n cs) := by
        simp only [mem_undelegated_iff]
      rw [own]
      refine passed.settled restored ?_
      show n.slots.orphans ++ preceding.2 = preceding.2
      rw [orphans, List.nil_append]
    | cons i path =>
      obtain ⟨u, hu, found⟩ := Option.bind_eq_some_iff.1 found
      change (placed.withChildren (Sibling.restore preceding.1)).children[i]? = some u at hu
      rw [restored] at hu
      obtain ⟨placed', hp, inside⟩ := forall₂_exists_of_getElem? passed.sameInside hu
      rw [children_placed, List.getElem?_map, Option.map_eq_some_iff] at hp
      obtain ⟨⟨m, given⟩, hm, rfl⟩ := hp
      obtain ⟨hm, hg⟩ := List.getElem?_zip_eq_some.1 hm
      obtain ⟨p, hp, same⟩ := inside.descend? found
      have own : (fun c => c ∈ cs ∧ n.pathTo c = i :: path) =
          fun c => c ∈ given ∧ m.pathTo c = path := by
        simp only [mem_delegated_iff hm hg]
      rw [own]
      have mem := List.mem_of_getElem? hm
      exact (ih m mem (ascending_delegated sorted hg) (below m mem) hp).congr same

/-- A type with a field on line 3 and one on line 5. -/
def twoFields : Node :=
  .bare (.ofLines 1 1 6 1) (.typeDeclaration .class "Pair" []
    [.bare (.ofLines 3 3 3 8) (.fieldDeclaration "int" [] []),
      .bare (.ofLines 5 3 5 8) (.fieldDeclaration "int" [] [])])

/-- Comments above the first field of `twoFields`, behind it, and above the second one. -/
def fieldComments : List Comment :=
  [⟨1, .block, " above ", .ofLines 2 3 2 13⟩, ⟨2, .line, " behind", .ofLines 3 10 3 18⟩,
    ⟨3, .doc, " documents ", .ofLines 4 3 4 18⟩]

end Node

end JavaCensus
