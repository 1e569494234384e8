import JavaCensus.Syntax.Placement
import JavaCensus.Proofs.Walks

/-!
# What placing comments keeps

Placing comments on a tree puts each of them in one slot, and it takes none out of a slot. The two
passes over the children of a node exchange comments between what is left and the slots, and keep
the children in their places.
-/
namespace JavaCensus

namespace Node

theorem heldComments_setComment {n : Node} {c : Comment} (h : n.slots.comment = none) :
    (n.setComment c).heldComments = c :: n.heldComments := by
  rw [heldComments_eq, heldComments_eq n]
  simp [Slots.all, setComment, children, h]

theorem heldComments_setDoc {n : Node} {c : Comment} (h : n.slots.doc = none) :
    (n.setDoc c).heldComments.Perm (c :: n.heldComments) := by
  rw [heldComments_eq, heldComments_eq n]
  simp only [Slots.all, setDoc, children, h, Option.toList_none, Option.toList_some,
    List.append_nil, List.append_assoc, List.singleton_append]
  exact List.perm_middle

theorem heldComments_addOrphans (n : Node) (cs : List Comment) :
    (n.addOrphans cs).heldComments.Perm (n.heldComments ++ cs) := by
  rw [heldComments_eq, heldComments_eq n]
  simp only [Slots.all, addOrphans, children, List.append_assoc]
  exact ((List.perm_append_comm.append_left _).append_left _).append_left _

end Node

/-! ## Siblings -/

namespace Sibling

def held (s : Sibling) : List Comment := s.node.heldComments

theorem flatMap_held_ofNode (n : Node) :
    ((ofNode n).flatMap held).Perm (n.children.flatMap Node.heldComments) := by
  have nodes : (n.children.mapIdx Sibling.mk).flatMap held =
      n.children.flatMap Node.heldComments := by
    rw [List.mapIdx_eq_zipIdx_map, List.flatMap_map]
    show (n.children.zipIdx.flatMap fun p => Node.heldComments p.1) = _
    rw [← List.flatMap_map (f := Prod.fst), List.zipIdx_map_fst]
  rw [← nodes]
  exact (sortBy_perm _ _).flatMap_right _

theorem length_ofNode (n : Node) : (ofNode n).length = n.children.length := by
  rw [ofNode, length_sortBy, List.length_mapIdx]

theorem flatMap_heldComments_restore (siblings : List Sibling) :
    ((restore siblings).flatMap Node.heldComments).Perm (siblings.flatMap held) := by
  rw [restore, List.flatMap_map]
  exact (sortBy_perm _ _).flatMap_right _

theorem length_restore (siblings : List Sibling) :
    (restore siblings).length = siblings.length := by
  rw [restore, List.length_map, length_sortBy]

end Sibling

/-! ## What a pass does at one sibling -/

/-- The last of the siblings that the comment trails. -/
def trailed? (siblings : List Sibling) (c : Comment) : Option Sibling :=
  (siblings.filter fun s => trails s.node c).getLast?

theorem trailed?_cons (s : Sibling) (rest : List Sibling) (c : Comment) :
    trailed? (s :: rest) c =
      (trailed? rest c).or (if trails s.node c then some s else none) := by
  rw [trailed?, trailed?, List.filter_cons]
  split
  · rw [List.getLast?_cons]
    cases (rest.filter fun s => trails s.node c).getLast? <;> rfl
  · rw [Option.or_none]

theorem isSome_trailed? (siblings : List Sibling) (c : Comment) :
    (trailed? siblings c).isSome = siblings.any fun s => trails s.node c := by
  rw [Bool.eq_iff_iff, trailed?, List.getLast?_isSome, List.any_eq_true]
  simp [List.filter_eq_nil_iff]

/-- A comment is attached to the last sibling that it trails. -/
theorem attachTrailing_split {c : Comment} {S T : List Sibling} (h : attachTrailing c S = some T) :
    ∃ before s after, S = before ++ s :: after ∧ trailed? S c = some s ∧
      s.node.slots.comment = none ∧
      T = before ++ ⟨s.number, s.node.setComment c⟩ :: after := by
  induction S generalizing T with
  | nil => cases h
  | cons s rest ih =>
    rw [attachTrailing, ← isSome_trailed?] at h
    split at h
    · obtain ⟨U, hU, rfl⟩ := Option.map_eq_some_iff.1 h
      obtain ⟨before, t, after, rfl, last, free, rfl⟩ := ih hU
      refine ⟨s :: before, t, after, rfl, ?_, free, rfl⟩
      rw [trailed?_cons, last, Option.some_or]
    · rename_i none
      split at h
      · rename_i fits
        cases h
        rw [Bool.and_eq_true, Option.isNone_iff_eq_none] at fits
        refine ⟨[], s, rest, rfl, ?_, fits.2, rfl⟩
        rw [trailed?_cons, Option.not_isSome_iff_eq_none.1 none, Option.none_or, if_pos fits.1]
      · cases h

/-- What is attached in front of a node, with no blank line between them, goes to a free slot. -/
theorem attachPreceding_cases {n m : Node} {c : Comment} (h : attachPreceding n c = some m) :
    n.span.startLine - c.span.stopLine ≤ 1 ∧
      ((c.kind = .doc ∧ n.construct.isDocumentable ∧ n.slots.doc = none ∧ m = n.setDoc c) ∨
        (n.slots.comment = none ∧ m = n.setComment c)) := by
  unfold attachPreceding at h
  split at h
  · cases h
  · rename_i near
    refine ⟨Int.not_lt.1 near, ?_⟩
    split at h
    · rename_i fits
      cases h
      simp only [Bool.and_eq_true, decide_eq_true_eq, Option.isNone_iff_eq_none] at fits
      exact .inl ⟨fits.1.1, fits.1.2, fits.2, rfl⟩
    · split at h
      · rename_i free
        cases h
        exact .inr ⟨Option.isNone_iff_eq_none.1 free, rfl⟩
      · cases h

/-- The second pass at one sibling: the last of the comments up to its start is attached to it, or
all of them are left. -/
theorem placePreceding_cons (s : Sibling) (rest : List Sibling) (cs : List Comment) :
    ∃ t front,
      placePreceding (s :: rest) cs = (t :: (placePreceding rest (afterStart s.node cs)).1,
        front ++ (placePreceding rest (afterStart s.node cs)).2) ∧
      (t = s ∧ front = upToStart s.node cs ∧
          (∀ c, (upToStart s.node cs).getLast? = some c → attachPreceding s.node c = none) ∨
        ∃ c n, upToStart s.node cs = front ++ [c] ∧ attachPreceding s.node c = some n ∧
          t = ⟨s.number, n⟩) := by
  cases hn : (upToStart s.node cs).getLast?.bind (attachPreceding s.node) with
  | none =>
    refine ⟨s, _, by simp only [placePreceding, hn], .inl ⟨rfl, rfl, fun c hc => ?_⟩⟩
    rwa [hc] at hn
  | some n =>
    obtain ⟨c, hc, attached⟩ := Option.bind_eq_some_iff.1 hn
    refine ⟨⟨s.number, n⟩, (upToStart s.node cs).dropLast, by simp only [placePreceding, hn],
      .inr ⟨c, n, ?_, attached, rfl⟩⟩
    exact (List.dropLast_append_getLast? c hc).symm

theorem upToStart_append_afterStart (n : Node) (cs : List Comment) :
    upToStart n cs ++ afterStart n cs = cs :=
  List.takeWhile_append_dropWhile

/-! ## The passes -/

/-- A pass keeps the siblings in number, and exchanges comments between them and what is left. -/
structure Exchanges (before : List Sibling) (cs : List Comment) (after : List Sibling)
    (left : List Comment) : Prop where
  numbers : after.map (·.number) = before.map (·.number)
  balance : (after.flatMap Sibling.held ++ left).Perm (before.flatMap Sibling.held ++ cs)

namespace Exchanges

variable {S T U : List Sibling} {s : Sibling} {n : Node} {as bs cs : List Comment}

theorem refl (S : List Sibling) (cs : List Comment) : Exchanges S cs S cs :=
  ⟨rfl, .refl _⟩

theorem trans (h : Exchanges S as T bs) (k : Exchanges T bs U cs) : Exchanges S as U cs :=
  ⟨k.numbers.trans h.numbers, k.balance.trans h.balance⟩

theorem length_eq (h : Exchanges S as T bs) : T.length = S.length := by
  simpa using congrArg List.length h.numbers

/-- Comments that the pass does not look at stay where they are. -/
theorem aside (h : Exchanges S as T bs) (cs : List Comment) :
    Exchanges S (cs ++ as) T (cs ++ bs) where
  numbers := h.numbers
  balance := by
    have balance := h.balance
    rw [List.perm_iff_count] at balance ⊢
    intro c
    have := balance c
    simp only [List.count_append] at this ⊢
    omega

theorem cons (h : Exchanges S as T bs) (s : Sibling) : Exchanges (s :: S) as (s :: T) bs where
  numbers := by rw [List.map_cons, List.map_cons, h.numbers]
  balance := by
    rw [List.flatMap_cons, List.flatMap_cons, List.append_assoc, List.append_assoc]
    exact h.balance.append_left _

theorem append (h : Exchanges S as T bs) (U : List Sibling) :
    Exchanges (U ++ S) as (U ++ T) bs := by
  induction U with
  | nil => exact h
  | cons u U ih => exact ih.cons u

/-- A sibling takes a comment out of what is left. -/
theorem take {c : Comment} (hn : n.heldComments.Perm (c :: s.node.heldComments))
    (hcs : as.Perm (c :: cs)) : Exchanges (s :: S) as (⟨s.number, n⟩ :: S) cs where
  numbers := rfl
  balance := by
    rw [List.perm_iff_count] at hn hcs ⊢
    intro d
    have hn := hn d
    have hcs := hcs d
    simp only [List.flatMap_cons, Sibling.held, List.count_append, List.count_cons] at hn hcs ⊢
    omega

end Exchanges

theorem attachTrailing_exchanges {c : Comment} {S T : List Sibling}
    (h : attachTrailing c S = some T) : Exchanges S [c] T [] := by
  obtain ⟨before, s, after, rfl, -, free, rfl⟩ := attachTrailing_split h
  refine Exchanges.append (.take ?_ (.refl [c])) before
  rw [Node.heldComments_setComment free]

theorem placeTrailing_exchanges (S : List Sibling) (cs : List Comment) :
    Exchanges S cs (placeTrailing S cs).1 (placeTrailing S cs).2 := by
  induction cs generalizing S with
  | nil => exact .refl S []
  | cons c cs ih =>
    rw [placeTrailing]
    split
    · rename_i T hT
      have first := (attachTrailing_exchanges hT).aside cs
      rw [List.append_nil] at first
      have swapped : Exchanges S (c :: cs) S (cs ++ [c]) :=
        ⟨rfl, List.perm_append_comm.append_left _⟩
      exact (swapped.trans first).trans (ih T)
    · exact (ih S).aside [c]

theorem heldComments_attachPreceding {n m : Node} {c : Comment}
    (h : attachPreceding n c = some m) : m.heldComments.Perm (c :: n.heldComments) := by
  obtain ⟨-, ⟨-, -, free, rfl⟩ | ⟨free, rfl⟩⟩ := attachPreceding_cases h
  · exact Node.heldComments_setDoc free
  · rw [Node.heldComments_setComment free]

theorem placePreceding_exchanges (S : List Sibling) (cs : List Comment) :
    Exchanges S cs (placePreceding S cs).1 (placePreceding S cs).2 := by
  induction S generalizing cs with
  | nil => exact .refl [] cs
  | cons s rest ih =>
    have rest' := ((ih (afterStart s.node cs)).cons s).aside (upToStart s.node cs)
    rw [upToStart_append_afterStart] at rest'
    obtain ⟨t, front, eq, ⟨rfl, rfl, -⟩ | ⟨c, n, last, attached, rfl⟩⟩ :=
      placePreceding_cons s rest cs
    · rw [eq]
      exact rest'
    · rw [eq]
      refine rest'.trans (.take (heldComments_attachPreceding attached) ?_)
      rw [last, List.append_assoc]
      exact List.perm_middle

/-! ## Delegation -/

theorem owner?_lt {n : Node} {c : Comment} {i : Nat} (h : owner? (Sibling.ofNode n) c = some i) :
    i < n.children.length := by
  obtain ⟨s, hs, rfl⟩ := Option.map_eq_some_iff.1 h
  have hs := mem_sortBy.1 (List.mem_of_find?_eq_some hs)
  obtain ⟨i, hi, rfl⟩ := List.mem_mapIdx.1 hs
  exact hi

/-- The entries of a list, sorted into the classes below a bound. -/
theorem flatMap_filter_perm {α : Type} (f : α → Option Nat) (cs : List α) (k : Nat) :
    ((List.range k).flatMap fun i => cs.filter fun c => f c = some i).Perm
      (cs.filter fun c => (f c).any (· < k)) := by
  induction k with
  | zero => simp
  | succ k ih =>
    have parts := List.filter_append_perm (fun c => (f c).any (· < k))
      (cs.filter fun c => (f c).any (· < k + 1))
    have below : ((cs.filter fun c => (f c).any (· < k + 1)).filter fun c => (f c).any (· < k)) =
        cs.filter fun c => (f c).any (· < k) := by
      rw [List.filter_filter]
      refine List.filter_congr fun c _ => ?_
      cases f c with
      | none => rfl
      | some i =>
        rw [Bool.eq_iff_iff]
        simp only [Option.any_some, Bool.and_eq_true, decide_eq_true_eq]
        omega
    have last : ((cs.filter fun c => (f c).any (· < k + 1)).filter fun c =>
        !(f c).any (· < k)) = cs.filter fun c => f c = some k := by
      rw [List.filter_filter]
      refine List.filter_congr fun c _ => ?_
      cases f c with
      | none => rfl
      | some i =>
        rw [Bool.eq_iff_iff]
        simp only [Option.any_some, Bool.and_eq_true, Bool.not_eq_true', decide_eq_true_eq,
          decide_eq_false_iff_not, Option.some.injEq]
        omega
    rw [below, last] at parts
    rw [List.range_succ, List.flatMap_append, List.flatMap_singleton]
    exact (ih.append_right _).trans parts

theorem length_delegated (n : Node) (cs : List Comment) :
    (delegated n cs).length = n.children.length :=
  List.length_mapIdx

/-- Every comment is given to one child or to none. -/
theorem delegated_perm (n : Node) (cs : List Comment) :
    ((delegated n cs).flatten ++ undelegated n cs).Perm cs := by
  have children : (delegated n cs).flatten = (List.range n.children.length).flatMap fun i =>
      cs.filter fun c => owner? (Sibling.ofNode n) c = some i := by
    rw [List.flatMap_def]
    congr 1
    exact List.ext_getElem (by simp [delegated]) fun i _ _ => by simp [delegated]
  have owned : (cs.filter fun c => (owner? (Sibling.ofNode n) c).any (· < n.children.length)) =
      cs.filter fun c => !(owner? (Sibling.ofNode n) c).isNone := by
    refine List.filter_congr fun c _ => ?_
    cases h : owner? (Sibling.ofNode n) c with
    | none => rfl
    | some i => simpa using owner?_lt h
  have sorted := flatMap_filter_perm (owner? (Sibling.ofNode n)) cs n.children.length
  rw [owned] at sorted
  rw [children]
  refine (sorted.append_right _).trans (List.perm_append_comm.trans ?_)
  exact List.filter_append_perm _ cs

/-! ## Nodes -/

/-- The node with the given children in place of its own. -/
def Node.withChildren (n : Node) (children : List Node) : Node :=
  { n with construct := n.construct.refill children }

theorem Node.children_withChildren {n : Node} {children : List Node}
    (h : children.length = n.children.length) : (n.withChildren children).children = children :=
  Construct.children_refill h

theorem Node.placeSorted_eq (n : Node) (cs : List Comment) : n.placeSorted cs =
    let children := (n.children.zip (delegated n cs)).map fun c => c.1.placeSorted c.2
    let placed := n.withChildren children
    let trailing := placeTrailing (Sibling.ofNode placed) (undelegated n cs)
    let preceding := placePreceding trailing.1 trailing.2
    (placed.withChildren (Sibling.restore preceding.1)).addOrphans preceding.2 := by
  rw [placeSorted]
  simp only [List.map_subtype, List.unattach_attach]
  rfl

/-- Nodes that are given comments, each its own list, hold what they held and what they are
given. -/
theorem flatMap_heldComments_zip {f : Node → List Comment → Node} {ns : List Node}
    (hf : ∀ n ∈ ns, ∀ cs, (f n cs).heldComments.Perm (n.heldComments ++ cs))
    {given : List (List Comment)} (length : given.length = ns.length) :
    (((ns.zip given).map fun c => f c.1 c.2).flatMap Node.heldComments).Perm
      (ns.flatMap Node.heldComments ++ given.flatten) := by
  induction ns generalizing given with
  | nil => simp [List.length_eq_zero_iff.1 length]
  | cons n ns ih =>
    obtain ⟨cs, given, rfl⟩ := List.exists_cons_of_length_eq_add_one length
    have first := hf n (List.mem_cons_self ..) cs
    have rest := ih (fun m hm => hf m (List.mem_cons_of_mem _ hm)) (by simpa using length)
    rw [List.perm_iff_count] at first rest ⊢
    intro c
    have first := first c
    have rest := rest c
    simp only [List.zip_cons_cons, List.map_cons, List.flatMap_cons, List.flatten_cons,
      List.count_append] at first rest ⊢
    omega

/-- Placing keeps the comments that the tree holds and adds the given ones, each in one slot. -/
theorem Node.heldComments_placeSorted (n : Node) (cs : List Comment) :
    (n.placeSorted cs).heldComments.Perm (n.heldComments ++ cs) := by
  induction n using Node.induction generalizing cs with
  | step n ih =>
    rw [placeSorted_eq]
    extract_lets children placed trailing preceding
    have below : (children.flatMap heldComments).Perm
        (n.children.flatMap heldComments ++ (delegated n cs).flatten) :=
      flatMap_heldComments_zip ih (length_delegated n cs)
    have placed_children : placed.children = children :=
      children_withChildren (by simp [children, length_delegated])
    have passes : Exchanges (Sibling.ofNode placed) (undelegated n cs) preceding.1 preceding.2 :=
      (placeTrailing_exchanges _ _).trans (placePreceding_exchanges trailing.1 trailing.2)
    have restored : (placed.withChildren (Sibling.restore preceding.1)).children =
        Sibling.restore preceding.1 :=
      children_withChildren
        (by rw [Sibling.length_restore, passes.length_eq, Sibling.length_ofNode])
    have slots : (placed.withChildren (Sibling.restore preceding.1)).slots = n.slots := rfl
    refine (heldComments_addOrphans _ _).trans ?_
    rw [heldComments_eq, restored, slots, heldComments_eq n]
    have siblings := Sibling.flatMap_held_ofNode placed
    rw [placed_children] at siblings
    have nodes := Sibling.flatMap_heldComments_restore preceding.1
    have balance := passes.balance
    have given := delegated_perm n cs
    -- Each step moves comments; counted one by one, the moves cancel out.
    rw [List.perm_iff_count] at below siblings nodes balance given ⊢
    intro c
    have below := below c
    have siblings := siblings c
    have nodes := nodes c
    have balance := balance c
    have given := given c
    simp only [List.count_append] at below siblings nodes balance given ⊢
    omega

theorem Node.heldComments_place (n : Node) (cs : List Comment) :
    (n.place cs).heldComments.Perm (n.heldComments ++ cs) :=
  (n.heldComments_placeSorted _).trans ((sortBy_perm _ cs).append_left _)

end JavaCensus
