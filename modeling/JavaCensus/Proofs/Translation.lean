import JavaCensus.Collect.Collector
import JavaCensus.Proofs.Agreement

/-!
# Moving a tree by lines

Placing and claiming compare lines and take their differences, and never look at a line for itself.
So a tree and its comments that are moved up or down by any number of lines are collected as they
are, and every comment is placed where it is placed in the tree as it was.
-/
namespace JavaCensus

/-- Elements that compare as their images do are sorted as these are. -/
theorem sortBy_map {α β : Type} {le : α → α → Bool} {le' : β → β → Bool} {f : α → β}
    (same : ∀ a b, le' (f a) (f b) = le a b) (xs : List α) :
    sortBy le' (xs.map f) = (sortBy le xs).map f := by
  have insert (x : α) (ys : List α) :
      insertSorted le' (f x) (ys.map f) = (insertSorted le x ys).map f := by
    induction ys with
    | nil => rfl
    | cons y ys ih =>
      rw [List.map_cons, insertSorted, insertSorted, same, ih]
      split <;> rfl
  induction xs with
  | nil => rfl
  | cons x xs ih => rw [List.map_cons, sortBy, ih, insert, sortBy]

/-! ## Positions, spans and comments -/

section Moved

variable (k : Int)

theorem Position.shift_le_shift (p q : Position) : p.shift k ≤ q.shift k ↔ p ≤ q := by
  simp only [le_iff, shift]
  omega

theorem Span.contains_shift (s t : Span) :
    (s.shift k).contains (t.shift k) ↔ s.contains t :=
  and_congr (Position.shift_le_shift k _ _) (Position.shift_le_shift k _ _)

theorem Span.startLine_shift (s : Span) : (s.shift k).startLine = s.startLine + k :=
  rfl

theorem Span.stopLine_shift (s : Span) : (s.shift k).stopLine = s.stopLine + k :=
  rfl

theorem Span.lineCount_shift (s : Span) : (s.shift k).lineCount = s.lineCount := by
  simp only [lineCount, startLine_shift, stopLine_shift]
  omega

namespace Comment

theorem shift_injective : Function.Injective (shift k) := by
  have back : Function.LeftInverse (shift (-k)) (shift k) := by
    intro c
    simp [shift, Span.shift, Position.shift]
  exact back.injective

theorem startsBefore_shift (c d : Comment) :
    (c.shift k).startsBefore (d.shift k) = c.startsBefore d :=
  decide_eq_decide.2 (Position.shift_le_shift k _ _)

theorem startsAfter_shift (c d : Comment) :
    (c.shift k).startsAfter (d.shift k) = c.startsAfter d :=
  decide_eq_decide.2 (Position.shift_le_shift k _ _)

end Comment

theorem CommentCounts.ofComments_shift (cs : List Comment) :
    ofComments (cs.map (·.shift k)) = ofComments cs := by
  have one (c : Comment) : ofComment (c.shift k) = ofComment c := by
    simp only [ofComment, Comment.shift, Span.lineCount_shift, Comment.contentLength]
  simp only [ofComments, List.map_map, Function.comp_def, one]

end Moved

/-! ## Trees -/

namespace Construct

variable {α β : Type}

theorem shape_map (f : α → β) (x : Construct α) : (x.map f).shape = x.shape := by
  cases x <;> simp only [shape, map, traverse, Id.run_bind, Id.run_pure, map_list, map_option,
    map_optionalList, List.map_map, Option.map_map, Function.comp_def]

theorem map_refill (f : α → β) {x : Construct α} {parts : List α} (b : β)
    (h : parts.length = x.children.length) :
    (x.refill parts).map f = (x.map f).refill (parts.map f) := by
  have given : (parts.map f).length = (x.map f).children.length := by
    rw [children_map, List.length_map, List.length_map, h]
  rw [← map_same ((x.map f).refill _)]
  refine map_eq_map b ?_ ?_
  · rw [shape_refill, shape_refill, shape_map]
  · rw [children_refill h, children_refill given, List.map_id']

end Construct

namespace Node

/-- The tree with all lines of its nodes and of their comments moved by `k`. -/
def shift (k : Int) (n : Node) : Node :=
  ⟨n.span.shift k, n.slots.shift k,
    n.construct.refill (n.children.attach.map fun c => c.1.shift k)⟩
termination_by n
decreasing_by exact sizeOf_lt_of_mem_children c.2

variable (k : Int) (n : Node)

theorem shift_eq :
    n.shift k = ⟨n.span.shift k, n.slots.shift k, n.construct.map (shift k)⟩ := by
  rw [shift, List.map_subtype (g := shift k) fun _ _ => rfl, List.unattach_attach]
  exact congrArg (mk _ _) (Construct.refill_map n (shift k) n.construct)

@[simp] theorem span_shift : (n.shift k).span = n.span.shift k := by
  rw [shift_eq]

@[simp] theorem slots_shift : (n.shift k).slots = n.slots.shift k := by
  rw [shift_eq]

theorem construct_shift : (n.shift k).construct = n.construct.map (shift k) := by
  rw [shift_eq]

theorem recasts_shift : Recasts (shift k) :=
  construct_shift k

theorem isDocumentable_shift :
    (n.shift k).construct.isDocumentable = n.construct.isDocumentable := by
  rw [construct_shift]
  cases n.construct with
  | bare family => cases family <;> rfl
  | _ => rfl

theorem walk_shift : (n.shift k).walk = n.walk.map (shift k) := by
  induction n using Node.induction with
  | step n ih =>
    rw [walk_eq, (recasts_shift k).children, List.flatMap_map, walk_eq n, List.map_cons,
      List.map_flatMap]
    exact congrArg _ (List.flatMap_congr fun c hc => ih c hc)

theorem ownComments_shift : (n.shift k).ownComments = n.ownComments.map (·.shift k) := by
  have sorted (cs : List Comment) : sortBy Comment.startsBefore (cs.map (·.shift k)) =
      (sortBy Comment.startsBefore cs).map (·.shift k) :=
    sortBy_map (Comment.startsBefore_shift k) cs
  simp only [ownComments, slots_shift, Slots.shift, Option.toList_map, ← List.map_append, sorted]

theorem attachedComments_shift :
    (n.shift k).attachedComments = n.attachedComments.map (·.shift k) := by
  simp only [attachedComments, slots_shift, Slots.shift, Option.toList_map, List.map_append]

theorem subtreeComments_shift :
    (n.shift k).subtreeComments = n.subtreeComments.map (·.shift k) := by
  rw [subtreeComments, walk_shift, List.flatMap_map, subtreeComments, List.map_flatMap]
  exact List.flatMap_congr fun m _ => m.ownComments_shift k

/-! ## Adjacent comments -/

theorem effectiveStart_shift : (n.shift k).effectiveStart = n.effectiveStart + k := by
  have fold (lines : List Int) (a : Int) :
      (lines.map (· + k)).foldl min (a + k) = lines.foldl min a + k := by
    induction lines generalizing a with
    | nil => rfl
    | cons b lines ih =>
      rw [List.map_cons, List.foldl_cons, List.foldl_cons, ← ih, min_add_add_right]
  have lines : (n.shift k).attachedComments.map (·.span.startLine) =
      (n.attachedComments.map (·.span.startLine)).map (· + k) := by
    rw [attachedComments_shift, List.map_map, List.map_map]
    rfl
  show ((n.shift k).attachedComments.map (·.span.startLine)).foldl min
    (n.shift k).span.startLine = _
  rw [lines, span_shift, Span.startLine_shift, fold]
  rfl

end Node

theorem scanAdjacent_shift (k first last boundary : Int) (cs : List Comment) :
    scanAdjacent (first + k) (last + k) (boundary + k) (cs.map (·.shift k)) =
      (scanAdjacent first last boundary cs).map (·.shift k) := by
  induction cs generalizing boundary with
  | nil => rfl
  | cons c cs ih =>
    have start : (c.shift k).span.startLine = c.span.startLine + k := rfl
    have stop : (c.shift k).span.stopLine = c.span.stopLine + k := rfl
    rw [List.map_cons, scanAdjacent, scanAdjacent, start, stop]
    by_cases below : c.span.startLine > last
    · rw [if_pos (by omega), if_pos below, ih]
    · rw [if_neg (by omega), if_neg below]
      by_cases inside : c.span.startLine ≥ first
      · rw [if_pos (by omega), if_pos inside, ih, List.map_cons]
      · rw [if_neg (by omega), if_neg inside]
        by_cases linked : boundary - 1 ≤ c.span.stopLine ∧ c.span.stopLine ≤ boundary
        · rw [if_pos (by omega), if_pos linked, ih, List.map_cons]
        · rw [if_neg (by omega), if_neg linked, List.map_nil]

theorem adjacentComments_shift (k : Int) (n : Node) (orphans : List Comment) :
    adjacentComments (n.shift k) (orphans.map (·.shift k)) =
      (adjacentComments n orphans).map (·.shift k) := by
  rw [adjacentComments, sortBy_map (Comment.startsAfter_shift k), Node.effectiveStart_shift,
    Node.span_shift, Span.stopLine_shift, scanAdjacent_shift, adjacentComments]

/-! ## Claims -/

namespace Ledger

variable {l m : Ledger} {f : Comment → Comment}

theorem claimed_claimAll_map (inj : Function.Injective f) (h : m.claimed = l.claimed.map f)
    (cs : List Comment) : (m.claimAll (cs.map f)).claimed = (l.claimAll cs).claimed.map f := by
  induction cs generalizing l m with
  | nil => exact h
  | cons c cs ih =>
    refine ih (l := l.claim c) (m := m.claim (f c)) ?_
    simp only [claimed_claim, h, List.mem_map_of_injective inj]
    split
    · rfl
    · rw [List.map_append, List.map_cons, List.map_nil]

theorem fresh_map (inj : Function.Injective f) (h : m.claimed = l.claimed.map f)
    (cs : List Comment) : m.fresh (cs.map f) = (l.fresh cs).map f := by
  rw [fresh, claimed_claimAll_map inj h, size, h, List.length_map, fresh, List.map_drop, size]

theorem unclaimedOrphans_shift {k : Int} (h : m.claimed = l.claimed.map (·.shift k)) (n : Node) :
    m.unclaimedOrphans (n.shift k) = (l.unclaimedOrphans n).map (·.shift k) := by
  rw [unclaimedOrphans, Node.slots_shift, unclaimedOrphans]
  show (n.slots.orphans.map (·.shift k)).filter _ = _
  rw [List.filter_map]
  congr 1
  refine List.filter_congr fun c _ => ?_
  simp only [Function.comp, isClaimed, h, List.mem_map_of_injective (Comment.shift_injective k)]

end Ledger

open Attribution

/-- Ledgers correspond if the same comments, moved, are claimed in the same order. -/
def shiftRecasting (k : Int) : Recasting :=
  let Corresponds (l m : Ledger) : Prop := m.claimed = l.claimed.map (·.shift k)
  have claims {cs ds : List Comment} (same : ds = cs.map (·.shift k)) :
      AgreesFrom Corresponds CommentCounts.ofComments (claim cs) (claim ds) := by
    intro l m h
    rw [same]
    refine ⟨congrArg Except.ok ?_, Ledger.claimed_claimAll_map (Comment.shift_injective k) h cs⟩
    rw [Ledger.fresh_map (Comment.shift_injective k) h, CommentCounts.ofComments_shift]
  { recast := Node.shift k
    recasts := Node.recasts_shift k
    look := .ofComments
    look_nil := rfl
    look_append := CommentCounts.ofComments_append
    Corresponds := Corresponds
    adjacent n p l m h := by
      refine claims ?_ l m h
      rw [Ledger.adjacentOrphans, Ledger.unclaimedOrphans_shift h, adjacentComments_shift,
        Ledger.adjacentOrphans]
    own n := claims (n.ownComments_shift k)
    attached n := claims (n.attachedComments_shift k)
    subtree n := claims (n.subtreeComments_shift k) }

/-! ## Placing comments -/

section Placing

variable (k : Int)

def Sibling.shift (s : Sibling) : Sibling :=
  ⟨s.number, s.node.shift k⟩

namespace Sibling

theorem ofNode_shift (n : Node) : ofNode (n.shift k) = (ofNode n).map (shift k) := by
  have same (a b : Sibling) : (a.shift k).startsBefore (b.shift k) = a.startsBefore b := by
    simp only [startsBefore, shift, Node.span_shift]
    exact decide_eq_decide.2 (Position.shift_le_shift k _ _)
  rw [ofNode, (Node.recasts_shift k).children, ofNode, ← sortBy_map same]
  congr 1
  simp only [List.mapIdx_eq_zipIdx_map, List.zipIdx_map, List.map_map]
  rfl

theorem restore_shift (siblings : List Sibling) :
    restore (siblings.map (shift k)) = (restore siblings).map (Node.shift k) := by
  rw [restore, sortBy_map (f := shift k) fun _ _ => rfl, restore, List.map_map, List.map_map]
  rfl

end Sibling

namespace Node

theorem setComment_shift (n : Node) (c : Comment) :
    (n.shift k).setComment (c.shift k) = (n.setComment c).shift k := by
  rw [shift_eq, shift_eq]
  rfl

theorem setDoc_shift (n : Node) (c : Comment) :
    (n.shift k).setDoc (c.shift k) = (n.setDoc c).shift k := by
  rw [shift_eq, shift_eq]
  rfl

theorem addOrphans_shift (n : Node) (cs : List Comment) :
    (n.shift k).addOrphans (cs.map (·.shift k)) = (n.addOrphans cs).shift k := by
  rw [shift_eq, shift_eq]
  simp [addOrphans, Slots.shift]

theorem withChildren_shift {n : Node} {children : List Node}
    (h : children.length = n.children.length) :
    (n.shift k).withChildren (children.map (shift k)) = (n.withChildren children).shift k := by
  rw [shift_eq, shift_eq]
  simp only [withChildren, Construct.map_refill (shift k) n h]

end Node

variable (c : Comment) (cs : List Comment) (n : Node) (siblings : List Sibling)

theorem owner?_shift : owner? (siblings.map (·.shift k)) (c.shift k) = owner? siblings c := by
  have same (s : Sibling) : decide ((s.shift k).node.span.contains (c.shift k).span) =
      decide (s.node.span.contains c.span) := by
    simp only [Sibling.shift, Node.span_shift]
    exact decide_eq_decide.2 (Span.contains_shift k _ _)
  rw [owner?, List.find?_map, owner?, Option.map_map]
  simp only [Function.comp_def, same]
  rfl

theorem trails_shift : trails (n.shift k) (c.shift k) = trails n c := by
  have start : (c.shift k).span.start = c.span.start.shift k := rfl
  have line : (c.shift k).span.startLine = c.span.startLine + k := rfl
  simp only [trails, Node.span_shift, Span.stopLine_shift, start, line, add_left_inj,
    show (n.span.shift k).stop = n.span.stop.shift k from rfl, Position.shift_le_shift]
  rfl

theorem attachTrailing_shift :
    attachTrailing (c.shift k) (siblings.map (·.shift k)) =
      (attachTrailing c siblings).map (List.map (·.shift k)) := by
  induction siblings with
  | nil => rfl
  | cons s rest ih =>
    have behind : ((rest.map (·.shift k)).any fun r => trails r.node (c.shift k)) =
        rest.any fun r => trails r.node c := by
      rw [List.any_map]
      congr 1
      funext r
      exact trails_shift k c r.node
    have free : (s.shift k).node.slots.comment.isNone = s.node.slots.comment.isNone := by
      simp [Sibling.shift, Slots.shift]
    rw [List.map_cons, attachTrailing, attachTrailing, behind, ih,
      show trails (s.shift k).node (c.shift k) = _ from trails_shift k c s.node, free]
    have filled : (s.shift k).node.setComment (c.shift k) = (s.node.setComment c).shift k :=
      s.node.setComment_shift k c
    rw [filled]
    split
    · cases attachTrailing c rest <;> rfl
    · split <;> rfl

theorem placeTrailing_shift :
    placeTrailing (siblings.map (·.shift k)) (cs.map (·.shift k)) =
      ((placeTrailing siblings cs).1.map (·.shift k),
        (placeTrailing siblings cs).2.map (·.shift k)) := by
  induction cs generalizing siblings with
  | nil => rfl
  | cons c cs ih =>
    rw [List.map_cons, placeTrailing, attachTrailing_shift, placeTrailing]
    cases attachTrailing c siblings with
    | none => simp only [Option.map_none, ih, List.map_cons]
    | some taken => exact ih taken

theorem attachPreceding_shift :
    attachPreceding (n.shift k) (c.shift k) = (attachPreceding n c).map (·.shift k) := by
  have gap : (n.shift k).span.startLine - (c.shift k).span.stopLine =
      n.span.startLine - c.span.stopLine := by
    rw [Node.span_shift, Span.startLine_shift]
    show n.span.startLine + k - (c.span.stopLine + k) = _
    omega
  have doc : (n.shift k).slots.doc.isNone = n.slots.doc.isNone := by
    simp [Slots.shift]
  have comment : (n.shift k).slots.comment.isNone = n.slots.comment.isNone := by
    simp [Slots.shift]
  have kind : (c.shift k).kind = c.kind := rfl
  rw [attachPreceding, gap, kind, doc, comment, Node.isDocumentable_shift, Node.setDoc_shift,
    Node.setComment_shift, attachPreceding]
  split
  · rfl
  · split
    · rfl
    · split <;> rfl

theorem upToStart_shift :
    upToStart (n.shift k) (cs.map (·.shift k)) = (upToStart n cs).map (·.shift k) := by
  rw [upToStart, List.takeWhile_map, upToStart]
  congr 2
  funext c
  simp only [Function.comp, Node.span_shift]
  exact decide_eq_decide.2 (Position.shift_le_shift k _ _)

theorem afterStart_shift :
    afterStart (n.shift k) (cs.map (·.shift k)) = (afterStart n cs).map (·.shift k) := by
  rw [afterStart, List.dropWhile_map, afterStart]
  congr 2
  funext c
  simp only [Function.comp, Node.span_shift]
  exact decide_eq_decide.2 (Position.shift_le_shift k _ _)

theorem placePreceding_shift :
    placePreceding (siblings.map (·.shift k)) (cs.map (·.shift k)) =
      ((placePreceding siblings cs).1.map (·.shift k),
        (placePreceding siblings cs).2.map (·.shift k)) := by
  induction siblings generalizing cs with
  | nil => rfl
  | cons s rest ih =>
    have taken : ((upToStart s.node cs).map (·.shift k)).getLast?.bind
        (attachPreceding (s.node.shift k)) =
          ((upToStart s.node cs).getLast?.bind (attachPreceding s.node)).map (·.shift k) := by
      rw [List.getLast?_map]
      cases (upToStart s.node cs).getLast? with
      | none => rfl
      | some c => exact attachPreceding_shift k c s.node
    have node : (s.shift k).node = s.node.shift k := rfl
    simp only [List.map_cons, placePreceding, node, upToStart_shift, afterStart_shift, ih, taken]
    cases (upToStart s.node cs).getLast?.bind (attachPreceding s.node) with
    | none => simp only [Option.map_none, List.map_cons, List.map_append]
    | some m =>
      simp only [Option.map_some, List.map_cons, List.map_append, List.map_dropLast]
      rfl

theorem undelegated_shift :
    undelegated (n.shift k) (cs.map (·.shift k)) = (undelegated n cs).map (·.shift k) := by
  rw [undelegated, List.filter_map, undelegated, Sibling.ofNode_shift]
  simp only [Function.comp_def, owner?_shift]

theorem delegated_shift :
    delegated (n.shift k) (cs.map (·.shift k)) =
      (delegated n cs).map (List.map (·.shift k)) := by
  rw [delegated, delegated, (Node.recasts_shift k).children, Sibling.ofNode_shift]
  simp only [List.mapIdx_eq_zipIdx_map, List.zipIdx_map, List.map_map, Function.comp_def,
    List.filter_map, owner?_shift, Prod.map_snd, id]

end Placing

namespace Node

theorem placeSorted_shift (k : Int) (n : Node) (cs : List Comment) :
    (n.shift k).placeSorted (cs.map (·.shift k)) = (n.placeSorted cs).shift k := by
  induction n using Node.induction generalizing cs with
  | step n ih =>
    rw [placeSorted_eq, placeSorted_eq]
    dsimp only
    have below : (((n.shift k).children.zip (delegated (n.shift k) (cs.map (·.shift k)))).map
        fun c => c.1.placeSorted c.2) =
        ((n.children.zip (delegated n cs)).map fun c => c.1.placeSorted c.2).map (shift k) := by
      rw [(recasts_shift k).children, delegated_shift, List.zip_map, List.map_map, List.map_map]
      refine List.map_congr_left fun c hc => ?_
      exact ih c.1 (List.of_mem_zip hc).1 c.2
    have length : ((n.children.zip (delegated n cs)).map fun c => c.1.placeSorted c.2).length =
        n.children.length := by
      simp [length_delegated]
    rw [below, withChildren_shift k length, undelegated_shift, Sibling.ofNode_shift,
      placeTrailing_shift, placePreceding_shift, Sibling.restore_shift, withChildren_shift,
      addOrphans_shift]
    rw [Sibling.length_restore, (placePreceding_exchanges _ _).length_eq,
      (placeTrailing_exchanges _ _).length_eq, Sibling.length_ofNode]

/-- Comments are placed on a tree that is moved as they are placed on the tree. -/
theorem place_shift (k : Int) (n : Node) (cs : List Comment) :
    (n.shift k).place (cs.map (·.shift k)) = (n.place cs).shift k := by
  rw [place, sortBy_map (Comment.startsBefore_shift k), placeSorted_shift, place]

end Node

/-! ## Collecting -/

theorem CollectedUnit.logRecord_map {β γ : Type} (f : β → γ) (name : String)
    (u : CollectedUnit β) : (u.map f).logRecord name = u.logRecord name := by
  cases u with
  | ordinary u => simp only [map, UnitElement.map, logRecord, List.length_map]
  | modular u => rfl

namespace Collector

/-- A tree with its comments is taken in as it is when it is moved. -/
theorem collectUnit_shift (c : Collector) (name : String) (k : Int) (n : Node) :
    c.collectUnit name (n.shift k) = c.collectUnit name n := by
  have agrees : (shiftRecasting k).Agrees (CollectedUnit.map CommentCounts.ofComments)
      (JavaCensus.collectUnit n name) (JavaCensus.collectUnit (n.shift k) name) :=
    (shiftRecasting k).collectUnit_agrees n name
  have agree := agrees .empty .empty rfl
  unfold collectUnit
  split
  · rfl
  · generalize ((JavaCensus.collectUnit n name).run.run .empty : Except Error _ × Ledger) = p,
      ((JavaCensus.collectUnit (n.shift k) name).run.run .empty : Except Error _ × Ledger) = q
      at agree ⊢
    obtain ⟨same, claimed⟩ := agree
    rcases p with ⟨e | u, l⟩ <;> rcases q with ⟨e' | v, m⟩
    · rw [Except.error.inj same]
    · cases same
    · cases same
    · have units : u.map CommentCounts.ofComments = v.map .ofComments := Except.ok.inj same
      have size : m.size = l.size := by
        rw [Ledger.size, show m.claimed = l.claimed.map (·.shift k) from claimed, List.length_map,
          Ledger.size]
      have log : v.logRecord name = u.logRecord name := by
        rw [← v.logRecord_map CommentCounts.ofComments, ← units, u.logRecord_map]
      simp only [units, size, log]

end Collector

end JavaCensus
