import JavaCensus.Collect.Adjacent
import Mathlib

/-!
# Which orphans are adjacent

Of comments that do not overlap, those on the lines of a node are adjacent to it, and so is each
chain of comments above it of which every one leads down to the next without a blank line. The order
in which the comments are given plays no part, and those that are left are not adjacent in turn.
-/
namespace JavaCensus

/-! ## Comments that do not overlap -/

namespace Comment

def IsBefore (c d : Comment) : Prop :=
  ¬d.span.start ≤ c.span.start ∧ ¬d.span.start ≤ c.span.stop

theorem IsBefore.startsBefore {c d : Comment} (h : c.IsBefore d) : c.span.start ≤ d.span.start :=
  (Position.le_total _ _).resolve_right h.1

theorem IsBefore.ne {c d : Comment} (h : c.IsBefore d) : c ≠ d := by
  rintro rfl
  exact h.1 (Position.le_refl _)

theorem IsBefore.stopLine_le {c d : Comment} (h : c.IsBefore d) :
    c.span.stopLine ≤ d.span.startLine := by
  have stop := h.2
  rw [Position.le_iff] at stop
  simp only [Span.stopLine, Span.startLine]
  omega

end Comment

/-- Of any two of the comments, one is over before the other one starts. -/
def DoNotOverlap (cs : List Comment) : Prop :=
  cs.Pairwise fun c d => c.IsBefore d ∨ d.IsBefore c

def Descending (cs : List Comment) : Prop :=
  cs.Pairwise fun c d => d.IsBefore c

theorem Descending.eq_of_perm {cs ds : List Comment} (hcs : Descending cs) (hds : Descending ds)
    (h : cs.Perm ds) : cs = ds :=
  h.eq_of_pairwise (fun _ _ _ _ cd dc => absurd cd.startsBefore dc.1) hcs hds

theorem descending_sortBy {cs : List Comment} (h : DoNotOverlap cs) :
    Descending (sortBy Comment.startsAfter cs) := by
  have sorted : (sortBy Comment.startsAfter cs).Pairwise (Comment.startsAfter · ·) := by
    refine pairwise_sortBy ?_ ?_ cs
    · intro a b c hab hbc
      simp only [Comment.startsAfter, decide_eq_true_eq] at hab hbc ⊢
      exact Position.le_trans hbc hab
    · intro a b
      simp only [Comment.startsAfter, decide_eq_true_eq]
      exact Position.le_total _ _
  have apart : DoNotOverlap (sortBy Comment.startsAfter cs) :=
    h.perm (sortBy_perm _ cs).symm fun h => h.symm
  refine (sorted.and apart).imp ?_
  rintro c d ⟨order, cd | dc⟩
  · exact absurd (of_decide_eq_true order) cd.1
  · exact dc

/-! ## The rule -/

section Rule

variable (first : Int) (orphans : List Comment)

/-- Of the orphans above a line, `q` is the next one that starts after `p`. -/
structure IsNextBelow (p q : Comment) : Prop where
  mem : q ∈ orphans
  above : q.span.startLine < first
  after : ¬q.span.start ≤ p.span.start
  next : ∀ r ∈ orphans, r.span.startLine < first → ¬r.span.start ≤ p.span.start →
    q.span.start ≤ r.span.start

def Comment.EndsAt (c : Comment) (line : Int) : Prop :=
  line - 1 ≤ c.span.stopLine ∧ c.span.stopLine ≤ line

/-- The comment ends at the next orphan below it that starts above the line, or at the line if
there is none. -/
def LeadsDown (p : Comment) : Prop :=
  (∃ q, IsNextBelow first orphans p q ∧ p.EndsAt q.span.startLine) ∨
    (∀ q ∈ orphans, q.span.startLine < first → q.span.start ≤ p.span.start) ∧ p.EndsAt first

end Rule

/-- The orphan starts on the lines of the node, or it and all orphans between it and the node lead
down to the first of these lines. -/
def IsAdjacent (n : Node) (orphans : List Comment) (o : Comment) : Prop :=
  o.span.startLine ≤ n.span.stopLine ∧
    (n.effectiveStart ≤ o.span.startLine ∨
      ∀ p ∈ orphans, o.span.start ≤ p.span.start → p.span.startLine < n.effectiveStart →
        LeadsDown n.effectiveStart orphans p)

/-! ## The scan -/

section Scan

variable {first last boundary : Int} {done cs : List Comment} {c : Comment}

/-- Where a scan stands after some comments: what was above the node leads down, and the boundary
is the start of the last one of these. -/
structure ScannedTo (first : Int) (orphans done : List Comment) (boundary : Int) : Prop where
  leads : ∀ p ∈ done, p.span.startLine < first → LeadsDown first orphans p
  boundary : (∀ p ∈ done, ¬p.span.startLine < first) ∧ boundary = first ∨
    ∃ q ∈ done, q.span.startLine < first ∧
      (∀ r ∈ done, r.span.startLine < first → q.span.start ≤ r.span.start) ∧
      boundary = q.span.startLine

theorem Descending.after_of_mem_done (h : Descending (done ++ c :: cs)) {p : Comment}
    (hp : p ∈ done) : c.IsBefore p :=
  (List.pairwise_append.1 h).2.2 p hp c (List.mem_cons_self ..)

theorem Descending.before_of_mem_rest (h : Descending (done ++ c :: cs)) {p : Comment}
    (hp : p ∈ cs) : p.IsBefore c :=
  (List.pairwise_cons.1 (List.pairwise_append.1 h).2.1).1 p hp

theorem Descending.mem_done (h : Descending (done ++ c :: cs)) {p : Comment}
    (hp : p ∈ done ++ c :: cs) (after : ¬p.span.start ≤ c.span.start) : p ∈ done := by
  rcases List.mem_append.1 hp with hp | hp
  · exact hp
  · rcases List.mem_cons.1 hp with rfl | hp
    · exact absurd (Position.le_refl _) after
    · exact absurd (h.before_of_mem_rest hp).startsBefore after

theorem ScannedTo.leadsDown_iff (h : Descending (done ++ c :: cs))
    (scanned : ScannedTo first (done ++ c :: cs) done boundary) :
    LeadsDown first (done ++ c :: cs) c ↔ c.EndsAt boundary := by
  rcases scanned.boundary with ⟨none, rfl⟩ | ⟨q, hq, above, least, rfl⟩
  · have top : ∀ q ∈ done ++ c :: cs, q.span.startLine < boundary →
        q.span.start ≤ c.span.start := by
      intro q hq above
      by_contra after
      exact none q (h.mem_done hq after) above
    constructor
    · rintro (⟨q, next, -⟩ | ⟨-, ends⟩)
      · exact absurd (top q next.mem next.above) next.after
      · exact ends
    · intro ends
      exact .inr ⟨top, ends⟩
  · have after : ¬q.span.start ≤ c.span.start := (h.after_of_mem_done hq).1
    have hq' : q ∈ done ++ c :: cs := List.mem_append_left _ hq
    constructor
    · rintro (⟨r, next, ends⟩ | ⟨top, -⟩)
      · have qr := least r (h.mem_done next.mem next.after) next.above
        have rq := next.next q hq' above after
        simp only [Span.startLine, Position.le_antisymm qr rq]
        exact ends
      · exact absurd (top q hq' above) after
    · intro ends
      exact .inl ⟨q, ⟨hq', above, after, fun r hr ra af => least r (h.mem_done hr af) ra⟩, ends⟩

theorem ScannedTo.concat {orphans : List Comment} (scanned : ScannedTo first orphans done boundary)
    (below : first ≤ c.span.startLine) : ScannedTo first orphans (done ++ [c]) boundary where
  leads := by
    intro p hp above
    rcases List.mem_append.1 hp with hp | hp
    · exact scanned.leads p hp above
    · rw [List.mem_singleton.1 hp] at above
      omega
  boundary := by
    have other : ∀ p ∈ done ++ [c], p.span.startLine < first → p ∈ done := by
      intro p hp above
      rcases List.mem_append.1 hp with hp | hp
      · exact hp
      · rw [List.mem_singleton.1 hp] at above
        omega
    rcases scanned.boundary with ⟨none, eq⟩ | ⟨q, hq, above, least, eq⟩
    · exact .inl ⟨fun p hp above => none p (other p hp above) above, eq⟩
    · exact .inr ⟨q, List.mem_append_left _ hq, above,
        fun r hr ra => least r (other r hr ra) ra, eq⟩

theorem ScannedTo.concat_above (h : Descending (done ++ c :: cs))
    (scanned : ScannedTo first (done ++ c :: cs) done boundary) (above : c.span.startLine < first)
    (leads : LeadsDown first (done ++ c :: cs) c) :
    ScannedTo first (done ++ c :: cs) (done ++ [c]) c.span.startLine where
  leads := by
    intro p hp pa
    rcases List.mem_append.1 hp with hp | hp
    · exact scanned.leads p hp pa
    · rw [List.mem_singleton.1 hp]
      exact leads
  boundary := by
    refine .inr ⟨c, by simp, above, ?_, rfl⟩
    intro r hr _
    rcases List.mem_append.1 hr with hr | hr
    · exact (h.after_of_mem_done hr).startsBefore
    · rw [List.mem_singleton.1 hr]
      exact Position.le_refl _

/-- What the scan takes of the comments that are left to it is what is adjacent. -/
theorem mem_scanAdjacent_iff {n : Node} (lines : n.effectiveStart ≤ n.span.stopLine)
    (h : Descending (done ++ cs))
    (scanned : ScannedTo n.effectiveStart (done ++ cs) done boundary) :
    ∀ o ∈ cs, o ∈ scanAdjacent n.effectiveStart n.span.stopLine boundary cs ↔
      IsAdjacent n (done ++ cs) o := by
  induction cs generalizing done boundary with
  | nil => simp
  | cons c cs ih =>
    have again : done ++ c :: cs = (done ++ [c]) ++ cs := by simp
    have fresh : ∀ o ∈ cs, o ≠ c := fun o ho => (h.before_of_mem_rest ho).ne
    have gone {b : Int} : c ∉ scanAdjacent n.effectiveStart n.span.stopLine b cs :=
      fun hc => fresh c ((scanAdjacent_sublist _ _ _ _).mem hc) rfl
    have rest {b : Int} (s : ScannedTo n.effectiveStart (done ++ c :: cs) (done ++ [c]) b) :
        ∀ o ∈ cs, o ∈ scanAdjacent n.effectiveStart n.span.stopLine b cs ↔
          IsAdjacent n (done ++ c :: cs) o := by
      rw [again] at h s ⊢
      exact ih h s
    have ends := scanned.leadsDown_iff h
    intro o ho
    rw [scanAdjacent]
    by_cases beyond : c.span.startLine > n.span.stopLine
    · -- The comment starts below the node.
      rw [if_pos beyond]
      rcases List.mem_cons.1 ho with rfl | ho
      · exact ⟨fun ho => absurd ho gone, fun adjacent => absurd adjacent.1 (by omega)⟩
      · exact rest (scanned.concat (by omega)) o ho
    · rw [if_neg beyond]
      by_cases inside : c.span.startLine ≥ n.effectiveStart
      · rw [if_pos inside]
        rcases List.mem_cons.1 ho with rfl | ho
        · exact ⟨fun _ => ⟨by omega, .inl inside⟩, fun _ => List.mem_cons_self ..⟩
        · rw [List.mem_cons, rest (scanned.concat inside) o ho]
          exact or_iff_right (fresh o ho)
      · rw [if_neg inside]
        have above : c.span.startLine < n.effectiveStart := by omega
        by_cases linked : boundary - 1 ≤ c.span.stopLine ∧ c.span.stopLine ≤ boundary
        · rw [if_pos linked]
          have leads := ends.2 linked
          rcases List.mem_cons.1 ho with rfl | ho
          · refine ⟨fun _ => ⟨by omega, .inr ?_⟩, fun _ => List.mem_cons_self ..⟩
            intro p hp after pa
            rcases List.mem_append.1 hp with hp | hp
            · exact scanned.leads p hp pa
            · rcases List.mem_cons.1 hp with rfl | hp
              · exact leads
              · exact absurd after (h.before_of_mem_rest hp).1
          · rw [List.mem_cons, rest (scanned.concat_above h above leads) o ho]
            exact or_iff_right (fresh o ho)
        · -- The chain breaks here, for this comment and for all above it.
          rw [if_neg linked]
          refine ⟨fun ho => absurd ho List.not_mem_nil, fun adjacent => ?_⟩
          have after : o.span.start ≤ c.span.start := by
            rcases List.mem_cons.1 ho with rfl | ho
            · exact Position.le_refl _
            · exact (h.before_of_mem_rest ho).startsBefore
          have out : ¬n.effectiveStart ≤ o.span.startLine := by
            rw [Position.le_iff] at after
            simp only [Span.startLine] at above ⊢
            omega
          have leads := adjacent.2.resolve_left out c (by simp) after above
          exact absurd (ends.1 leads) linked

/-- What the scan leaves, it leaves again. A comment at which a chain broke does not lead down to
the node either, since it is over before the chain starts. -/
theorem scanAdjacent_left (lines : first ≤ last) (h : Descending cs)
    (reached : boundary = first ∨ boundary < first ∧ ∀ c ∈ cs, c.span.stopLine ≤ boundary) :
    scanAdjacent first last first
      (cs.filter (· ∉ scanAdjacent first last boundary cs)) = [] := by
  induction cs generalizing boundary with
  | nil => rfl
  | cons c cs ih =>
    obtain ⟨before, hcs⟩ := List.pairwise_cons.1 h
    have fresh : ∀ o ∈ cs, o ≠ c := fun o ho => (before o ho).ne
    have reachedRest : boundary = first ∨
        boundary < first ∧ ∀ c ∈ cs, c.span.stopLine ≤ boundary :=
      reached.imp_right fun ⟨lt, le⟩ => ⟨lt, fun d hd => le d (List.mem_cons_of_mem _ hd)⟩
    -- A comment that is taken is not among those that are left.
    have taken (found : List Comment) :
        (c :: cs).filter (· ∉ c :: found) = cs.filter (· ∉ found) := by
      rw [List.filter_cons_of_neg (by simp)]
      refine List.filter_congr fun o ho => ?_
      simp [fresh o ho]
    rw [scanAdjacent]
    by_cases beyond : c.span.startLine > last
    · have gone : c ∉ scanAdjacent first last boundary cs :=
        fun hc => fresh c ((scanAdjacent_sublist _ _ _ _).mem hc) rfl
      rw [if_pos beyond, List.filter_cons_of_pos (by simpa using gone), scanAdjacent,
        if_pos beyond]
      exact ih hcs reachedRest
    · rw [if_neg beyond]
      by_cases inside : c.span.startLine ≥ first
      · rw [if_pos inside, taken]
        exact ih hcs reachedRest
      · rw [if_neg inside]
        by_cases linked : boundary - 1 ≤ c.span.stopLine ∧ c.span.stopLine ≤ boundary
        · rw [if_pos linked, taken]
          exact ih hcs (.inr ⟨by omega, fun d hd => (before d hd).stopLine_le⟩)
        · rw [if_neg linked]
          have free : (c :: cs).filter (· ∉ ([] : List Comment)) = c :: cs := by simp
          have short : ¬(first - 1 ≤ c.span.stopLine ∧ c.span.stopLine ≤ first) := by
            rcases reached with rfl | ⟨lt, le⟩
            · exact linked
            · have := le c (List.mem_cons_self ..)
              omega
          rw [free, scanAdjacent, if_neg beyond, if_neg inside, if_neg short]

end Scan

/-! ## The result -/

theorem Node.effectiveStart_isLeast (n : Node) :
    IsLeast (insert n.span.startLine
      {l | ∃ c ∈ n.slots.comment.toList ++ n.slots.doc.toList, l = c.span.startLine})
      n.effectiveStart := by
  have fold (lines : List Int) (a : Int) : IsLeast (insert a {l | l ∈ lines}) (lines.foldl min a) := by
    induction lines generalizing a with
    | nil => simp
    | cons b lines ih =>
      obtain ⟨mem, least⟩ := ih (min a b)
      constructor
      · rcases mem with eq | mem
        · rw [List.foldl_cons, eq]
          rcases min_choice a b with eq | eq <;> simp [eq]
        · exact .inr (List.mem_cons_of_mem _ mem)
      · have low := least (Set.mem_insert ..)
        rintro l (rfl | hl)
        · exact low.trans (min_le_left _ _)
        · rcases List.mem_cons.1 hl with rfl | hl
          · exact low.trans (min_le_right _ _)
          · exact least (.inr hl)
  have lines := fold ((n.slots.comment.toList ++ n.slots.doc.toList).map (·.span.startLine))
    n.span.startLine
  simp only [List.mem_map, eq_comm] at lines
  exact lines

theorem IsAdjacent.of_mem_iff {n : Node} {cs ds : List Comment} (h : ∀ c, c ∈ cs ↔ c ∈ ds)
    {o : Comment} : IsAdjacent n cs o ↔ IsAdjacent n ds o := by
  have below (p q : Comment) :
      IsNextBelow n.effectiveStart cs p q ↔ IsNextBelow n.effectiveStart ds p q := by
    constructor
    · rintro ⟨mem, above, after, next⟩
      exact ⟨(h q).1 mem, above, after, fun r hr => next r ((h r).2 hr)⟩
    · rintro ⟨mem, above, after, next⟩
      exact ⟨(h q).2 mem, above, after, fun r hr => next r ((h r).1 hr)⟩
  simp only [IsAdjacent, LeadsDown, below, h]

theorem mem_adjacentComments_iff {n : Node} {orphans : List Comment}
    (lines : n.effectiveStart ≤ n.span.stopLine) (apart : DoNotOverlap orphans) (o : Comment) :
    o ∈ adjacentComments n orphans ↔ o ∈ orphans ∧ IsAdjacent n orphans o := by
  have mem (c : Comment) : c ∈ sortBy Comment.startsAfter orphans ↔ c ∈ orphans := mem_sortBy
  have start : ScannedTo n.effectiveStart ([] ++ sortBy Comment.startsAfter orphans) []
      n.effectiveStart := ⟨by simp, .inl ⟨by simp, rfl⟩⟩
  have scan := mem_scanAdjacent_iff lines (descending_sortBy apart) start o
  rw [List.nil_append, mem, IsAdjacent.of_mem_iff mem] at scan
  constructor
  · intro ho
    have ho' := (mem o).1 ((scanAdjacent_sublist _ _ _ _).mem ho)
    exact ⟨ho', (scan ho').1 ho⟩
  · rintro ⟨ho, adjacent⟩
    exact (scan ho).2 adjacent

theorem adjacentComments_eq_of_perm {n : Node} {cs ds : List Comment} (apart : DoNotOverlap cs)
    (h : cs.Perm ds) : adjacentComments n ds = adjacentComments n cs := by
  have sorted : sortBy Comment.startsAfter ds = sortBy Comment.startsAfter cs := by
    refine (descending_sortBy (apart.perm h fun h => h.symm)).eq_of_perm
      (descending_sortBy apart) ?_
    exact (sortBy_perm _ ds).trans (h.symm.trans (sortBy_perm _ cs).symm)
  rw [adjacentComments, adjacentComments, sorted]

theorem adjacentComments_left {n : Node} {orphans : List Comment}
    (lines : n.effectiveStart ≤ n.span.stopLine) (apart : DoNotOverlap orphans) :
    adjacentComments n (orphans.filter (· ∉ adjacentComments n orphans)) = [] := by
  have sorted := descending_sortBy apart
  have apart' := apart.filter (· ∉ adjacentComments n orphans)
  have left : sortBy Comment.startsAfter (orphans.filter (· ∉ adjacentComments n orphans)) =
      (sortBy Comment.startsAfter orphans).filter (· ∉ adjacentComments n orphans) := by
    refine (descending_sortBy apart').eq_of_perm (List.Pairwise.filter _ sorted) ?_
    exact (sortBy_perm _ _).trans ((sortBy_perm _ orphans).symm.filter _)
  rw [adjacentComments, left]
  exact scanAdjacent_left lines sorted (.inl rfl)

/-- The rule of adjacency: of orphans that do not overlap, exactly those are taken that start on
the lines of the node or lead down to it, from the last one up, whatever the order in which they
are given, and what is left is not taken when the rule is applied again. -/
theorem adjacentComments_rule (n : Node) (orphans : List Comment)
    (lines : n.effectiveStart ≤ n.span.stopLine) (apart : DoNotOverlap orphans) :
    IsLeast (insert n.span.startLine
        {l | ∃ c ∈ n.slots.comment.toList ++ n.slots.doc.toList, l = c.span.startLine})
      n.effectiveStart ∧
    Descending (adjacentComments n orphans) ∧
    (∀ o, o ∈ adjacentComments n orphans ↔ o ∈ orphans ∧ IsAdjacent n orphans o) ∧
    (∀ others : List Comment, orphans.Perm others →
      adjacentComments n others = adjacentComments n orphans) ∧
    adjacentComments n (orphans.filter (· ∉ adjacentComments n orphans)) = [] := by
  refine ⟨n.effectiveStart_isLeast, ?_, mem_adjacentComments_iff lines apart,
    fun _ => adjacentComments_eq_of_perm apart, adjacentComments_left lines apart⟩
  exact (descending_sortBy apart).sublist (scanAdjacent_sublist _ _ _ _)

def remarkedField : Node where
  span := .ofLines 6 3 7 12
  slots := ⟨some ⟨1, .line, " in front", .ofLines 5 3 5 13⟩, none, []⟩
  construct := .fieldDeclaration "int"
    [.bare (.ofLines 6 7 7 8) (.variableDeclarator "x" none)] []

/-- Comments around `remarkedField`: below it, inside it, after a blank line, and above it. -/
def remarksAround : List Comment :=
  [⟨2, .line, " below", .ofLines 9 3 9 10⟩, ⟨3, .line, " inside", .ofLines 6 9 6 17⟩,
    ⟨4, .line, " far above", .ofLines 1 3 1 14⟩, ⟨5, .block, " above ", .ofLines 3 3 4 11⟩]

theorem adjacentComments_remarkedField :
    remarkedField.effectiveStart ≤ remarkedField.span.stopLine ∧ DoNotOverlap remarksAround ∧
      (adjacentComments remarkedField remarksAround).map (·.number) = [3, 5] ∧
      IsAdjacent remarkedField remarksAround ⟨5, .block, " above ", .ofLines 3 3 4 11⟩ ∧
      adjacentComments remarkedField remarksAround.reverse =
        adjacentComments remarkedField remarksAround := by
  have lines : remarkedField.effectiveStart ≤ remarkedField.span.stopLine := by decide
  have apart : DoNotOverlap remarksAround := by
    unfold DoNotOverlap Comment.IsBefore
    decide
  have taken : (adjacentComments remarkedField remarksAround).map (·.number) = [3, 5] := by
    decide
  obtain ⟨-, -, mem, order, -⟩ := adjacentComments_rule remarkedField remarksAround lines apart
  refine ⟨lines, apart, taken, ?_, order _ (List.reverse_perm _).symm⟩
  exact ((mem _).1 (by decide)).2

end JavaCensus
