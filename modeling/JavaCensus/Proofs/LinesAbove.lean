import JavaCensus.Proofs.Rereading

/-!
# Lines above a source

Lines that are put above a source move its parse tree by their bytes and what is read from it by
their number. What is read is placed and collected as before, so such lines change nothing but the lines
that errors name.
-/
namespace JavaCensus

/-! ## Points in a source -/

theorem pointFrom_append (p : Point) (front bytes : List UInt8) (n : Nat) :
    pointFrom p (front ++ bytes) (n + front.length) =
      pointFrom (pointFrom p front front.length) bytes n := by
  induction front generalizing p with
  | nil => cases n <;> cases bytes <;> rfl
  | cons b front ih => exact ih (p.advance b)

theorem pointFrom_below (k : Nat) (p : Point) (bytes : List UInt8) (n : Nat) :
    pointFrom ⟨p.row + k, p.column⟩ bytes n =
      ⟨(pointFrom p bytes n).row + k, (pointFrom p bytes n).column⟩ := by
  induction bytes generalizing p n with
  | nil => cases n <;> rfl
  | cons b bytes ih =>
    cases n with
    | zero => rfl
    | succ n =>
      have step : Point.advance ⟨p.row + k, p.column⟩ b =
          ⟨(p.advance b).row + k, (p.advance b).column⟩ := by
        unfold Point.advance
        split
        · rw [Nat.add_right_comm]
        · rfl
      rw [pointFrom, step, ih, pointFrom]

/-- Text that takes up a number of whole lines. -/
structure LinesAbove where
  bytes : List UInt8
  count : Nat
  whole : pointFrom ⟨0, 0⟩ bytes bytes.length = ⟨count, 0⟩

/-- The source with lines put above it. -/
def SourceText.below (above : LinesAbove) (s : SourceText) : SourceText :=
  ⟨above.bytes ++ s.bytes⟩

theorem SourceText.point_below (above : LinesAbove) (s : SourceText) (n : Nat) :
    (s.below above).point (n + above.bytes.length) =
      ⟨(s.point n).row + above.count, (s.point n).column⟩ := by
  have down := pointFrom_below above.count ⟨0, 0⟩ s.bytes n
  rw [Nat.zero_add] at down
  rw [point, below, pointFrom_append, above.whole, down, point]

/-! ## Parse trees -/

namespace ParseTree

mutual

/-- The tree with all bytes moved by `k`. -/
def moved (k : Nat) : ParseTree → ParseTree
  | ⟨type, named, missing, start, stop, field, children⟩ =>
    ⟨type, named, missing, start + k, stop + k, field, movedAll k children⟩

def movedAll (k : Nat) : List ParseTree → List ParseTree
  | [] => []
  | t :: ts => t.moved k :: movedAll k ts

end

variable (k : Nat) (t : ParseTree)

theorem movedAll_eq (ts : List ParseTree) : movedAll k ts = ts.map (moved k) := by
  induction ts with
  | nil => rfl
  | cons t ts ih => rw [movedAll, ih, List.map_cons]

theorem children_moved : (t.moved k).children = t.children.map (moved k) := by
  cases t
  rw [moved, movedAll_eq]

theorem type_moved : (t.moved k).type = t.type := by cases t; rw [moved]

theorem named_moved : (t.moved k).named = t.named := by cases t; rw [moved]

theorem missing_moved : (t.moved k).missing = t.missing := by cases t; rw [moved]

theorem field_moved : (t.moved k).field = t.field := by cases t; rw [moved]

theorem start_moved : (t.moved k).start = t.start + k := by cases t; rw [moved]

theorem stop_moved : (t.moved k).stop = t.stop + k := by cases t; rw [moved]

end ParseTree

def Parse.moved (k : Nat) (p : Parse) : Parse :=
  ⟨p.root.moved k, p.hasError⟩

theorem Comment.ofText_shift (number : Nat) (text : List Char) (span : Span) (k : Int) :
    (ofText number text span).shift k = ofText number text (span.shift k) := by
  unfold ofText
  split
  · rfl
  · split <;> rfl
  · rfl

namespace LinesAbove

variable (above : LinesAbove) (r : Reading)

theorem text_below (s : SourceText) (t : ParseTree) :
    (s.below above).text (t.moved above.bytes.length) = s.text t := by
  have start : (above.bytes ++ s.bytes).drop (t.start + above.bytes.length) =
      s.bytes.drop t.start := by
    simp [List.drop_append]
  rw [SourceText.text, SourceText.below, ParseTree.start_moved, ParseTree.stop_moved, start,
    Nat.add_sub_add_right, SourceText.text]

theorem span_below (s : SourceText) (t : ParseTree) :
    (s.below above).span (t.moved above.bytes.length) = (s.span t).shift above.count := by
  simp only [SourceText.span, ParseTree.start_moved, ParseTree.stop_moved, SourceText.point_below,
    Span.ofLines, Span.shift, Position.shift, Nat.cast_add, Int.add_right_comm]

theorem line_below (s : SourceText) (t : ParseTree) :
    (s.below above).line (t.moved above.bytes.length) = s.line t + above.count := by
  rw [SourceText.line, ParseTree.start_moved, SourceText.point_below, SourceText.line,
    Nat.add_right_comm]

/-- The trees of a reading with lines put above its source. -/
def view : View where
  near := r
  far := ⟨r.unit, r.source.below above⟩
  see := ParseTree.moved above.bytes.length
  keeps _ := true
  lines := above.count
  unit_eq := rfl
  type_see := ParseTree.type_moved _
  named_see := ParseTree.named_moved _
  field_see := ParseTree.field_moved _
  children_see t := by rw [List.filter_true, ParseTree.children_moved]
  text_see := above.text_below r.source
  span_see := above.span_below r.source
  line_see := above.line_below r.source
  isComment_of_hidden _ h := absurd h Bool.true_eq_false.mp

theorem clearBelow_view (t : ParseTree) : (above.view r).ClearBelow t :=
  fun _ _ => ⟨fun _ _ h => absurd h (by simp [view]), fun _ _ h => absurd h (by simp [view]),
    fun _ _ _ => rfl, fun _ _ _ _ _ => rfl⟩

theorem descendants_moved (t : ParseTree) :
    (t.moved above.bytes.length).descendants = t.descendants.map (above.view r).seeMet := by
  have shown := (above.clearBelow_view r t).descendants
  rw [show (above.view r).keeps = fun _ => true from rfl, List.filter_true] at shown
  rw [show t.moved above.bytes.length = (above.view r).see t from rfl, shown,
    ParseTree.descendants, ParseTree.walkStack, List.append_nil]
  rfl

theorem checkRepairs_moves (parse : Parse) :
    (above.view r).Moves id (r.checkRepairs parse)
      ((above.view r).far.checkRepairs (parse.moved above.bytes.length)) := by
  have fault (m : ParseTree.Met) :
      (above.view r).far.fault? ((above.view r).seeMet m).tree = r.fault? m.tree := by
    show (above.view r).far.fault? ((above.view r).see m.tree) = r.fault? m.tree
    rw [Reading.fault?, View.text_see, View.type_see, Reading.fault?]
    show (if (m.tree.moved above.bytes.length).missing then _ else _) = _
    rw [ParseTree.missing_moved]
    rfl
  rw [Reading.checkRepairs, Reading.checkRepairs, Parse.moved, descendants_moved above r,
    List.find?_map]
  simp only [Function.comp_def, fault]
  split
  · exact .pure rfl
  · cases parse.root.descendants.find? fun m => (r.fault? m.tree).isSome with
    | none => exact .error rfl
    | some m =>
      simp only [Option.map_some, fault]
      exact .reject m.tree _

/-- The comments of a source stand further down, and are numbered as before. -/
theorem comments_moved (root : ParseTree) :
    (above.view r).far.comments (root.moved above.bytes.length) =
      (r.comments root).map (·.shift above.count) := by
  have comment (i : Nat) (m : ParseTree.Met) :
      Comment.ofText i ((above.view r).far.source.text ((above.view r).seeMet m).tree)
        ((above.view r).far.source.span ((above.view r).seeMet m).tree) =
      (Comment.ofText i (r.source.text m.tree) (r.source.span m.tree)).shift above.count := by
    show Comment.ofText i ((above.view r).far.source.text ((above.view r).see m.tree))
      ((above.view r).far.source.span ((above.view r).see m.tree)) = _
    rw [View.text_see, View.span_see, Comment.ofText_shift]
    rfl
  rw [Reading.comments, descendants_moved above r, List.filter_map, Reading.comments]
  have isComment : ((fun m : ParseTree.Met => m.tree.isComment) ∘ (above.view r).seeMet) =
      fun m => m.tree.isComment := by
    funext m
    exact (above.view r).isComment_see m.tree
  rw [isComment]
  simp only [List.mapIdx_eq_zipIdx_map, List.zipIdx_map, List.map_map]
  exact List.map_congr_left fun p _ => comment p.2 p.1

end LinesAbove

/-! ## The unit and its span -/

namespace Node

variable (n : Node) (s : Span)

/-- Where comments are placed does not depend on the span of the tree as a whole. -/
theorem place_span (cs : List Comment) :
    ({ n with span := s } : Node).place cs = { n.place cs with span := s } := by
  rw [place, placeSorted_eq, place, placeSorted_eq]
  rfl

theorem subtreeComments_span :
    ({ n with span := s } : Node).subtreeComments = n.subtreeComments := by
  rw [subtreeComments, walk_eq, subtreeComments, walk_eq]
  rfl

end Node

theorem collectType_span (t n : Node) (s : Span) :
    collectType t { n with span := s } = collectType t n := by
  rw [collectType_eq, collectType_eq]
  rfl

theorem claimUnitComments_span (n : Node) (s : Span) (imports : List Node) :
    claimUnitComments { n with span := s } imports = claimUnitComments n imports := by
  unfold claimUnitComments Attribution.claimSubtree
  rw [n.subtreeComments_span]
  rfl

/-- What a unit is collected as does not depend on its span. -/
theorem collectUnit_span (n : Node) (s : Span) (name : String) :
    collectUnit { n with span := s } name = collectUnit n name := by
  have ordinary : collectOrdinaryUnit { n with span := s } name = collectOrdinaryUnit n name := by
    unfold collectOrdinaryUnit
    simp only [collectType_span, claimUnitComments_span]
    rfl
  have modular : collectModularUnit { n with span := s } name = collectModularUnit n name := by
    unfold collectModularUnit
    simp only [claimUnitComments_span]
    rfl
  unfold collectUnit
  rw [ordinary, modular]
  rfl

theorem Node.typeCount_shift (k : Int) (n : Node) : (n.shift k).typeCount = n.typeCount := by
  rw [typeCount, construct_shift, typeCount]
  cases n.construct with
  | compilationUnit package imports types module =>
    simp [Construct.map, Construct.traverse]
  | _ => rfl

/-! ## Collecting -/

/-- A unit that is read with its comments placed. -/
def ReadUnit.of (unit : Node) (comments : List Comment) : ReadUnit :=
  ⟨unit.place comments, sortBy Comment.startsBefore comments⟩

theorem readUnit_eq (name : String) (level : LanguageLevel) (preview : Bool) (source : SourceText)
    (parse : Parse) :
    readUnit name level preview source parse =
      ((Reading.mk name source).unitOf level preview parse).map fun unit =>
        ReadUnit.of unit ((Reading.mk name source).comments parse.root) := by
  unfold readUnit
  dsimp only
  cases (Reading.mk name source).unitOf level preview parse <;> rfl

/-- A unit whose contents are further down is placed, logged and taken in as the unit is. -/
theorem ReadUnit.of_lowered (k : Nat) (unit : Node) (comments : List Comment) (c : Collector)
    (name : String) :
    let far := of (unit.lowered k) (comments.map (·.shift k))
    let near := of unit comments
    far.logRecord name = near.logRecord name ∧
      c.collectUnit name far.unit = c.collectUnit name near.unit := by
  have placed : (of (unit.lowered k) (comments.map (·.shift k))).unit =
      { (unit.place comments).shift k with span := (unit.lowered k).span } := by
    rw [← unit.place_shift]
    exact Node.place_span (unit.shift k) _ _
  constructor
  · have types : (of (unit.lowered k) (comments.map (·.shift k))).unit.typeCount =
        (of unit comments).unit.typeCount := by
      rw [placed]
      exact (unit.place comments).typeCount_shift k
    rw [logRecord, types, logRecord]
    simp only [of, length_sortBy, List.length_map]
  · rw [placed, ← c.collectUnit_shift name k (of unit comments).unit]
    simp only [Collector.collectUnit, collectUnit_span]
    rfl

/-- Lines above a source change nothing of what is collected, and of a refusal nothing but its
line. -/
theorem Collector.collect_below (above : LinesAbove) (c : Collector) (level : LanguageLevel)
    (preview : Bool) (name : String) (source : SourceText) (parse : Parse) :
    c.collect level preview name (source.below above) (parse.moved above.bytes.length) =
      match readUnit name level preview source parse with
      | .error e => ⟨c, [], .error (e.below above.count)⟩
      | .ok _ => c.collect level preview name source parse := by
  let r : Reading := ⟨name, source⟩
  have moves : (above.view r).Moves (Node.lowered above.count) (r.unitOf level preview parse)
      ((above.view r).far.unitOf level preview (parse.moved above.bytes.length)) :=
    View.unitOf_moves level preview parse.hasError (above.clearBelow_view r parse.root)
      (above.checkRepairs_moves r parse)
  have far : readUnit name level preview (source.below above) (parse.moved above.bytes.length) =
      ((above.view r).far.unitOf level preview (parse.moved above.bytes.length)).map fun unit =>
        ReadUnit.of unit ((above.view r).far.comments (parse.root.moved above.bytes.length)) :=
    readUnit_eq ..
  have near : readUnit name level preview source parse =
      (r.unitOf level preview parse).map fun unit => ReadUnit.of unit (r.comments parse.root) :=
    readUnit_eq ..
  rw [show _ = _ from moves, above.comments_moved r] at far
  rw [collect, collect, far, near]
  cases r.unitOf level preview parse with
  | error e => rfl
  | ok unit =>
    obtain ⟨log, outcome⟩ :=
      ReadUnit.of_lowered above.count unit (r.comments parse.root) c name
    simp only [Except.mapError, Except.map, log, outcome]

/-- A tree and its comments may be moved by any number of lines, and lines may be put above a
source: every comment is placed where it was, and the same is collected, or it fails as it did. Only
a source that is refused is refused further down. -/
theorem collect_moved :
    (∀ (k : Int) (n : Node) (cs : List Comment),
      (n.shift k).place (cs.map (·.shift k)) = (n.place cs).shift k ∧
      ∀ (c : Collector) (name : String),
        c.collectUnit name ((n.shift k).place (cs.map (·.shift k))) =
          c.collectUnit name (n.place cs)) ∧
    ∀ (above : LinesAbove) (c : Collector) (level : LanguageLevel) (preview : Bool) (name : String)
      (source : SourceText) (parse : Parse),
      c.collect level preview name (source.below above) (parse.moved above.bytes.length) =
        match readUnit name level preview source parse with
        | .error e => ⟨c, [], .error (e.below above.count)⟩
        | .ok _ => c.collect level preview name source parse := by
  constructor
  · intro k n cs
    refine ⟨n.place_shift k cs, fun c name => ?_⟩
    rw [n.place_shift, c.collectUnit_shift]
  · intro above c level preview name source parse
    exact c.collect_below above level preview name source parse

end JavaCensus
