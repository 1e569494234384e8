import JavaCensus.Proofs.Bare
import JavaCensus.Proofs.Conservation
import JavaCensus.Proofs.Placed

/-!
# Comments of a source

From the parse tree to the census: a comment tree anywhere in the parse tree becomes one comment,
the comment is placed in one slot of the unit, and the unit counts it once.
-/
namespace JavaCensus

namespace ParseTree

mutual

def walk : ParseTree → List ParseTree
  | ⟨type, named, missing, start, stop, field, children⟩ =>
    ⟨type, named, missing, start, stop, field, children⟩ :: walkAll children

def walkAll : List ParseTree → List ParseTree
  | [] => []
  | t :: ts => walk t ++ walkAll ts

end

theorem walkAll_eq (ts : List ParseTree) : walkAll ts = ts.flatMap walk := by
  induction ts with
  | nil => rfl
  | cons t ts ih => rw [walkAll, ih, List.flatMap_cons]

theorem walk_eq (t : ParseTree) : t.walk = t :: t.children.flatMap walk := by
  cases t
  rw [walk, walkAll_eq]

theorem trees_walkStack (stack : List Met) :
    (walkStack stack).map (·.tree) = stack.flatMap (·.tree.walk) := by
  fun_induction walkStack stack with
  | case1 => rfl
  | case2 m rest ih =>
    have children : m.tree.metChildren.flatMap (·.tree.walk) = m.tree.children.flatMap walk := by
      rw [metChildren, List.flatMap_map]
    rw [List.map_cons, ih, List.flatMap_append, children, List.flatMap_cons, walk_eq m.tree,
      List.cons_append]

theorem trees_descendants (t : ParseTree) : t.descendants.map (·.tree) = t.walk := by
  rw [descendants, trees_walkStack, List.flatMap_singleton]

/-- The trees of comments, at any depth. -/
def commentTrees (t : ParseTree) : List ParseTree :=
  t.walk.filter (·.isComment)

end ParseTree

/-- The kind that the delimiters of a comment tell. A block comment without any content has the
asterisk of its end in the place of the second one of a documentation comment. -/
def CommentKind.ofDelimiters (text : List Char) : CommentKind :=
  if ['/', '/'] <+: text then .line
  else if ['/', '*', '*'] <+: text ∧ text ≠ ['/', '*', '*', '/'] then .doc
  else .block

/-- What stands between the delimiters of a comment. -/
def CommentKind.between (text : List Char) : CommentKind → List Char
  | .line => text.drop 2
  | .block => (text.take (text.length - 2)).drop 2
  | .doc => (text.take (text.length - 2)).drop 3

/-- What the comment of a tree contributes: its kind is told by its delimiters, its lines by where
the tree starts and stops, and its length by what stands between the delimiters. -/
def SourceText.contribution (s : SourceText) (t : ParseTree) : CommentCounts :=
  let kind := CommentKind.ofDelimiters (s.text t)
  kind.contribution ((s.point t.stop).row - (s.point t.start).row + 1)
    (contentLength kind (kind.between (s.text t)))

theorem Comment.ofText_eq (number : Nat) (text : List Char) (span : Span) :
    ofText number text span = ⟨number, .ofDelimiters text,
      .ofList ((CommentKind.ofDelimiters text).between text), span⟩ := by
  unfold ofText
  split
  · simp [CommentKind.ofDelimiters, CommentKind.between]
  · split
    · simp_all [CommentKind.ofDelimiters, CommentKind.between]
    · simp_all [CommentKind.ofDelimiters, CommentKind.between, List.drop_take]
  · rename_i line doc
    have kind : CommentKind.ofDelimiters text = .block := by
      rw [CommentKind.ofDelimiters, if_neg, if_neg]
      · rintro ⟨⟨content, rfl⟩, -⟩
        exact doc content rfl
      · rintro ⟨content, rfl⟩
        exact line content rfl
    rw [kind]
    rfl

theorem SourceText.contribution_eq (s : SourceText) (t : ParseTree) (number : Nat) :
    (Comment.ofText number (s.text t) (s.span t)).contribution = s.contribution t := by
  rw [Comment.ofText_eq, Comment.contribution, Comment.contentLength, String.toList_ofList,
    contribution]
  simp [span, Span.ofLines]

namespace Reading

variable (r : Reading)

theorem comments_eq (root : ParseTree) :
    r.comments root = root.commentTrees.mapIdx fun i t =>
      .ofText i (r.source.text t) (r.source.span t) := by
  rw [comments, ParseTree.commentTrees, ← ParseTree.trees_descendants, List.filter_map]
  exact List.ext_getElem (by simp [Function.comp_def]) fun i _ _ => by simp [Function.comp_def]

theorem nodup_comments (root : ParseTree) : (r.comments root).Nodup := by
  rw [comments_eq, List.nodup_iff_pairwise_ne, List.pairwise_iff_getElem]
  intro i j hi hj lt eq
  have numbers := congrArg Comment.number eq
  simp only [List.getElem_mapIdx, Comment.ofText_eq] at numbers
  omega

theorem ofComments_comments (root : ParseTree) :
    CommentCounts.ofComments (r.comments root) =
      (root.commentTrees.map r.source.contribution).sum := by
  rw [CommentCounts.ofComments_eq_sum, comments_eq]
  congr 1
  exact List.ext_getElem (by simp) fun i _ _ => by simp [SourceText.contribution_eq]

end Reading

theorem heldComments_readUnit {name : String} {level : LanguageLevel} {preview : Bool}
    {source : SourceText} {parse : Parse} {u : ReadUnit}
    (h : readUnit name level preview source parse = .ok u) :
    u.unit.heldComments.Perm ((Reading.mk name source).comments parse.root) := by
  obtain ⟨unit, hunit, rfl⟩ := readUnit_eq_ok.1 h
  have placed := unit.heldComments_place ((Reading.mk name source).comments parse.root)
  rwa [Reading.unitOf_heldComments hunit, List.nil_append] at placed

/-- What a collector that has taken in a source has done. -/
theorem Collector.collect_of_ok {c : Collector} {level : LanguageLevel} {preview : Bool}
    {name : String} {source : SourceText} {parse : Parse}
    (h : (c.collect level preview name source parse).result = .ok ()) :
    ∃ u, readUnit name level preview source parse = .ok u ∧
      (c.collectUnit name u.unit).result = .ok () ∧
      (c.collect level preview name source parse).collector =
        (c.collectUnit name u.unit).collector := by
  unfold collect at h ⊢
  cases hu : readUnit name level preview source parse with
  | error e =>
    rw [hu] at h
    cases h
  | ok u =>
    rw [hu] at h
    exact ⟨u, rfl, h, rfl⟩

/-- Every comment of a source is counted once, with its own contribution, and the ledger of the
unit ends with as many comments as the parse tree has comment trees. -/
theorem Collector.collect_counts_every_comment {c : Collector} {level : LanguageLevel}
    {preview : Bool} {name : String} {source : SourceText} {parse : Parse}
    (h : (c.collect level preview name source parse).result = .ok ()) :
    (c.collect level preview name source parse).collector.census.total.comments =
        c.census.total.comments + (parse.root.commentTrees.map source.contribution).sum ∧
      ∃ read u ledger, readUnit name level preview source parse = .ok read ∧
        (JavaCensus.collectUnit read.unit name).Returns .empty u ledger ∧
        (c.collect level preview name source parse).collector.census =
          c.census.addUnit (u.map .ofComments) ∧
        u.buckets.flatten.Perm ((Reading.mk name source).comments parse.root) ∧
        ledger.size = parse.root.commentTrees.length := by
  obtain ⟨read, hread, hunit, collector⟩ := collect_of_ok h
  obtain ⟨u, ledger, hu, added⟩ := collectUnit_of_ok hunit
  have nodup := (Reading.mk name source).nodup_comments parse.root
  have held := heldComments_readUnit hread
  obtain ⟨claimed, buckets⟩ := buckets_perm_of_collectUnit hu
  rw [(held.nodup_iff.2 nodup).dedup] at claimed buckets
  have buckets := buckets.trans held
  rw [collector, added]
  refine ⟨?_, read, u, ledger, hread, hu, rfl, buckets, ?_⟩
  · rw [Census.comments_total_addUnit, CollectedUnit.buckets_map,
      ← CommentCounts.ofComments_flatten, CommentCounts.ofComments_perm buckets,
      Reading.ofComments_comments]
  · rw [Ledger.size, (claimed.trans held).length_eq, Reading.comments_eq, List.length_mapIdx]

/-! ## A package with two comments -/

section PackageSource

/-- A comment in front of a package declaration, and one within it. -/
def packageSource : SourceText :=
  .ofString "//a\npackage p/*b*/;"

def packageTree : ParseTree :=
  ⟨"program", true, false, 0, 19, none,
    [⟨"line_comment", true, false, 0, 3, none, []⟩,
      ⟨"package_declaration", true, false, 4, 19, none,
        [⟨"package", false, false, 4, 11, none, []⟩, ⟨"identifier", true, false, 12, 13, none, []⟩,
          ⟨"block_comment", true, false, 13, 18, none, []⟩,
          ⟨";", false, false, 18, 19, none, []⟩]⟩]⟩

/-- The unit that the package is read as, with the two comments on the package declaration. -/
def packageUnit : ReadUnit :=
  let front : Comment := ⟨0, .line, "a", .ofLines 1 1 1 3⟩
  let inner : Comment := ⟨1, .block, "b", .ofLines 2 10 2 14⟩
  ⟨⟨.ofLines 1 1 2 15, .empty, .compilationUnit
      (some ⟨.ofLines 2 1 2 15, ⟨some front, none, [inner]⟩, .packageDeclaration "p"⟩) [] [] none⟩,
    [front, inner]⟩

theorem readUnit_packageTree :
    readUnit "p" .latest false packageSource ⟨packageTree, false⟩ = .ok packageUnit := by
  let r : Reading := ⟨"p", packageSource⟩
  have walked : (packageTree.descendants.filter fun m => !m.tree.isComment) =
      packageTree.descendants.filter fun m => !m.tree.isComment := rfl
  conv_rhs at walked => cbv
  have features : r.checkFeatures .latest false packageTree = .ok () := by
    rw [Reading.checkFeatures, walked]
    rfl
  have unit : r.unitOf .latest false ⟨packageTree, false⟩ =
      .ok (.bare (.ofLines 1 1 2 15) (.compilationUnit
        (some (.bare (.ofLines 2 1 2 15) (.packageDeclaration "p"))) [] [] none)) := by
    rw [Reading.unitOf, features]
    rfl
  have comments : r.comments packageTree = packageUnit.comments := by cbv
  refine readUnit_eq_ok.2 ⟨_, unit, ?_⟩
  rw [comments]
  cbv

theorem Collector.collect_packageTree :
    packageTree.commentTrees.map packageSource.contribution =
        [⟨1, 1, 0, 0, 0, 0, 0, 0⟩, ⟨0, 0, 1, 1, 1, 0, 0, 0⟩] ∧
      (empty.collect .latest false "p" packageSource
        ⟨packageTree, false⟩).collector.census.total.comments = ⟨1, 1, 1, 1, 1, 0, 0, 0⟩ ∧
      ∃ read u ledger, readUnit "p" .latest false packageSource ⟨packageTree, false⟩ = .ok read ∧
        (JavaCensus.collectUnit read.unit "p").Returns .empty u ledger ∧
        (empty.collect .latest false "p" packageSource ⟨packageTree, false⟩).collector.census =
          empty.census.addUnit (u.map .ofComments) ∧
        u.buckets.flatten.Perm ((Reading.mk "p" packageSource).comments packageTree) ∧
        ledger.size = packageTree.commentTrees.length := by
  have taken :
      (empty.collect .latest false "p" packageSource ⟨packageTree, false⟩).result = .ok () := by
    rw [collect, readUnit_packageTree]
    cbv
  obtain ⟨total, rest⟩ := collect_counts_every_comment taken
  have contributions : packageTree.commentTrees.map packageSource.contribution =
      [⟨1, 1, 0, 0, 0, 0, 0, 0⟩, ⟨0, 0, 1, 1, 1, 0, 0, 0⟩] := by cbv
  rw [contributions] at total
  exact ⟨contributions, total, rest⟩

end PackageSource

end JavaCensus
