import JavaCensus.Proofs.Origins
import JavaCensus.Proofs.SwitchEntries

/-!
# Nesting

Positions grow with the bytes before them, so that a tree lies within another one by lines and
columns if it does by its bytes. The nodes that are read from nested trees are nested then: a node
spans its own tree, except for the entries of a switch and for the unit, which are treated on their
own.
-/
namespace JavaCensus

/-! ## Points -/

namespace Point

/-- Earlier rows first, then earlier columns. -/
protected def LE (p q : Point) : Prop :=
  p.row < q.row ∨ (p.row = q.row ∧ p.column ≤ q.column)

instance : LE Point := ⟨Point.LE⟩

variable {p q o : Point}

theorem le_iff : p ≤ q ↔ p.row < q.row ∨ (p.row = q.row ∧ p.column ≤ q.column) :=
  Iff.rfl

theorem le_refl (p : Point) : p ≤ p :=
  le_iff.2 (.inr ⟨rfl, Nat.le_refl _⟩)

theorem le_trans (h : p ≤ q) (k : q ≤ o) : p ≤ o := by
  rw [le_iff] at *
  omega

theorem le_advance (p : Point) (b : UInt8) : p ≤ p.advance b := by
  rw [le_iff, advance]
  split
  · exact .inl (Nat.lt_succ_self _)
  · exact .inr ⟨rfl, Nat.le_succ _⟩

end Point

theorem le_pointFrom (p : Point) (bytes : List UInt8) (n : Nat) : p ≤ pointFrom p bytes n := by
  induction bytes generalizing p n with
  | nil => cases n <;> exact p.le_refl
  | cons b bytes ih =>
    cases n with
    | zero => exact p.le_refl
    | succ n => exact Point.le_trans (p.le_advance b) (ih (p.advance b) n)

/-- More bytes lead no less far. -/
theorem pointFrom_le_pointFrom (p : Point) (bytes : List UInt8) {m n : Nat} (h : m ≤ n) :
    pointFrom p bytes m ≤ pointFrom p bytes n := by
  induction bytes generalizing p m n with
  | nil =>
    have stays : ∀ k, pointFrom p [] k = p := fun k => by cases k <;> rfl
    rw [stays, stays]
    exact p.le_refl
  | cons b bytes ih =>
    cases m with
    | zero => exact le_pointFrom p (b :: bytes) n
    | succ m =>
      cases n with
      | zero => exact absurd h (Nat.not_succ_le_zero m)
      | succ n => exact ih (p.advance b) (Nat.le_of_succ_le_succ h)

namespace SourceText

variable (s : SourceText) {t u : ParseTree}

theorem point_le_point {m n : Nat} (h : m ≤ n) : s.point m ≤ s.point n :=
  pointFrom_le_pointFrom ⟨0, 0⟩ s.bytes h

theorem span_start_le (h : t.start ≤ u.start) : (s.span t).start ≤ (s.span u).start := by
  have points := Point.le_iff.1 (s.point_le_point h)
  simp only [span, Span.ofLines, Position.le_iff]
  omega

theorem span_stop_le (h : t.stop ≤ u.stop) : (s.span t).stop ≤ (s.span u).stop := by
  have points := Point.le_iff.1 (s.point_le_point h)
  simp only [span, Span.ofLines, Position.le_iff]
  omega

theorem first_le_span_start (t : ParseTree) : ⟨1, 1⟩ ≤ (s.span t).start := by
  simp only [span, Span.ofLines, Position.le_iff]
  omega

end SourceText

/-! ## Nested trees -/

namespace ParseTree

/-- The bytes of the second tree lie within those of the first. -/
def Encloses (t u : ParseTree) : Prop :=
  t.start ≤ u.start ∧ u.stop ≤ t.stop

instance (t u : ParseTree) : Decidable (t.Encloses u) :=
  inferInstanceAs (Decidable (_ ∧ _))

/-- A tree as grammars give them: children lie within their parents, and in the groups of a switch
the labels stand before the statements. -/
structure Nested (t : ParseTree) : Prop where
  within : ∀ u ∈ t.walk, ∀ c ∈ u.children, u.Encloses c
  labelsFirst : ∀ u ∈ t.walk, u.type = "switch_block_statement_group" →
    ∀ label ∈ u.namedChildren.filter (·.type == "switch_label"), ∀ s ∈ u.entryTrees,
      label.start ≤ s.start

namespace Nested

variable {t u : ParseTree}

theorem of_mem_walk (h : t.Nested) (hu : u ∈ t.walk) : u.Nested where
  within v hv := h.within v (mem_walk_trans hu hv)
  labelsFirst v hv := h.labelsFirst v (mem_walk_trans hu hv)

theorem contains_span (h : t.Nested) (s : SourceText) (hu : u ∈ t.walk) :
    (s.span t).contains (s.span u) := by
  induction t using ParseTree.induction with
  | step t ih =>
    have inside {c : ParseTree} (hc : c ∈ t.children) : (s.span t).contains (s.span c) := by
      obtain ⟨start, stop⟩ := h.within t t.mem_walk_self c hc
      exact ⟨s.span_start_le start, s.span_stop_le stop⟩
    rw [walk_eq, List.mem_cons, List.mem_flatMap] at hu
    rcases hu with rfl | ⟨c, hc, hu⟩
    · exact Span.contains_refl _
    · have below := ih c hc (h.of_mem_walk (mem_walk_of_mem_children hc)) hu
      exact Span.contains_trans (inside hc) below

end Nested

end ParseTree

/-! ## Nested nodes -/

namespace Node

/-- Every part lies within the node it is a part of, at every depth. -/
def Nested (n : Node) : Prop :=
  ∀ k ∈ n.walk, ∀ c ∈ k.children, k.span.contains c.span

theorem nested_iff {n : Node} :
    n.Nested ↔ ∀ c ∈ n.children, n.span.contains c.span ∧ c.Nested := by
  unfold Nested
  rw [walk_eq]
  simp only [List.forall_mem_cons, List.mem_flatMap, forall_exists_index, and_imp]
  constructor
  · rintro ⟨here, below⟩ c hc
    exact ⟨here c hc, fun k hk => below k c hc hk⟩
  · intro h
    exact ⟨fun c hc => (h c hc).1, fun k c hc hk => (h c hc).2 k hk⟩

theorem nested_of_no_parts {n : Node} (none : n.children = []) : n.Nested := by
  rw [nested_iff, none]
  exact List.forall_mem_nil _

end Node

namespace Reading

open ParseTree

variable {r : Reading} {role : Role} {t : ParseTree} {n : Node}

/-- All nodes but the entries of a switch span the trees they are read from. -/
theorem Reads.span_eq (h : r.Reads role t n) (noEntry : role ≠ .entry) :
    n.span = r.source.span t := by
  induction h with
  | localType _ _ ih | localBlock _ _ ih | memberType _ _ ih => exact ih (by decide)
  | rule | groupLabel | lastLabel => exact absurd rfl noEntry
  | _ => rfl

theorem Reads.contains_span (h : r.Reads role t n) (nested : t.Nested) :
    (r.source.span t).contains n.span := by
  by_cases noEntry : role = .entry
  · subst noEntry
    cases h with
    | rule => exact Span.contains_refl _
    | groupLabel _ among =>
      have label := mem_children_of_mem_namedChildren (List.mem_of_mem_filter among)
      exact nested.contains_span r.source (mem_walk_of_mem_children label)
    | lastLabel _ last =>
      have label := mem_children_of_mem_namedChildren
        (List.mem_of_mem_filter (List.mem_of_getLast? last))
      obtain ⟨start, -⟩ := nested.within t t.mem_walk_self _ label
      exact ⟨r.source.span_start_le start, Position.le_refl _⟩
  · rw [h.span_eq noEntry]
    exact Span.contains_refl _

theorem ReadWithin.contains_span (h : r.ReadWithin t n) (nested : t.Nested) :
    (r.source.span t).contains n.span := by
  obtain ⟨role, u, hu, reads⟩ := h
  have inside := nested.contains_span r.source hu
  exact Span.contains_trans inside (reads.contains_span (nested.of_mem_walk hu))

/-- What a label selects lies within the label. -/
theorem contains_labels {labels : List (ParseTree × Node)}
    (labelTrees : labels.map (·.1) = t.parts.map (·.tree))
    (selects : ∀ l ∈ labels, r.Reads .expression l.1 l.2) (nested : t.Nested) :
    ∀ c ∈ labels.map (·.2), (r.source.span t).contains c.span := by
  intro c hc
  have within : r.ReadWithin t c := readWithin_of_pairs labelTrees selects
    (fun h => mem_walk_of_mem_children (mem_children_of_mem_parts h)) c hc
  exact within.contains_span nested

/-- The parts of a node lie within it. -/
theorem Reads.contains_parts (h : r.Reads role t n) (nested : t.Nested) :
    ∀ c ∈ n.children, n.span.contains c.span := by
  have parts := h.parts_within
  intro c hc
  by_cases entry : role = .entry
  · subst entry
    cases h with
    | rule => exact (parts c hc).contains_span nested
    | groupLabel _ among labelTrees selects =>
      have child := mem_children_of_mem_namedChildren (List.mem_of_mem_filter among)
      have label := nested.of_mem_walk (mem_walk_of_mem_children child)
      rcases List.mem_append.1 hc with hc | hc
      · exact contains_labels labelTrees selects label c hc
      · cases hc
    | @lastLabel _ label _ _ type last labelTrees selects trees reads =>
      have among := List.mem_of_getLast? last
      have child := mem_children_of_mem_namedChildren (List.mem_of_mem_filter among)
      rcases List.mem_append.1 hc with hc | hc
      · obtain ⟨-, stop⟩ := nested.within t t.mem_walk_self label child
        have nestedLabel := nested.of_mem_walk (mem_walk_of_mem_children child)
        have inside := contains_labels labelTrees selects nestedLabel c hc
        exact ⟨inside.1, Position.le_trans inside.2 (r.source.span_stop_le stop)⟩
      · obtain ⟨s, hs, rfl⟩ := List.mem_map.1 hc
        have tree : s.1 ∈ t.entryTrees := by
          rw [← trees]
          exact List.mem_map_of_mem hs
        have walked := mem_walk_of_mem_children (mem_children_of_mem_statementTrees tree)
        have inside := (reads s hs).contains_span (nested.of_mem_walk walked)
        have outer := nested.contains_span r.source walked
        -- The entry begins with its label, so that the statement has to stand behind it.
        have start := nested.labelsFirst t t.mem_walk_self type label among s.1 tree
        exact ⟨Position.le_trans (r.source.span_start_le start) inside.1,
          Position.le_trans inside.2 outer.2⟩
  · rw [h.span_eq entry]
    exact (parts c hc).contains_span nested

/-! ## Nested units -/

/-- A directive has no parts. Its own tree may stand below the one it is read from. -/
theorem directive_plain (h : r.directive t = .ok n) :
    n.children = [] ∧ ∃ u ∈ t.walk, n.span = r.source.span u := by
  have named {u : ParseTree} {keyword : String} (hu : u ∈ t.walk)
      (h : r.directiveNamed u keyword = .ok n) :
      n.children = [] ∧ ∃ u ∈ t.walk, n.span = r.source.span u := by
    unfold directiveNamed at h
    split at h
    · cases h
      exact ⟨rfl, u, hu, rfl⟩
    · exact absurd h not_reject
  unfold directive at h
  split at h
  · exact named t.mem_walk_self h
  · split at h
    · rename_i inner hinner
      have child := mem_children_of_find?_namedChildren hinner
      exact named (mem_walk_of_mem_children child) h
    · exact named t.mem_walk_self h

theorem moduleDeclaration_nested (h : r.moduleDeclaration t = .ok n) (nested : t.Nested) :
    n.span = r.source.span t ∧ n.Nested := by
  unfold moduleDeclaration at h
  obtain ⟨directives, hdirectives, h⟩ := bind_eq_ok.1 h
  obtain rfl := pure_eq_ok.1 h
  obtain ⟨pairs, trees, rfl, reads⟩ := mapM_eq_ok hdirectives
  refine ⟨rfl, Node.nested_iff.2 fun c hc => ?_⟩
  obtain ⟨p, hp, rfl⟩ := List.mem_map.1 hc
  obtain ⟨plain, u, hu, span⟩ := directive_plain (reads p hp)
  have tree : p.1 ∈ ((t.field? "body").map (·.namedChildren)).getD [] := by
    have tree := List.mem_map_of_mem (f := Prod.fst) hp
    rw [trees] at tree
    exact List.mem_of_mem_filter tree
  have walked : p.1 ∈ t.walk := by
    cases body : t.field? "body" with
    | none => simp [body] at tree
    | some b =>
      rw [body] at tree
      have child := mem_walk_of_mem_children (mem_children_of_mem_namedChildren tree)
      exact mem_walk_of_below (mem_children_of_field? body) child
  rw [span]
  exact ⟨nested.contains_span r.source (mem_walk_trans walked hu), Node.nested_of_no_parts plain⟩

/-- What stands in a unit spans its tree and is nested. -/
theorem ReadsTop.nested {top : TopLevel} (h : r.ReadsTop t top) (nested : t.Nested) :
    top.node.span = r.source.span t ∧ top.node.Nested := by
  cases h with
  | package => exact ⟨rfl, Node.nested_of_no_parts rfl⟩
  | «import» => exact ⟨rfl, Node.nested_of_no_parts rfl⟩
  | module _ reads => exact moduleDeclaration_nested reads nested
  | type _ reads =>
    refine ⟨reads.span_eq (by decide), fun k hk => ?_⟩
    obtain ⟨role, u, hu, reads⟩ := reads.origin hk
    exact reads.contains_parts (nested.of_mem_walk hu)

/-- Every node of a unit contains its parts if the parse tree is nested. -/
theorem unitOf_contains_parts {level : LanguageLevel} {preview : Bool} {parse : Parse}
    {unit : Node} (nested : parse.root.Nested) (h : r.unitOf level preview parse = .ok unit) :
    ∀ n ∈ unit.walk, ∀ d ∈ n.children, n.span.contains d.span := by
  have parts := unitOf_children h
  obtain ⟨_, _, _, rfl⟩ := unitOf_reads h
  refine Node.nested_iff.2 fun c hc => ?_
  obtain ⟨t, ht, top, reads, rfl⟩ := parts c hc
  have child := mem_walk_of_mem_children (mem_children_of_mem_namedChildren ht)
  obtain ⟨span, below⟩ := reads.nested (nested.of_mem_walk child)
  have inside := nested.contains_span r.source child
  refine ⟨?_, below⟩
  rw [span]
  -- The unit spans the whole source, also what stands in front of its tree.
  exact ⟨Position.le_trans (r.source.first_le_span_start parse.root) inside.1, inside.2⟩

/-! ## A nested unit -/

section Falls

def fallSelector : ParseTree :=
  ⟨"parenthesized_expression", true, false, 15, 18, some "condition",
    [⟨"(", false, false, 15, 16, none, []⟩, ⟨"identifier", true, false, 16, 17, none, []⟩,
      ⟨")", false, false, 17, 18, none, []⟩]⟩

def fallSwitch : ParseTree :=
  ⟨"switch_expression", true, false, 9, 49, none,
    [⟨"switch", false, false, 9, 15, none, []⟩, fallSelector, fallBody]⟩

def fallInitializer : ParseTree :=
  ⟨"block", true, false, 8, 50, none,
    [⟨"\x7b", false, false, 8, 9, none, []⟩, fallSwitch, ⟨"\x7d", false, false, 49, 50, none, []⟩]⟩

def fallClass : ParseTree :=
  ⟨"class_declaration", true, false, 0, 51, none,
    [⟨"class", false, false, 0, 5, none, []⟩, ⟨"identifier", true, false, 6, 7, some "name", []⟩,
      ⟨"class_body", true, false, 7, 51, some "body",
        [⟨"\x7b", false, false, 7, 8, none, []⟩, fallInitializer,
          ⟨"\x7d", false, false, 50, 51, none, []⟩]⟩]⟩

def fallParse : Parse :=
  ⟨⟨"program", true, false, 0, 51, none, [fallClass]⟩, false⟩

def fallSwitchNode : Node :=
  .bare (.ofLines 1 10 1 49)
    (.switchStatement (.bare (.ofLines 1 16 1 18) (.plainExpression [])) fallEntries)

def fallUnit : Node :=
  let block : Node := .bare (.ofLines 1 9 1 50) (.block [fallSwitchNode])
  .bare (.ofLines 1 1 1 51) (.compilationUnit none []
    [.bare (.ofLines 1 1 1 51)
      (.typeDeclaration .class "A" [] [.bare (.ofLines 1 9 1 50) (.initializerBlock block false)])]
    none)

theorem nested_fallParse : fallParse.root.Nested where
  within := by decide
  labelsFirst := by decide

theorem statement_fallSwitch : fallReading.statement fallSwitch = .ok fallSwitchNode := by
  have nested : outermostCode fallSelector.namedChildren = [] := by
    simp [fallSelector, namedChildren, outermostCode, holdsCode]
  have selector : fallReading.expression fallSelector =
      .ok (.bare (.ofLines 1 16 1 18) (.plainExpression [])) := by
    rw [expression_eq]
    show fallReading.plainExpression fallSelector = _
    rw [plainExpression_eq, nested]
    rfl
  rw [statement_eq]
  show (do
    let selector ← fallReading.expression fallSelector
    let entries ← fallReading.switchEntries fallBody
    return fallReading.node fallSwitch (.switchStatement selector entries)) = _
  rw [selector, switchEntries_fallBody]
  rfl

theorem unitOf_fallParse : fallReading.unitOf .latest false fallParse = .ok fallUnit := by
  have walked : (fallParse.root.descendants.filter fun m => !m.tree.isComment) =
      fallParse.root.descendants.filter fun m => !m.tree.isComment := rfl
  conv_rhs at walked => cbv
  have features : fallReading.checkFeatures .latest false fallParse.root = .ok () := by
    rw [checkFeatures, walked]
    rfl
  have block : fallReading.block fallInitializer = (do
      return .bare (.ofLines 1 9 1 50) (.block (← [fallSwitch].mapM fallReading.statement))) := by
    rw [block_eq]
    rfl
  have member : fallReading.member [] fallInitializer = (do
      return .bare (.ofLines 1 9 1 50)
        (.initializerBlock (← fallReading.block fallInitializer) false)) := by
    rw [member_eq]
    rfl
  have type : fallReading.typeDeclaration fallClass = (do
      return .bare (.ofLines 1 1 1 51) (.typeDeclaration .class "A" []
        (← [fallInitializer].mapM (fallReading.member [])))) := by
    rw [Reading.typeDeclaration, bodyMembers_eq]
    rfl
  have top : fallReading.topLevel fallClass = .type <$> fallReading.typeDeclaration fallClass := rfl
  have unit : fallReading.unitOf .latest false fallParse =
      ([fallClass].mapM fallReading.topLevel >>= fallReading.assemble fallParse.root) := by
    rw [unitOf, features]
    rfl
  rw [List.mapM_cons, statement_fallSwitch] at block
  rw [List.mapM_cons, member, block] at type
  rw [unit, List.mapM_cons, top, type]
  rfl

/-- The entries of a switch lie within their switch, and so does the rest of a unit. -/
theorem fallUnit_contains_parts :
    fallParse.root.Nested ∧ fallReading.unitOf .latest false fallParse = .ok fallUnit ∧
      ∀ n ∈ fallUnit.walk, ∀ d ∈ n.children, n.span.contains d.span :=
  ⟨nested_fallParse, unitOf_fallParse, unitOf_contains_parts nested_fallParse unitOf_fallParse⟩

end Falls

end Reading

end JavaCensus
